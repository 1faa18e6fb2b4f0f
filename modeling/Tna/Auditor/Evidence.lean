import Tna.Auditor.Schema

/-!
# The evidence of an assessment

A bundle is the snapshot of Ledger events one run is evaluated on, with a qualification
of each stream they come from. `eventRef` turns an event into a reference and stamps the
qualification of its stream on it.
-/

namespace Tna.Auditor

open Tna.Js Tna.Ledger

/-! ## Events -/

/-- `value?.key`. -/
def member (v : Value) (k : Text) : Value :=
  match v with
  | .obj fields => Value.get fields k
  | _ => .undefined

/-- `value?.key` where `LedgerEvent` declares a string, or nothing. -/
def memberText (v : Value) (k : Text) : Option Text :=
  match member v k with
  | .str t => some t
  | _ => none

/-- `event.actor.id`. -/
def actorId (e : LedgerEvent) : Option Text := memberText e.actor "id"

/-- A field of `event.authority_context`. -/
def authority (k : Text) (e : LedgerEvent) : Option Text := memberText e.authorityContext k

/-- A text field of `event.spec_context`. -/
def spec (k : Text) (e : LedgerEvent) : Option Text := memberText e.specContext k

/-! ## Bundles -/

structure StreamIntegritySummary where
  qualification : EvidenceQualification
  reason : Option Text
  checkedAt : Text
deriving DecidableEq

structure EvidenceConflictRecord where
  description : Text
  eventIds : List Text

structure EvidenceBundle where
  tenantId : Text
  evidenceCutoffAt : Text
  collectedAt : Text
  events : List LedgerEvent
  /-- `Record<string, StreamIntegritySummary>`, by stream. -/
  streamIntegrity : List (Text × StreamIntegritySummary)
  conflicts : List EvidenceConflictRecord
  truncated : Bool

/-- `stream_integrity[stream]?.qualification`. -/
def EvidenceBundle.qualificationOf (b : EvidenceBundle) (streamId : Text) : Option EvidenceQualification :=
  (b.streamIntegrity.lookup streamId).map StreamIntegritySummary.qualification

def eventRef (event : LedgerEvent) (bundle : EvidenceBundle) : EvidenceRef where
  sourceType := .ledgerEvent
  sourceTrust := .verifiedLedger
  eventId := some event.eventId
  streamId := some event.streamId
  sequence := some event.sequence
  eventHash := some event.eventHash
  tenantId := some event.tenantId
  manifestId := none
  manifestHash := none
  observedAt := some event.receivedAt
  integrityQualification := some ((bundle.qualificationOf event.streamId).getD .unverified)
  manifestTrustClass := none

/-! ## Implementation manifests -/

structure ControlImplementationClaim where
  claimId : Text
  controlId : Text
  component : Text
  acceptedTag : Text
  acceptedCommit : Text
  description : Text
  testReference : Text
deriving DecidableEq

def ControlImplementationClaim.toValue (c : ControlImplementationClaim) : Value :=
  .obj [("claim_id", .str c.claimId), ("control_id", .str c.controlId), ("component", .str c.component),
    ("accepted_tag", .str c.acceptedTag), ("accepted_commit", .str c.acceptedCommit),
    ("description", .str c.description), ("test_reference", .str c.testReference)]

structure ControlImplementationManifest where
  manifestId : Text
  createdAt : Text
  claims : List ControlImplementationClaim
  manifestHash : Text
  trustClass : ManifestTrustClass
deriving DecidableEq

def computeManifestHash (sha256 : Text → Text) (claims : List ControlImplementationClaim) : Text :=
  hash sha256 (.arr (claims.map ControlImplementationClaim.toValue))

def verifyManifestIntegrity (sha256 : Text → Text) (manifest : ControlImplementationManifest) : Bool :=
  manifest.manifestHash = computeManifestHash sha256 manifest.claims

def findClaimsForControl (manifest : ControlImplementationManifest) (controlId : Text) :
    List ControlImplementationClaim :=
  manifest.claims.filter fun claim => claim.controlId = controlId

/-- The claims of the accepted baseline. All of them pass `validateClaims`. -/
def acceptedBaselineClaims : List ControlImplementationClaim :=
  [
    { claimId := "baseline.gate-v01.identity-binding", controlId := "TNA-IDENT-001"
      component := "tna-gate", acceptedTag := "tna-gate-v0.1"
      acceptedCommit := "4eca92790d530af73cd81a329ce8acf7085113f5"
      description := "Gate v0.1 binds every authorization decision to a registered agent identity; a governed agent is never issued admin/reader authority over another agent."
      testReference := "tests/gate/*.test.ts (Volume 1 acceptance suite)" },
    { claimId := "baseline.gate-v01.capability-single-use", controlId := "TNA-CAP-002"
      component := "execution-broker", acceptedTag := "tna-gate-v0.1"
      acceptedCommit := "4eca92790d530af73cd81a329ce8acf7085113f5"
      description := "Execution broker capability tokens are single-redemption; a second redemption attempt of the same capability_id is rejected."
      testReference := "tests for capability single-use redemption (Volume 1 acceptance suite)" },
    { claimId := "baseline.gate-v02.isolation-runner", controlId := "TNA-ISO-001"
      component := "isolation-runner", acceptedTag := "tna-gate-v0.2"
      acceptedCommit := "cdb53bec97d197214a7ca99a964f5d88324da693"
      description := "Gate v0.2 mediates execution through an isolation runner and capability brokerage layer rather than direct agent tool access."
      testReference := "Volume 2 acceptance suite (capability brokerage)" },
    { claimId := "baseline.gate-v03.egress-secrets", controlId := "TNA-EGR-001"
      component := "egress-guard", acceptedTag := "tna-gate-v0.3"
      acceptedCommit := "718a801ff9e3085faf4e69d1dbf924a1b6e6c047"
      description := prose "Gate v0.3 adds application-level egress restriction (destination allow-listing, private-address rejection) and isolated execution — not a full SSRF/network-layer guarantee."
      testReference := "Volume 3 acceptance suite (isolated execution, egress enforcement)" },
    { claimId := "baseline.gate-v03.secret-brokerage", controlId := "TNA-SEC-001"
      component := "secret-broker", acceptedTag := "tna-gate-v0.3"
      acceptedCommit := "718a801ff9e3085faf4e69d1dbf924a1b6e6c047"
      description := "Secret brokerage issues short-lived leases rather than handing agents raw long-lived secrets."
      testReference := "Volume 3 acceptance suite (secret brokerage)" },
    { claimId := "baseline.vad-v01.producer-verifier-separation", controlId := "TNA-VER-001"
      component := "vad-runtime", acceptedTag := "vad-engine-v0.1"
      acceptedCommit := "0667484cd6c63aef2be81ad85479a91c2bed631a"
      description := prose "VAD Engine v0.1 excludes prior producer conversation history from the verifier’s retry context and binds a distinct verifier identity."
      testReference := "\"retry context excludes prior producer conversation history\" (Volume 4 acceptance suite)" },
    { claimId := "baseline.vad-v01.bounded-retries", controlId := "TNA-EXEC-002"
      component := "vad-runtime", acceptedTag := "vad-engine-v0.1"
      acceptedCommit := "0667484cd6c63aef2be81ad85479a91c2bed631a"
      description := "VAD Engine v0.1 enforces a runtime-owned attempt budget; a caller cannot select or reset the attempt number."
      testReference := prose "\"runtime owns attempt numbers — caller cannot select or reset them\" (Volume 4 acceptance suite)" },
    { claimId := "baseline.ledger-v01.append-only", controlId := "TNA-EVID-001"
      component := "tna-ledger", acceptedTag := "tna-ledger-v0.1"
      acceptedCommit := "203b8fb6febe711f7c1f47fa6af8b542ea7f3185"
      description := "The accepted Ledger HTTP API exposes no PATCH/PUT/DELETE mutation route for any event or stream; mutation only happens through named, audited append operations."
      testReference := "Ledger HTTP integration suite (no generic mutation routes)" },
    { claimId := "baseline.ledger-v01.integrity-verification", controlId := "TNA-INTEG-001"
      component := "ledger-integrity", acceptedTag := "tna-ledger-v0.1"
      acceptedCommit := "203b8fb6febe711f7c1f47fa6af8b542ea7f3185"
      description := "Ledger streams are hash-chained and independently re-verifiable via verifyStream/verifyAll; tampering is detected, not merely assumed absent."
      testReference := "\"state, revocation and evidence persist across restart; tampering is detected\" (Volume 5 acceptance suite)" },
    { claimId := "baseline.ledger-v01.tenant-isolation", controlId := "TNA-TEN-001"
      component := "ledger-core", acceptedTag := "tna-ledger-v0.1"
      acceptedCommit := "203b8fb6febe711f7c1f47fa6af8b542ea7f3185"
      description := "Every Ledger read/write is scoped by (tenant_id, ...); a cross-tenant caller naming a real stream id gets NOT_FOUND rather than a usable handle."
      testReference := "Ledger tenant isolation suite" },
    { claimId := "baseline.sentinel-v01.policy-drift-rule", controlId := "TNA-RUNTIME-002"
      component := "sentinel-policy", acceptedTag := "tna-sentinel-v0.1"
      acceptedCommit := "eda35ecb14ee6c9e9f13112339cda6648cf92303"
      description := prose "Sentinel v0.1’s rule catalog implements POLICY_CHANGED (all 20 rule types from the Sentinel spec are implemented and tested, not partially stubbed)."
      testReference := "sentinel-signals.test.ts \"POLICY_CHANGED matches when the current policy hash diverges from the session-bound snapshot\"" },
    { claimId := "baseline.sentinel-v01.tool-resource-drift-rule", controlId := "TNA-RUNTIME-003"
      component := "sentinel-policy", acceptedTag := "tna-sentinel-v0.1"
      acceptedCommit := "eda35ecb14ee6c9e9f13112339cda6648cf92303"
      description := prose "Sentinel v0.1’s rule catalog implements TOOL_NOT_ALLOWED, OPERATION_NOT_ALLOWED, and RESOURCE_NOT_ALLOWED (separator-aware matching, VAD V2 lesson carried forward)."
      testReference := "sentinel-signals.test.ts \"TOOL_NOT_ALLOWED / RESOURCE_NOT_ALLOWED\" suite" },
    { claimId := "baseline.sentinel-v01.active-monitoring", controlId := "TNA-RUNTIME-001"
      component := "sentinel-runtime", acceptedTag := "tna-sentinel-v0.1"
      acceptedCommit := "eda35ecb14ee6c9e9f13112339cda6648cf92303"
      description := "Sentinel v0.1 provides a runtime session/observation/decision pipeline capable of continuous behavioral monitoring for an authorized execution."
      testReference := "Sentinel demo Flow A (normal execution monitored, evaluated, completed)" },
    { claimId := "baseline.sentinel-v01.authority-revalidation", controlId := "TNA-RUNTIME-005"
      component := "sentinel-runtime", acceptedTag := "tna-sentinel-v0.1"
      acceptedCommit := "eda35ecb14ee6c9e9f13112339cda6648cf92303"
      description := "Sentinel re-consults authority status on every evaluation rather than caching it from session start; revocation mid-run is detected."
      testReference := "Sentinel race test \"revocation vs. tool call\" (Sentinel G2)" },
    { claimId := "baseline.sentinel-v01.containment-truthfulness", controlId := "TNA-CONTAIN-001"
      component := "sentinel-runtime", acceptedTag := "tna-sentinel-v0.1"
      acceptedCommit := "eda35ecb14ee6c9e9f13112339cda6648cf92303"
      description := prose "Sentinel never reports a termination as confirmed unless the containment call itself did not throw; a concurrency closure pass additionally fixed a mixed-decision race where a stale HOLD could overwrite an already-confirmed TERMINATED status — now prevented by durable CAS/state-version reconciliation, with 14 permanent regression tests."
      testReference := "tests/sentinel/sentinel-concurrency-closure.test.ts; sentinel-v0.1-concurrency-closure.md" },
    { claimId := "baseline.sentinel-v01.emergency-stop", controlId := "TNA-CONTAIN-002"
      component := "sentinel-runtime", acceptedTag := "tna-sentinel-v0.1"
      acceptedCommit := "eda35ecb14ee6c9e9f13112339cda6648cf92303"
      description := "Sentinel emergency stop is durably persisted, tenant/agent/session scoped, admin-only to activate or release, and checked before every evaluation."
      testReference := "Sentinel emergency-stop suite (session/agent/tenant scopes, cross-tenant isolation, restart persistence)" },
    { claimId := "baseline.sentinel-v01.recovery-honesty", controlId := "TNA-RECOV-001"
      component := "sentinel-runtime", acceptedTag := "tna-sentinel-v0.1"
      acceptedCommit := "eda35ecb14ee6c9e9f13112339cda6648cf92303"
      description := "An unconfirmed containment outcome resolves to INDETERMINATE, never a false TERMINATED or a silently-overwritten HELD."
      testReference := "\"containment failure resolves the session to INDETERMINATE, never falsely TERMINATED\"; concurrency closure HOLD-vs-INDETERMINATE regression" }
  ]

def buildAcceptedBaselineManifest (sha256 : Text → Text) (now : Int) : ControlImplementationManifest where
  manifestId := "accepted-baseline-manifest-v0.1"
  createdAt := toIsoString now
  claims := acceptedBaselineClaims
  manifestHash := computeManifestHash sha256 acceptedBaselineClaims
  trustClass := .builtInAcceptedBaseline

end Tna.Auditor
