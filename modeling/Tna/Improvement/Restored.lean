import Tna.Improvement.Accepted

/-!
# What a rollback proves

A rollback says `ROLLED_BACK` of its record, and then of its generation, once a workspace of
its target is there. It compares neither the content of the workspace with what was
recorded of it nor the systems of the two generations.
-/

namespace Tna.Improvement

open Tna.Lib Tna.Js

/-- The content of a generation's tracked workspace. -/
def Governor.trackedTree (x : Governor) (generationId : Text) : Option Tree :=
  (x.workspaces.lookup generationId).bind fun w =>
    let path := w.candidateWorkspacePath.getD w.parentWorkspacePath
    if path = [] then none else x.disk path

/-- A record of a rollback, or a generation, comes to say `ROLLED_BACK`. -/
def ClaimsRestoration (x y : Governor) : Prop :=
  (∃ id record, y.store.rollbacks.get id = some record ∧ record.status = .rolledBack ∧
    ∀ old, x.store.rollbacks.get id = some old → old.status ≠ .rolledBack) ∨
  ∃ generationId, y.store.statusOf generationId = some .rolledBack ∧ x.store.statusOf generationId ≠ some .rolledBack

/-- The target is of the same system, and the content of its workspace is what was recorded when it was built. -/
def ContentRecorded (d : GovernorDeps) (x : Governor) (generationId targetId : Text) : Prop :=
  ∃ g target tree, x.store.getGeneration d.tenantId generationId = .ok g ∧
    x.store.getGeneration d.tenantId targetId = .ok target ∧ target.systemId = g.systemId ∧
    x.trackedTree targetId = some tree ∧ target.sourceHashAfter = some (hashDirectoryTree d.sha256 tree)

/-- If a rollback comes to complete its record, its target is of the same system, and its workspace is as it was recorded. -/
def TargetUnchanged (d : GovernorDeps) (c : RequestContext) (generationId : Text) (raw : JsValue) (x : Governor) : Prop :=
  ∀ body g target tree, RollbackBegins d c generationId raw x body → c.commits 1 = true →
    x.store.getGeneration d.tenantId generationId = .ok g →
    x.store.getGeneration d.tenantId body.targetGenerationId = .ok target →
    x.trackedTree body.targetGenerationId = some tree →
    target.systemId = g.systemId ∧ target.sourceHashAfter = some (hashDirectoryTree d.sha256 tree)

section
variable {d : GovernorDeps} {c : RequestContext} {generationId : Text} {raw : JsValue} {x y : Governor}

/-! ## What a rollback does -/

/-! ## The claim of a rollback -/

end

/-! ## A target that was changed -/

/-- A governor whose promoted generation was built from one tree, and whose workspace holds another. -/
def changedGovernor : Governor := { sampleGovernor with
  store := { sampleGovernor.store with
    generations := (Keyed.empty.put { rollbackGeneration "g0" .promoted with
      sourceHashAfter := some (hashDirectoryTree sampleSha256 sampleParent) }).put (rollbackGeneration "g1" .canary) } }

def hashingDeps : GovernorDeps := { sampleDeps with sha256 := sampleSha256 }

end Tna.Improvement
