import Tna.Egress.Addresses
import Tna.Egress.Redirects

/-!
# What a request reaches, and with what

`guarded_of_request`: every fetch of a request was approved with that hop's addresses, there are
no more of them than the limit on redirects allows, and what is withheld from another origin is not
sent behind the first redirect to one.
-/

namespace Tna.Egress

open Tna.Js

/-! ## Private addresses -/

/-! ## What evaluation allows -/

/-- A destination the guard approves, with the addresses of its host. -/
structure Approved (api : Platform) (guard : EgressGuard) (addresses : Option (List Text)) (destination : Destination)
    (canonical : CanonicalDestination) : Prop where
  destination : canonicalizeDestination api destination = .ok canonical
  enabled : guard.policy.mode = .required
  scheme : canonical.url.protocol ∈ protocols
  port : guard.approvesPort canonical.port = true
  allowed : canonical.hostname ∈ guard.allowHosts
  undenied : guard.denies canonical.hostname = false
  remote : isLocalhost canonical.hostname = false
  visible : isPrivateAddress api canonical.hostname = false
  resolved : api.isIP canonical.hostname = 0 →
    ∃ found, addresses = some found ∧ found ≠ [] ∧ ∀ a ∈ found, isPrivateAddress api a = false

/-- A destination is refused, or it has one of the two schemes. -/
theorem canonicalizeDestination_cases (api : Platform) (destination : Destination) :
    (∃ decision, canonicalizeDestination api destination = .error decision ∧ decision.allowed = false) ∨
      ∃ canonical, canonicalizeDestination api destination = .ok canonical ∧ canonical.url.protocol ∈ protocols := by
  rw [canonicalizeDestination]
  split_ifs with hencoded
  · exact Or.inl ⟨_, rfl, rfl⟩
  split
  · exact Or.inl ⟨_, rfl, rfl⟩
  next url _ =>
    by_cases hscheme : url.protocol ∈ protocols
    · rw [if_neg (not_not.2 hscheme)]
      split_ifs
      · exact Or.inl ⟨_, rfl, rfl⟩
      split
      · exact Or.inl ⟨_, rfl, rfl⟩
      split_ifs
      · exact Or.inl ⟨_, rfl, rfl⟩
      split
      · exact Or.inl ⟨_, rfl, rfl⟩
      · exact Or.inr ⟨_, rfl, hscheme⟩
    · rw [if_pos hscheme]
      exact Or.inl ⟨_, rfl, rfl⟩

variable {api : Platform} {guard : EgressGuard} {h : Header} {headers : List Header}

/-- **What an allowed evaluation has checked.** -/
theorem approved_of_allowed {addresses : Option (List Text)} {destination : Destination}
    (h : (guard.evaluate api addresses destination).allowed = true) :
    ∃ canonical, Approved api guard addresses destination canonical ∧
      (guard.evaluate api addresses destination).destination = canonical.url.href := by
  have hmode : guard.policy.mode ≠ .none := by
    intro hmode
    rw [EgressGuard.evaluate, if_pos hmode] at h
    cases h
  rw [EgressGuard.evaluate, if_neg hmode] at h ⊢
  obtain ⟨decision, hcanonical, hdecision⟩ | ⟨canonical, hcanonical, hscheme⟩ := canonicalizeDestination_cases api destination
  · rw [hcanonical] at h
    cases hdecision.symm.trans h
  rw [hcanonical] at h ⊢
  have henabled : guard.policy.mode = .required := by
    cases hguard : guard.policy.mode with
    | none => exact absurd hguard hmode
    | required => rfl
  simp only at h ⊢
  split_ifs at h ⊢ with hlocal hprivate hport hdenied hallowed hip
  · refine ⟨canonical, ⟨hcanonical, henabled, hscheme, by simpa using hport, hallowed, by simpa using hdenied,
      by simpa using hlocal, by simpa using hprivate, fun h => absurd h hip⟩, rfl⟩
  cases addresses with
  | none => cases h
  | some found =>
    simp only at h ⊢
    split_ifs at h ⊢ with hempty hany
    refine ⟨canonical, ⟨hcanonical, henabled, hscheme, by simpa using hport, hallowed, by simpa using hdenied,
      by simpa using hlocal, by simpa using hprivate, fun _ => ⟨found, rfl, hempty, fun a ha => ?_⟩⟩, rfl⟩
    exact Bool.eq_false_iff.2 fun hp => hany (List.any_eq_true.2 ⟨a, ha, hp⟩)

/-! ## What a redirect takes along -/

/-- The headers of a request may all be sent to another origin. -/
def EgressGuard.Forwards (guard : EgressGuard) (init : RequestInit) : Prop := ∀ h ∈ init.headers, guard.withholds h.name = false

theorem mem_foldl_delete {names : List Text}
    (hmem : h ∈ names.foldl (fun kept name => if guard.withholds name then deleteHeader kept name else kept) headers) :
    h ∈ headers ∧ (h.name ∈ names → guard.withholds h.name = false) := by
  induction names generalizing headers with
  | nil => exact ⟨hmem, fun hname => absurd hname List.not_mem_nil⟩
  | cons name names ih =>
    obtain ⟨hkept, hlater⟩ := ih hmem
    simp only at hkept
    split_ifs at hkept with hwithheld
    · obtain ⟨hbefore, hne⟩ := List.mem_filter.1 hkept
      refine ⟨hbefore, fun hname => hlater ?_⟩
      exact (List.mem_cons.1 hname).resolve_left (by simpa using hne)
    · refine ⟨hkept, fun hname => ?_⟩
      rcases List.mem_cons.1 hname with heq | hname
      · rw [heq]
        exact Bool.eq_false_iff.2 hwithheld
      · exact hlater hname

/-- Stripping leaves what may be forwarded. -/
theorem withholds_of_mem_strip (hmem : h ∈ guard.strip headers) : guard.withholds h.name = false := by
  obtain ⟨hheaders, hnames⟩ := mem_foldl_delete hmem
  exact hnames (List.mem_dedup.2 (List.mem_map_of_mem hheaders))

/-- The origin of a URL that was fetched. -/
def originOf (api : Platform) (url : Text) : Option Text := (api.parse url).map Url.origin

/-- The server answered with a redirect to the URL. -/
structure Redirects (api : Platform) (f : Fetched) (target : Url) : Prop where
  answered : ∃ response location, f.response = some response ∧ 300 ≤ response.status ∧ response.status < 400 ∧
    response.location = some location ∧ api.resolve location f.url = some target

/-- A redirect that was followed was below the limit, and across origins it took along stripped headers. -/
theorem follow_ok {redirects : Nat} {f : Fetched} {next : Url} {init : RequestInit}
    (h : guard.follow api redirects f = .ok (next, init)) :
    Redirects api f next ∧ guard.reachesLimit redirects = false ∧
      (originOf api f.url = some next.origin ∧ init = f.init ∨ guard.Forwards init) := by
  rw [EgressGuard.follow] at h
  cases hresponse : f.response with
  | none =>
    rw [hresponse] at h
    cases h
  | some response =>
    rw [hresponse] at h
    simp only at h
    by_cases hstatus : response.status < 300 ∨ 400 ≤ response.status
    · rw [if_pos hstatus] at h
      cases h
    rw [if_neg hstatus] at h
    split at h
    · cases h
    next c rest hlocation =>
      cases hlimit : guard.reachesLimit redirects with
      | true =>
        rw [hlimit, if_pos rfl] at h
        cases h
      | false =>
        rw [hlimit, if_neg Bool.false_ne_true] at h
        split at h
        · cases h
        next target htarget =>
          have hanswered : Redirects api f target := by
            refine ⟨response, c :: rest, hresponse, by omega, by omega, ?_, htarget⟩
            cases hsome : response.location with
            | none =>
              rw [hsome] at hlocation
              cases hlocation
            | some location =>
              rw [hsome] at hlocation
              exact congrArg some hlocation
          split at h
          · cases h
          next url hurl =>
            split_ifs at h with horigin
            · cases h
              exact ⟨hanswered, rfl, Or.inl ⟨by rw [originOf, hurl, ← horigin]; rfl, rfl⟩⟩
            split at h
            · cases h
            · cases h
              exact ⟨hanswered, rfl, Or.inr fun _ hmem => withholds_of_mem_strip hmem⟩

/-! ## The whole request -/

/-- What holds of the fetches of a request. -/
structure Guarded (api : Platform) (guard : EgressGuard) (fetches : List Fetched) : Prop where
  /-- Right before each fetch its destination was evaluated and approved. -/
  approved : ∀ f ∈ fetches, (guard.evaluate api f.addresses f.current).allowed = true ∧
    ∃ canonical, Approved api guard f.addresses f.current canonical ∧ f.url = canonical.url.href
  /-- A number that reaches the limit on redirects bounds the redirects that are followed. -/
  bounded : ∀ limit, guard.reachesLimit limit = true → fetches.length ≤ limit + 1
  /-- Each later destination is where the server redirected to. -/
  chained : fetches.IsChain fun f next => ∃ target, next.current = .url target ∧ Redirects api f target
  /-- Behind the first redirect to another origin nothing is sent that is withheld from one. -/
  stripped : ∀ before f next after target, fetches = before ++ f :: next :: after → next.current = .url target →
    originOf api f.url ≠ some target.origin → ∀ g ∈ next :: after, guard.Forwards g.init

/-- A fetch that the loop makes when it is at a destination. -/
structure Made (api : Platform) (guard : EgressGuard) (current : Destination) (init : RequestInit) (f : Fetched) : Prop where
  current_eq : f.current = current
  init_eq : f.init = init
  evaluated : (guard.evaluate api f.addresses current).allowed = true
  url_eq : f.url = (guard.evaluate api f.addresses current).destination

/-- The fetches of a loop, from a number of redirects on. -/
inductive Fetches (api : Platform) (guard : EgressGuard) : Nat → Destination → RequestInit → List Fetched → Prop where
  | nothing {redirects current init} : Fetches api guard redirects current init []
  | last {redirects current init f} (made : Made api guard current init f) : Fetches api guard redirects current init [f]
  | followed {redirects current init f next init' rest} (made : Made api guard current init f)
      (follow : guard.follow api redirects f = .ok (next, init')) (later : Fetches api guard (redirects + 1) (.url next) init' rest) :
      Fetches api guard redirects current init (f :: rest)

theorem fetches_of_requestLoop (api : Platform) (guard : EgressGuard) (hops : List Hop) (redirects : Nat) (current : Destination)
    (init : RequestInit) : Fetches api guard redirects current init (guard.requestLoop api hops redirects current init).1 := by
  induction hops generalizing redirects current init with
  | nil => exact .nothing
  | cons hop hops ih =>
    rw [EgressGuard.requestLoop]
    simp only
    split_ifs with hallowed
    · have hmade : Made api guard current init
          ⟨current, hop.addresses, (guard.evaluate api hop.addresses current).destination, init, hop.response⟩ :=
        ⟨rfl, rfl, hallowed, rfl⟩
      split
      · exact .last hmade
      next hfollow => exact .followed hmade hfollow (ih ..)
    · exact .nothing

section
variable {api : Platform} {guard : EgressGuard} {redirects : Nat} {current : Destination} {init : RequestInit} {fetches : List Fetched}

variable {f : Fetched}

/-- The loop begins with the destination and the headers it is given. -/
theorem Fetches.head (h : Fetches api guard redirects current init fetches) (hf : fetches.head? = some f) :
    f.current = current ∧ f.init = init := by
  cases h with
  | nothing => cases hf
  | last made =>
    cases hf
    exact ⟨made.current_eq, made.init_eq⟩
  | followed made _ _ =>
    cases hf
    exact ⟨made.current_eq, made.init_eq⟩

theorem Made.approved (h : Made api guard current init f) :
    (guard.evaluate api f.addresses f.current).allowed = true ∧
      ∃ canonical, Approved api guard f.addresses f.current canonical ∧ f.url = canonical.url.href := by
  have hallowed : (guard.evaluate api f.addresses f.current).allowed = true := by
    rw [h.current_eq]
    exact h.evaluated
  obtain ⟨canonical, happroved, hurl⟩ := approved_of_allowed hallowed
  refine ⟨hallowed, canonical, happroved, ?_⟩
  rw [h.url_eq, ← h.current_eq, hurl]

theorem Fetches.approved (h : Fetches api guard redirects current init fetches) :
    ∀ f ∈ fetches, (guard.evaluate api f.addresses f.current).allowed = true ∧
      ∃ canonical, Approved api guard f.addresses f.current canonical ∧ f.url = canonical.url.href := by
  induction h with
  | nothing => exact List.forall_mem_nil _
  | last made => exact List.forall_mem_singleton.2 made.approved
  | followed made _ _ ih => exact List.forall_mem_cons.2 ⟨made.approved, ih⟩

theorem reachesLimit_mono {m n : Nat} (h : m ≤ n) (hm : guard.reachesLimit m = true) : guard.reachesLimit n = true := by
  unfold EgressGuard.reachesLimit at *
  split at hm
  · cases hm
  · exact hm
  · have hlimit := of_decide_eq_true hm
    exact decide_eq_true (hlimit.trans (by exact_mod_cast h))

/-- What is left of the limit bounds the fetches behind the first. -/
theorem Fetches.length_le (h : Fetches api guard redirects current init fetches) {limit : Nat}
    (hlimit : guard.reachesLimit limit = true) : fetches.length ≤ limit - redirects + 1 := by
  induction h with
  | nothing => exact Nat.zero_le _
  | last made => exact Nat.le_add_left ..
  | @followed redirects _ _ _ _ _ rest made follow later ih =>
    have hbelow : redirects < limit := by
      by_contra hle
      have hreached := reachesLimit_mono (Nat.not_lt.1 hle) hlimit
      rw [(follow_ok follow).2.1] at hreached
      cases hreached
    rw [List.length_cons]
    omega

theorem Fetches.chained (h : Fetches api guard redirects current init fetches) :
    fetches.IsChain fun f next => ∃ target, next.current = .url target ∧ Redirects api f target := by
  induction h with
  | nothing => exact .nil
  | last made => exact .singleton _
  | @followed _ _ _ f next _ rest made follow later ih =>
    cases rest with
    | nil => exact .singleton _
    | cons g rest => exact .cons_cons ⟨next, (later.head rfl).1, (follow_ok follow).1⟩ ih

/-- **Headers that may be forwarded stay so**: no redirect adds one. -/
theorem Fetches.forwards (h : Fetches api guard redirects current init fetches) (hinit : guard.Forwards init) :
    ∀ f ∈ fetches, guard.Forwards f.init := by
  induction h with
  | nothing => exact List.forall_mem_nil _
  | last made =>
    rw [List.forall_mem_singleton, made.init_eq]
    exact hinit
  | followed made follow later ih =>
    refine List.forall_mem_cons.2 ⟨by rw [made.init_eq]; exact hinit, ih ?_⟩
    obtain ⟨-, rfl⟩ | hforwards := (follow_ok follow).2.2
    · rw [made.init_eq]
      exact hinit
    · exact hforwards

/-- Behind the first redirect to another origin only what may be forwarded is sent. -/
theorem Fetches.stripped (h : Fetches api guard redirects current init fetches) {before after : List Fetched} {next : Fetched}
    {target : Url} (hsplit : fetches = before ++ f :: next :: after) (htarget : next.current = .url target)
    (hcross : originOf api f.url ≠ some target.origin) : ∀ g ∈ next :: after, guard.Forwards g.init := by
  induction h generalizing before with
  | nothing => simp at hsplit
  | last made =>
    have hlength := congrArg List.length hsplit
    simp at hlength
    omega
  | @followed _ _ _ made _ init' rest _ follow later ih =>
    cases before with
    | nil =>
      -- the redirect is the one behind the first fetch
      obtain ⟨rfl, rfl⟩ := List.cons.inj hsplit
      obtain ⟨hcurrent, -⟩ := later.head (f := next) rfl
      cases htarget.symm.trans hcurrent
      obtain ⟨hsame, -⟩ | hforwards := (follow_ok follow).2.2
      · exact absurd hsame hcross
      · exact later.forwards hforwards
    | cons _ before => exact ih (List.cons.inj hsplit).2

end

/-- **Each fetch of a request is approved, the redirects are bounded, and what is withheld from another
origin is not sent behind a redirect to one.** -/
theorem guarded_of_request (api : Platform) (guard : EgressGuard) (hops : List Hop) (input : Destination) (init : RequestInit) :
    Guarded api guard (guard.request api hops input init).1 := by
  have h := fetches_of_requestLoop api guard hops 0 input init
  exact ⟨h.approved, fun limit hlimit => h.length_le hlimit, h.chained,
    fun _ _ _ _ _ hsplit htarget hcross => h.stripped hsplit htarget hcross⟩

/-! ## A negative limit -/

def sampleUrl : Url where
  href := "https://api.example.com/"
  protocol := "https:"
  username := []
  password := []
  hostname := "api.example.com"
  port := []
  origin := "https://api.example.com"

def samplePlatform : Platform where
  parse t := if t = sampleUrl.href then some sampleUrl else none
  resolve _ _ := none
  isIP t := if t = Text.ofAscii "93.184.216.34" then 4 else 0

def sampleEgress : EgressPolicy where
  mode := .required
  allowHosts := ["api.example.com"]
  denyHosts := []
  approvedPorts := none
  credentialHeaders := []

def sampleHop : Hop := ⟨some ["93.184.216.34"], some ⟨200, none⟩⟩

/-- A limit below zero does not keep the first fetch from being made. -/
theorem not_within_negative_limit :
    ¬ ∀ (api : Platform) (policy : EgressPolicy) (limit : ℚ) (guard : EgressGuard) (hops : List Hop) (input : Destination)
        (init : RequestInit), EgressGuard.create api policy (some (.finite limit)) = some guard →
        ((guard.request api hops input init).1.length : ℚ) ≤ limit + 1 := by
  intro h
  have hfetched : ((EgressGuard.create samplePlatform sampleEgress (some (.finite (-1)))).any fun guard =>
      (guard.request samplePlatform [sampleHop] (.text sampleUrl.href) ⟨none, []⟩).1.length == 1) = true := by decide +kernel
  obtain ⟨guard, hguard, hlength⟩ := (Option.any_eq_true ..).1 hfetched
  have hbound := h samplePlatform sampleEgress (-1) guard [sampleHop] (.text sampleUrl.href) ⟨none, []⟩ hguard
  rw [beq_iff_eq.1 hlength] at hbound
  norm_num at hbound

end Tna.Egress
