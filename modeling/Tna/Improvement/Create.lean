import Tna.Improvement.Store
import Tna.Lib.Transition

/-!
# Creating a generation

`handleCreate`, statement by statement: it finds or makes the system, reads or makes its
budget, refuses when the budget is exhausted, stores the generation, and only then counts
it against the budget it read. Several governors may do this at once on one database, so
what one of them knows stands between its statements.
-/

namespace Tna.Improvement

open Tna.Lib Tna.Js

/-- The body of a create request. What may be left out is optional. -/
structure CreateBody where
  systemId : Text
  parentGenerationId : Option Text
  parentWorkspacePath : Text
  objective : Text
  improvementClass : ImprovementClass
  allowedMutationPaths : List Text
  forbiddenMutationPaths : Option (List Text)
  authorityCeiling : AuthorityCeiling
  candidateVersion : Text
  createdBy : Text
  recursionLimits : Option RecursionLimits
  evaluationProfileId : Option Text
  requiredBenchmarks : Option (List Text)
  requiredSecurityTests : Option (List Text)
  canaryPolicy : Option CanaryPolicy
  rollbackPolicy : Option RollbackPolicy
  maxRuntimeMs : Option Rat
  maxCostUsd : Option Rat

def CreateBody.limits (b : CreateBody) : RecursionLimits := b.recursionLimits.getD defaultRecursionLimits

def CreateBody.specInput (b : CreateBody) (tenantId systemId : Text) : ImprovementSpecInput where
  systemId := systemId
  tenantId := tenantId
  parentGenerationId := b.parentGenerationId
  objective := b.objective
  improvementClass := b.improvementClass
  allowedMutationPaths := b.allowedMutationPaths
  forbiddenMutationPaths := b.forbiddenMutationPaths.getD []
  authorityCeiling := b.authorityCeiling
  evaluationProfileId := b.evaluationProfileId.getD "default"
  requiredBenchmarks := b.requiredBenchmarks.getD []
  requiredSecurityTests := b.requiredSecurityTests.getD []
  canaryPolicy := b.canaryPolicy.getD ⟨5, 20, 60000, 1 / 10, true, 1⟩
  rollbackPolicy := b.rollbackPolicy.getD ⟨b.parentGenerationId, ["CANARY_HEALTH_FAILURE"]⟩
  maxRuntimeMs := b.maxRuntimeMs.getD 600000
  maxCostUsd := b.maxCostUsd.getD 5
  createdBy := b.createdBy

/-- A create request of a governor, which works for one tenant. -/
structure CreateRequest where
  tenantId : Text
  body : CreateBody

/-- Where a create stands, with what it knows. One that threw had stored the generation it names, if it names one. -/
inductive CreatePc where
  | started
  | unnamed
  | named (systemId : Text)
  | unbudgeted (systemId : Text)
  | rereads (systemId : Text)
  | budgeted (systemId : Text) (budget : RecursionBudget)
  | inserted (systemId generationId : Text) (budgetVersion : Nat) (spec : ImprovementSpec)
  | counted (generationId : Text) (spec : ImprovementSpec)
  | saved (generationId specId : Text)
  | done (generationId specId : Text)
  | threw (e : ImprovementThrown) (generationId : Option Text)

/-- What a statement finds around it: whether the database does what it is told, the ids that are minted, the hash of
the parent's tree if it can be read, and whether the ledger takes the event. -/
structure CreateAnswer where
  commits : Bool
  newId : Text
  newSpecId : Text
  parentHash : Option Text
  ledgerOk : Bool

section
variable {α : Type}

/-- A statement of the database, and where the create stands after it. -/
def attempt (s : ImprovementStore) (commits : Bool) (generationId : Option Text) (result : ImprovementStore.Result α)
    (next : α → CreatePc) : ImprovementStore × CreatePc :=
  if commits then
    match result with
    | .ok (v, t) => (t, next v)
    | .error e => (s, .threw e generationId)
  else (s, .threw .other generationId)

end

def exhaustedMessage (systemId : Text) (reasons : List Text) : Text :=
  Text.ofAscii "Recursion budget exhausted for system " ++ systemId ++ Text.ofAscii ": " ++ joined ", " reasons

/-- The statement that stores the generation, after all that is checked before it. -/
def storeGeneration (digest : ImprovementSpecInput → Text → Text) (s : ImprovementStore) (r : CreateRequest)
    (systemId : Text) (budget : RecursionBudget) (a : CreateAnswer) : ImprovementStore × CreatePc :=
  if checkRecursionBudget budget ≠ [] then
    (s, .threw (if a.ledgerOk then
      .improvement .budgetExhausted (exhaustedMessage systemId (checkRecursionBudget budget)) else .other) none)
  else
    match buildImprovementSpec digest (r.body.specInput r.tenantId systemId) a.newSpecId, a.parentHash with
    | .error e, _ => (s, .threw e none)
    | .ok _, none => (s, .threw .other none)
    | .ok spec, some sourceHashBefore =>
      attempt s a.commits none
        (s.createGeneration
          { tenantId := r.tenantId, systemId, parentGenerationId := r.body.parentGenerationId
            candidateVersion := r.body.candidateVersion, improvementClass := r.body.improvementClass
            specHash := spec.specHash, sourceHashBefore, createdBy := r.body.createdBy } a.newId)
        fun g => .inserted systemId g.generationId budget.stateVersion spec

/-- The next statement of a create; nothing when it has answered or thrown. -/
def createStep (digest : ImprovementSpecInput → Text → Text) (s : ImprovementStore) (r : CreateRequest) (pc : CreatePc)
    (a : CreateAnswer) : Option (ImprovementStore × CreatePc) :=
  match pc with
  | .started =>
    match s.findSystemByName r.tenantId r.body.systemId with
    | some system => some (s, .named system.systemId)
    | none => some (s, .unnamed)
  | .unnamed =>
    some (attempt s a.commits none (s.createSystem r.tenantId r.body.systemId r.body.createdBy a.newId) fun system =>
      .named system.systemId)
  | .named systemId =>
    match s.getRecursionBudget r.tenantId systemId with
    | .ok budget => some (s, .budgeted systemId budget)
    | .error _ => some (s, .unbudgeted systemId)
  | .unbudgeted systemId =>
    some (attempt s a.commits none (s.insertRecursionBudget r.tenantId systemId r.body.limits) fun _ => .rereads systemId)
  | .rereads systemId =>
    match s.getRecursionBudget r.tenantId systemId with
    | .ok budget => some (s, .budgeted systemId budget)
    | .error e => some (s, .threw e none)
  | .budgeted systemId budget => some (storeGeneration digest s r systemId budget a)
  | .inserted systemId generationId budgetVersion spec =>
    some (attempt s a.commits (some generationId)
      (s.consumeRecursionBudget r.tenantId systemId budgetVersion { generations := 1 }) fun _ => .counted generationId spec)
  | .counted generationId spec =>
    some (attempt s a.commits (some generationId) (s.saveSpec r.tenantId generationId spec) fun _ =>
      .saved generationId spec.specId)
  | .saved generationId specId =>
    some (s, if a.ledgerOk then .done generationId specId else .threw .other (some generationId))
  | .done _ _ => none
  | .threw _ _ => none

/-! ## Many creates at once -/

/-- A database, and the creates that work on it. -/
structure CreateSystem where
  store : ImprovementStore
  creates : Table Nat (CreateRequest × CreatePc)

def CreateSystem.start : CreateSystem := ⟨.empty, ∅⟩

inductive CreateLabel where
  | begins (i : Nat) (request : CreateRequest)
  | goesOn (i : Nat) (a : CreateAnswer)

def CreateSystem.next (digest : ImprovementSpecInput → Text → Text) (x : CreateSystem) : CreateLabel → Option CreateSystem
  | .begins i request =>
    match x.creates.lookup i with
    | some _ => none
    | none => some { x with creates := x.creates.insert i (request, .started) }
  | .goesOn i a =>
    match x.creates.lookup i with
    | none => none
    | some (request, pc) =>
      (createStep digest x.store request pc a).map fun after => ⟨after.1, x.creates.insert i (request, after.2)⟩

/-! ## What a statement does -/

/-- An error a create answers of its own accord: what is wrong with the request, an exhausted budget, a lost race. A spec's
id is minted, so a spec that is there already is none of these. -/
def ImprovementThrown.refusal : ImprovementThrown → Bool
  | .improvement .specImmutable _ => false
  | .improvement _ _ => true
  | _ => false

/-- A create that neither knows a budget nor waits to be counted, and has not been refused over a stored generation. -/
def CreatePc.idle : CreatePc → Bool
  | .budgeted _ _ => false
  | .inserted _ _ _ _ => false
  | .threw e (some _) => !e.refusal
  | _ => true

/-- What one statement of a create can do. -/
inductive CreateMove (s : ImprovementStore) (r : CreateRequest) (a : CreateAnswer) :
    CreatePc → ImprovementStore → CreatePc → Prop where
  | idles {pc pc' : CreatePc} {t : ImprovementStore} (hbudgets : t.budgets = s.budgets)
      (hgenerations : t.generations = s.generations) (hold : ∀ systemId g v spec, pc ≠ .inserted systemId g v spec)
      (hidle : pc'.idle = true) : CreateMove s r a pc t pc'
  | reads {pc : CreatePc} {systemId : Text} {budget : RecursionBudget}
      (hold : ∀ systemId g v spec, pc ≠ .inserted systemId g v spec)
      (hbudget : s.getRecursionBudget r.tenantId systemId = .ok budget) : CreateMove s r a pc s (.budgeted systemId budget)
  | budgets {systemId : Text} (hnone : s.budgets.get systemId = none) : CreateMove s r a (.unbudgeted systemId)
      { s with budgets := s.budgets.put (ImprovementStore.newRecursionBudget r.tenantId systemId r.body.limits) }
      (.rereads systemId)
  | stores {systemId : Text} {budget : RecursionBudget} {g : ImprovementGeneration} {spec : ImprovementSpec}
      (hleft : checkRecursionBudget budget = []) (hnew : s.generations.get g.generationId = none)
      (hsystem : g.systemId = systemId) : CreateMove s r a (.budgeted systemId budget)
      { s with generations := s.generations.put g } (.inserted systemId g.generationId budget.stateVersion spec)
  | counts {systemId generationId : Text} {spec : ImprovementSpec} {budget : RecursionBudget}
      (hbudget : s.budgets.get systemId = some budget) (htenant : budget.tenantId = r.tenantId) :
      CreateMove s r a (.inserted systemId generationId budget.stateVersion spec)
      { s with budgets := s.budgets.put (budget.plus { generations := 1 }) } (.counted generationId spec)
  | loses {systemId generationId : Text} {version : Nat} {spec : ImprovementSpec} {e : ImprovementThrown}
      (hlost : a.commits = false ∨ ∀ b, s.budgets.get systemId = some b → b.tenantId = r.tenantId → b.stateVersion ≠ version) :
      CreateMove s r a (.inserted systemId generationId version spec) s (.threw e (some generationId))

section
variable {digest : ImprovementSpecInput → Text → Text} {s t : ImprovementStore} {r : CreateRequest} {pc pc' : CreatePc}
  {a : CreateAnswer}

variable {budget : RecursionBudget} {systemId tenantId newId : Text}

theorem getRecursionBudget_ok (h : s.getRecursionBudget tenantId systemId = .ok budget) :
    s.budgets.get systemId = some budget ∧ budget.tenantId = tenantId := by
  unfold ImprovementStore.getRecursionBudget at h
  split at h
  · next b hget =>
    split at h
    · next htenant =>
      cases h
      exact ⟨hget, htenant⟩
    · cases h
  · cases h

/-- A statement of the database did what it was told, or the create threw and nothing changed. -/
theorem attempt_cases {α : Type} {commits : Bool} {generationId : Option Text} {result : ImprovementStore.Result α}
    {next : α → CreatePc} (h : attempt s commits generationId result next = (t, pc')) :
    (∃ v, commits = true ∧ result = .ok (v, t) ∧ pc' = next v) ∨
      (t = s ∧ ((commits = false ∧ pc' = .threw .other generationId) ∨
        ∃ e, result = .error e ∧ pc' = .threw e generationId)) := by
  unfold attempt at h
  split at h
  · next hcommits =>
    split at h
    · cases h
      exact .inl ⟨_, hcommits, rfl, rfl⟩
    · cases h
      exact .inr ⟨rfl, .inr ⟨_, rfl, rfl⟩⟩
  · next hcommits =>
    cases h
    exact .inr ⟨rfl, .inl ⟨by simpa using hcommits, rfl⟩⟩

theorem createGeneration_ok {i : ImprovementStore.CreateGenerationInput} {g : ImprovementGeneration}
    (h : s.createGeneration i newId = .ok (g, t)) :
    s.generations.get g.generationId = none ∧ g.systemId = i.systemId ∧ g.tenantId = i.tenantId ∧ g.status = .proposed ∧
      t = { s with generations := s.generations.put g } := by
  unfold ImprovementStore.createGeneration at h
  split at h
  · cases h
  · split at h
    · cases h
    · split at h
      · cases h
      · next hnone =>
        cases h
        exact ⟨hnone, rfl, rfl, rfl, rfl⟩

theorem createSystem_ok {name createdBy : Text} {system : ImprovementSystem}
    (h : s.createSystem tenantId name createdBy newId = .ok (system, t)) :
    s.systems.get system.systemId = none ∧ system.acceptedGenerationId = none ∧
      t = { s with systems := s.systems.put system } := by
  unfold ImprovementStore.createSystem at h
  split at h
  · cases h
  · next hnone =>
    cases h
    exact ⟨hnone, rfl, rfl⟩

theorem insertRecursionBudget_ok {limits : RecursionLimits}
    (h : s.insertRecursionBudget tenantId systemId limits = .ok (budget, t)) :
    s.budgets.get systemId = none ∧ budget = ImprovementStore.newRecursionBudget tenantId systemId limits ∧
      t = { s with budgets := s.budgets.put budget } := by
  unfold ImprovementStore.insertRecursionBudget at h
  split at h
  · cases h
  · next hnone =>
    cases h
    exact ⟨hnone, rfl, rfl⟩

theorem consumeRecursionBudget_cases (s : ImprovementStore) (tenantId systemId : Text) (version : Nat)
    (deltas : BudgetDeltas) :
    (∃ b, s.budgets.get systemId = some b ∧ b.tenantId = tenantId ∧ b.stateVersion = version ∧
      s.consumeRecursionBudget tenantId systemId version deltas =
        .ok (b.plus deltas, { s with budgets := s.budgets.put (b.plus deltas) })) ∨
    ((∀ b, s.budgets.get systemId = some b → b.tenantId = tenantId → b.stateVersion ≠ version) ∧
      s.consumeRecursionBudget tenantId systemId version deltas =
        .error (.improvement .conflict "Recursion budget changed concurrently")) := by
  unfold ImprovementStore.consumeRecursionBudget
  cases hget : s.getRecursionBudget tenantId systemId with
  | error e =>
    refine .inr ⟨fun b hb htenant => ?_, rfl⟩
    unfold ImprovementStore.getRecursionBudget at hget
    simp [hb, htenant] at hget
  | ok b =>
    obtain ⟨hb, htenant⟩ := getRecursionBudget_ok hget
    by_cases hversion : b.stateVersion = version
    · exact .inl ⟨b, hb, htenant, hversion, by simp [hversion]⟩
    · refine .inr ⟨fun b' hb' _ => ?_, by simp [hversion]⟩
      cases hb.symm.trans hb'
      exact hversion

theorem saveSpec_cases {generationId : Text} {spec : ImprovementSpec} {result : ImprovementStore.Result Unit}
    (h : s.saveSpec tenantId generationId spec = result) :
    (∃ specs, result = .ok ((), { s with specs })) ∨ ∃ message, result = .error (.improvement .specImmutable message) := by
  unfold ImprovementStore.saveSpec at h
  split at h
  · split at h
    · exact .inr ⟨_, h.symm⟩
    · exact .inl ⟨s.specs, h.symm⟩
  · exact .inl ⟨_, h.symm⟩

theorem move_storeGeneration (h : storeGeneration digest s r systemId budget a = (t, pc')) :
    CreateMove s r a (.budgeted systemId budget) t pc' := by
  have hpc : ∀ systemId' g v spec, CreatePc.budgeted systemId budget ≠ .inserted systemId' g v spec := by simp
  unfold storeGeneration at h
  split at h
  · cases h
    exact .idles rfl rfl hpc rfl
  · next hleft =>
    split at h
    · cases h
      exact .idles rfl rfl hpc rfl
    · cases h
      exact .idles rfl rfl hpc rfl
    · rcases attempt_cases h with ⟨g, -, hok, rfl⟩ | ⟨rfl, ⟨-, rfl⟩ | ⟨e, -, rfl⟩⟩
      · obtain ⟨hnew, hsystem, -, -, rfl⟩ := createGeneration_ok hok
        exact .stores (not_not.1 hleft) hnew hsystem
      · exact .idles rfl rfl hpc rfl
      · exact .idles rfl rfl hpc rfl

/-- **Every statement of a create is one of these moves.** -/
theorem move_of_step (h : createStep digest s r pc a = some (t, pc')) : CreateMove s r a pc t pc' := by
  cases pc with
  | started =>
    simp only [createStep] at h
    split at h <;>
    · cases h
      exact .idles rfl rfl (by simp) rfl
  | unnamed =>
    rcases attempt_cases (Option.some.inj h) with ⟨system, -, hok, rfl⟩ | ⟨rfl, ⟨-, rfl⟩ | ⟨e, -, rfl⟩⟩
    · obtain ⟨-, -, rfl⟩ := createSystem_ok hok
      exact .idles rfl rfl (by simp) rfl
    · exact .idles rfl rfl (by simp) rfl
    · exact .idles rfl rfl (by simp) rfl
  | named systemId =>
    simp only [createStep] at h
    split at h
    · next hbudget =>
      cases h
      exact .reads (by simp) hbudget
    · cases h
      exact .idles rfl rfl (by simp) rfl
  | unbudgeted systemId =>
    rcases attempt_cases (Option.some.inj h) with ⟨budget, -, hok, rfl⟩ | ⟨rfl, ⟨-, rfl⟩ | ⟨e, -, rfl⟩⟩
    · obtain ⟨hnone, rfl, rfl⟩ := insertRecursionBudget_ok hok
      exact .budgets hnone
    · exact .idles rfl rfl (by simp) rfl
    · exact .idles rfl rfl (by simp) rfl
  | rereads systemId =>
    simp only [createStep] at h
    split at h
    · next hbudget =>
      cases h
      exact .reads (by simp) hbudget
    · cases h
      exact .idles rfl rfl (by simp) rfl
  | budgeted systemId budget => exact move_storeGeneration (Option.some.inj h)
  | inserted systemId generationId version spec =>
    rcases attempt_cases (Option.some.inj h) with ⟨b', -, hok, rfl⟩ | ⟨rfl, ⟨hfails, rfl⟩ | ⟨e, herror, rfl⟩⟩
    · rcases consumeRecursionBudget_cases s r.tenantId systemId version { generations := 1 } with
        ⟨b, hb, htenant, rfl, heq⟩ | ⟨-, heq⟩
      · rw [heq] at hok
        cases hok
        exact .counts hb htenant
      · rw [heq] at hok
        cases hok
    · exact .loses (.inl hfails)
    · rcases consumeRecursionBudget_cases t r.tenantId systemId version { generations := 1 } with
        ⟨b, -, -, -, heq⟩ | ⟨hlost, heq⟩
      · rw [heq] at herror
        cases herror
      · exact .loses (.inr hlost)
  | counted generationId spec =>
    rcases attempt_cases (Option.some.inj h) with ⟨u, -, hok, rfl⟩ | ⟨rfl, ⟨-, rfl⟩ | ⟨e, herror, rfl⟩⟩
    · rcases saveSpec_cases hok with ⟨specs, heq⟩ | ⟨message, heq⟩
      · cases heq
        exact .idles rfl rfl (by simp) rfl
      · cases heq
    · exact .idles rfl rfl (by simp) rfl
    · rcases saveSpec_cases herror with ⟨specs, heq⟩ | ⟨message, heq⟩
      · cases heq
      · cases heq
        exact .idles rfl rfl (by simp) rfl
  | saved generationId specId =>
    simp only [createStep, Option.some.injEq, Prod.mk.injEq] at h
    obtain ⟨rfl, rfl⟩ := h
    refine .idles rfl rfl (by simp) ?_
    split <;> rfl
  | done => cases h
  | threw => cases h

end

end Tna.Improvement
