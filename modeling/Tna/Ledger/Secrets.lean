import Tna.Ledger.Stored

/-!
# What is found in texts, at any depth

The search of `validateEventInput` finds a secret exactly when there is one, however deep.
It is applied to the payload and to the contexts, and nothing of a secret survives in the
columns of these. The retention object is stored and never searched.

What `safeId` accepts is told as a property of texts: a letter or a digit, and then letters,
digits and `.`, `_`, `:`, `-`. Put together they are safe again.
-/

namespace Tna.Ledger

open Tna.Js Value

/-- A value is another one, or occurs in it at some depth. -/
inductive Occurs : Value → Value → Prop where
  | here {v : Value} : Occurs v v
  | item {v w : Value} {items : List Value} (member : w ∈ items) (inside : Occurs v w) : Occurs v (.arr items)
  | field {v w : Value} {k : Text} {fields : List (Text × Value)} (member : (k, w) ∈ fields) (inside : Occurs v w) :
      Occurs v (.obj fields)

/-- An object with a key of the secret-key pattern occurs in the value, or a string of the bearer-token pattern. -/
def HasSecret (v : Value) : Prop :=
  (∃ fields, Occurs (.obj fields) v ∧ ∃ f ∈ fields, secretKey f.1 = true) ∨
    ∃ t, Occurs (.str t) v ∧ secretValue t = true

/-! ## Where a secret is -/

theorem hasSecret_str {t : Text} : HasSecret (.str t) ↔ secretValue t = true := by
  constructor
  · rintro (⟨fields, h, -⟩ | ⟨u, h, hu⟩)
    · cases h
    · cases h
      exact hu
  · intro h
    exact .inr ⟨t, .here, h⟩

theorem hasSecret_arr {items : List Value} : HasSecret (.arr items) ↔ ∃ v ∈ items, HasSecret v := by
  constructor
  · rintro (⟨fields, h, hf⟩ | ⟨t, h, ht⟩)
    · cases h with
      | item member inside => exact ⟨_, member, .inl ⟨fields, inside, hf⟩⟩
    · cases h with
      | item member inside => exact ⟨_, member, .inr ⟨t, inside, ht⟩⟩
  · rintro ⟨v, hv, ⟨fields, h, hf⟩ | ⟨t, h, ht⟩⟩
    · exact .inl ⟨fields, .item hv h, hf⟩
    · exact .inr ⟨t, .item hv h, ht⟩

theorem hasSecret_obj {fields : List (Text × Value)} :
    HasSecret (.obj fields) ↔ ∃ f ∈ fields, secretKey f.1 = true ∨ HasSecret f.2 := by
  constructor
  · rintro (⟨inner, h, hf⟩ | ⟨t, h, ht⟩)
    · cases h with
      | here =>
        obtain ⟨f, hmem, hkey⟩ := hf
        exact ⟨f, hmem, .inl hkey⟩
      | field member inside => exact ⟨_, member, .inr (.inl ⟨inner, inside, hf⟩)⟩
    · cases h with
      | field member inside => exact ⟨_, member, .inr (.inr ⟨t, inside, ht⟩)⟩
  · rintro ⟨f, hmem, hkey | ⟨inner, h, hf⟩ | ⟨t, h, ht⟩⟩
    · exact .inl ⟨fields, .here, f, hmem, hkey⟩
    · exact .inl ⟨inner, .field hmem h, hf⟩
    · exact .inr ⟨t, .field hmem h, ht⟩

/-- Nothing occurs in a value that is no container. -/
theorem not_hasSecret_leaf {v : Value} (h : ∀ w, Occurs w v → w = v) (hobj : ∀ fields, v ≠ .obj fields)
    (hstr : ∀ t, v ≠ .str t) : ¬ HasSecret v := by
  rintro (⟨fields, hin, -⟩ | ⟨t, hin, -⟩)
  · exact hobj fields (h _ hin).symm
  · exact hstr t (h _ hin).symm

theorem not_hasSecret_undefined : ¬ HasSecret .undefined :=
  not_hasSecret_leaf (by rintro w ⟨⟩; rfl) (by simp) (by simp)

theorem not_hasSecret_null : ¬ HasSecret .null := not_hasSecret_leaf (by rintro w ⟨⟩; rfl) (by simp) (by simp)

theorem not_hasSecret_bool (b : Bool) : ¬ HasSecret (.bool b) :=
  not_hasSecret_leaf (by rintro w ⟨⟩; rfl) (by simp) (by simp)

theorem not_hasSecret_num (n : Number) : ¬ HasSecret (.num n) :=
  not_hasSecret_leaf (by rintro w ⟨⟩; rfl) (by simp) (by simp)

/-! ## The search is exact -/

mutual

/-- **The search finds a secret exactly when there is one.** -/
theorem findSecretShapedField_eq_none : ∀ v : Value, findSecretShapedField v = none ↔ ¬ HasSecret v
  | .undefined => by simp [findSecretShapedField, not_hasSecret_undefined]
  | .null => by simp [findSecretShapedField, not_hasSecret_null]
  | .bool b => by simp [findSecretShapedField, not_hasSecret_bool]
  | .num n => by simp [findSecretShapedField, not_hasSecret_num]
  | .str t => by
    rw [findSecretShapedField, hasSecret_str]
    split <;> simp_all
  | .arr items => by
    rw [findSecretShapedField, hasSecret_arr, findSecretItems_eq_none items]
    push Not
    rfl
  | .obj fields => by
    rw [findSecretShapedField, hasSecret_obj, findSecretFields_eq_none fields]
    push Not
    simp

theorem findSecretItems_eq_none : ∀ items : List Value, findSecretItems items = none ↔ ∀ v ∈ items, ¬ HasSecret v
  | [] => by simp [findSecretItems]
  | v :: rest => by
    have hv := findSecretShapedField_eq_none v
    have hrest := findSecretItems_eq_none rest
    rw [List.forall_mem_cons, ← hv, ← hrest, findSecretItems]
    cases findSecretShapedField v <;> simp

theorem findSecretFields_eq_none : ∀ fields : List (Text × Value),
    findSecretFields fields = none ↔ ∀ f ∈ fields, secretKey f.1 = false ∧ ¬ HasSecret f.2
  | [] => by simp [findSecretFields]
  | (k, v) :: rest => by
    have hv := findSecretShapedField_eq_none v
    have hrest := findSecretFields_eq_none rest
    rw [List.forall_mem_cons, ← hv, ← hrest, findSecretFields]
    cases secretKey k with
    | true => simp
    | false => cases findSecretShapedField v <;> simp

end

/-! ## Through the columns -/

mutual

/-- The trip through JSON text adds no secret. -/
theorem hasSecret_of_normal : ∀ v : Value, HasSecret v.normal → HasSecret v
  | .undefined, h => absurd h not_hasSecret_null
  | .null, h => h
  | .bool _, h => h
  | .num (.finite _), h => h
  | .num .negZero, h => absurd h (not_hasSecret_num _)
  | .num (.infinite _), h => absurd h not_hasSecret_null
  | .num .nan, h => absurd h not_hasSecret_null
  | .str _, h => h
  | .arr items, h => by
    rw [normal, hasSecret_arr] at h
    exact hasSecret_arr.2 (hasSecret_of_normalItems items h)
  | .obj fields, h => by
    rw [normal, hasSecret_obj] at h
    exact hasSecret_obj.2 (hasSecret_of_normalFields fields h)

theorem hasSecret_of_normalItems : ∀ items : List Value,
    (∃ v ∈ normalItems items, HasSecret v) → ∃ v ∈ items, HasSecret v
  | [], h => h
  | v :: rest, h => by
    rw [normalItems] at h
    obtain ⟨w, hw, hsecret⟩ := h
    rcases List.mem_cons.1 hw with rfl | hw
    · exact ⟨v, List.mem_cons_self .., hasSecret_of_normal v hsecret⟩
    · obtain ⟨u, hu, hsecret⟩ := hasSecret_of_normalItems rest ⟨w, hw, hsecret⟩
      exact ⟨u, List.mem_cons_of_mem _ hu, hsecret⟩

theorem hasSecret_of_normalFields : ∀ fields : List (Text × Value),
    (∃ f ∈ normalFields fields, secretKey f.1 = true ∨ HasSecret f.2) →
      ∃ f ∈ fields, secretKey f.1 = true ∨ HasSecret f.2
  | [], h => h
  | (k, v) :: rest, h => by
    have hrest := hasSecret_of_normalFields rest
    rw [normalFields] at h
    split at h
    · obtain ⟨f, hf, hsecret⟩ := hrest h
      exact ⟨f, List.mem_cons_of_mem _ hf, hsecret⟩
    · obtain ⟨f, hf, hsecret⟩ := h
      rcases List.mem_cons.1 hf with rfl | hf
      · exact ⟨(k, v), List.mem_cons_self .., hsecret.imp_right (hasSecret_of_normal v)⟩
      · obtain ⟨f, hf, hsecret⟩ := hrest ⟨f, hf, hsecret⟩
        exact ⟨f, List.mem_cons_of_mem _ hf, hsecret⟩

end

theorem not_hasSecret_readBack {o : Option JsObject} (h : findSecretIn o = none) : ¬ HasSecret (readBack o) := by
  cases o with
  | none => exact not_hasSecret_undefined
  | some o =>
    intro hsecret
    exact (findSecretShapedField_eq_none o.toValue).1 h (hasSecret_of_normal o.toValue hsecret)

/-! ## The actor -/

/-- A string without white space is no bearer token. -/
theorem secretValue_eq_false {t : Text} (h : ∀ c ∈ t, isSpace c = false) : secretValue t = false := by
  induction t with
  | nil => rfl
  | cons c rest ih =>
    have hhead : (((c :: rest).drop 6).head?.any isSpace) = false := by
      cases hd : ((c :: rest).drop 6).head? with
      | none => rfl
      | some d => exact h d (List.mem_of_mem_drop (List.mem_of_mem_head? hd))
    rw [secretValue, bearerHere, hhead, Bool.false_and, Bool.and_false, Bool.false_or]
    exact ih fun d hd => h d (List.mem_cons_of_mem _ hd)

theorem isSpace_eq_false {c : CodeUnit} (h : isAlnum c = true ∨ isSafeIdUnit c = true) : isSpace c = false := by
  have hsafe : isSafeIdUnit c = true := by
    rcases h with h | h
    · rw [isSafeIdUnit, h]
      rfl
    · exact h
  simp only [isSafeIdUnit, isAlnum, isDigit, isUpper, isLower, Bool.or_eq_true, Bool.and_eq_true, beq_iff_eq,
    decide_eq_true_eq, unit, UInt16.le_iff_toNat_le, ← UInt16.toNat_inj] at hsafe
  rw [Bool.eq_false_iff]
  intro hspace
  simp only [isSpace, Bool.or_eq_true, Bool.and_eq_true, beq_iff_eq, decide_eq_true_eq, UInt16.le_iff_toNat_le,
    ← UInt16.toNat_inj] at hspace
  simp at hsafe hspace
  omega

/-- A safe identifier is no bearer token. -/
theorem secretValue_safeId {v : JsValue} {n : Nat} {t : Text} (h : safeId v n = some t) : secretValue t = false := by
  unfold safeId at h
  split at h
  · next c rest hv =>
    split at h
    · next hok =>
      cases h
      obtain ⟨-, hc, hrest⟩ := hok
      refine secretValue_eq_false fun d hd => ?_
      rcases List.mem_cons.1 hd with rfl | hd
      · exact isSpace_eq_false (.inl hc)
      · exact isSpace_eq_false (.inr (List.all_eq_true.1 hrest d hd))
    · cases h
  · cases h

theorem actorField_safe {o : JsObject} {a : Actor} (h : actorField o = .ok a) : ∃ v, safeId v 200 = some a.id := by
  unfold actorField at h
  split at h
  · cases h
  · next obj hobj =>
    split at h
    · cases h
    · split at h
      · cases h
      · next i hi =>
        cases h
        exact ⟨_, hi⟩

/-- What is stored of an actor holds no secret, whatever else the caller put in it. -/
theorem not_hasSecret_actor {o : JsObject} {a : Actor} (h : actorField o = .ok a) : ¬ HasSecret a.stored := by
  obtain ⟨v, hid⟩ := actorField_safe h
  have htype : secretValue a.type.name = false := by
    cases a.type <;> decide
  rw [Actor.stored, hasSecret_obj]
  simp only [List.mem_cons, List.not_mem_nil, or_false, exists_eq_or_imp, exists_eq_left, hasSecret_str, htype,
    secretValue_safeId hid]
  decide

/-! ## Stored events -/

/-- No part of the event that the caller supplies holds a secret. -/
def EventContent.Secretless (e : EventContent) : Prop := ∀ v ∈ e.supplied, ¬ HasSecret v

/-- The retention object of the input, which is not searched, holds no secret. -/
def retentionClean (raw : JsValue) : Bool :=
  match raw.asObject? with
  | none => true
  | some input => (findSecretShapedField (input.get "retention").val).isNone

theorem retentionField_val {o : JsObject} {r : Option JsObject} (h : retentionField o = .ok r) :
    (o.get "retention").val = optObject r := by
  unfold retentionField at h
  split at h
  · next hundefined =>
    cases h
    exact hundefined
  · split at h
    · next obj hobj =>
      split at h
      · cases h
        unfold JsValue.asObject? at hobj
        split at hobj
        · next hval =>
          cases hobj
          exact congrArg JsValue.val hval
        · cases hobj
      · cases h
    · cases h

theorem findSecretIn_of_findSecret {payload authority execution spec artifact : Option JsObject}
    (h : findSecret payload authority execution spec artifact = none) :
    findSecretIn payload = none ∧ findSecretIn authority = none ∧ findSecretIn execution = none ∧
      findSecretIn spec = none ∧ findSecretIn artifact = none := by
  simpa [findSecret] using h

/-- A row that stores an accepted input holds a secret only in the retention object. -/
theorem secretless_of_stores {raw : JsValue} {input : LedgerEventInput} {row : RawEventRow}
    (hinput : validateEventInput raw = .ok input) (hrow : row.Stores input) (hretention : retentionClean raw = true) :
    ∃ e, toLedgerEvent row = some e ∧ e.Secretless := by
  obtain ⟨o, ho, hactor, hfield, hclean, -⟩ := validateEventInput_checked hinput
  obtain ⟨e, he, hcontent⟩ := toLedgerEvent_stores hrow
  obtain ⟨hpayload, hauthority, hexecution, hspec, hartifact⟩ := findSecretIn_of_findSecret hclean
  have hfound : findSecretIn input.retention = none := by
    simp only [retentionClean, ho, Option.isNone_iff_eq_none, retentionField_val hfield] at hretention
    cases hr : input.retention with
    | none => rfl
    | some r =>
      rw [hr] at hretention
      exact hretention
  refine ⟨e, he, fun v hv => ?_⟩
  simp only [hcontent, EventContent.supplied, List.mem_cons, List.not_mem_nil, or_false] at hv
  rcases hv with rfl | rfl | rfl | rfl | rfl | rfl | rfl
  · exact not_hasSecret_readBack hpayload
  · exact not_hasSecret_readBack hauthority
  · exact not_hasSecret_readBack hspec
  · exact not_hasSecret_readBack hexecution
  · exact not_hasSecret_readBack hartifact
  · exact not_hasSecret_readBack hfound
  · exact not_hasSecret_actor hactor

/-- **No secret is stored** by a run in which no retention object holds one: every stored event can be read, and
what its caller supplied is free of secret-shaped keys and bearer tokens at every depth. -/
theorem secretless_of_run {sha256 : Text → Text} {calls : List AppendCall}
    (h : ∀ c ∈ calls, retentionClean c.raw = true) :
    ∀ row ∈ (runAppends sha256 calls).events, ∃ e, toLedgerEvent row = some e ∧ e.Secretless := by
  intro row hrow
  obtain ⟨c, hc, input, hinput, hstores⟩ := stored_of_run hrow
  exact secretless_of_stores hinput hstores (h c hc)

/-! ## A secret in the retention object -/

/-- An event with a retention object that has a third property. -/
def retainedEvent (note : List (Text × Value)) : Value :=
  .obj [("version", .str "1.0"), ("event_id", .str "e"), ("event_type", .str "AGENT_REGISTERED"),
    ("tenant_id", .str "t"), ("stream_id", .str "s"),
    ("actor", .obj [("type", .str "SYSTEM"), ("id", .str "a")]), ("correlation_id", .str "c"),
    ("source_component", .str "ledger"),
    ("retention",
      .obj (([("retention_class", .str "standard"), ("legal_hold", .bool false)] : List (Text × Value)) ++ note))]

def retainedCall (note : List (Text × Value)) (h : (retainedEvent note).distinct = true) : AppendCall :=
  ⟨sampleWriter, ⟨retainedEvent note, h⟩, "2026-01-01T00:00:00.000Z"⟩

theorem secretless_of_run_plain_retention :
    ∃ row e, (runAppends id [retainedCall [] (by decide)]).events = [row] ∧ toLedgerEvent row = some e ∧
      e.Secretless := by
  have hlength : (runAppends id [retainedCall [] (by decide)]).events.length = 1 := by decide +kernel
  obtain ⟨row, hrow⟩ := List.length_eq_one_iff.1 hlength
  obtain ⟨e, hread, hsecretless⟩ := secretless_of_run (by decide) row (hrow ▸ List.mem_singleton_self row)
  exact ⟨row, e, hrow, hread, hsecretless⟩

/-- The key `password` of a retention object is stored. -/
theorem secretless_of_run_retention_password :
    ¬ ∀ (sha256 : Text → Text) (calls : List AppendCall), ∀ row ∈ (runAppends sha256 calls).events,
      ∀ e, toLedgerEvent row = some e → e.Secretless := by
  intro h
  have hrun := h id [retainedCall [("password", .str "x")] (by decide)]
  have hstored : ((runAppends id [retainedCall [("password", .str "x")] (by decide)]).events.any fun row =>
      (toLedgerEvent row).any fun e => (findSecretShapedField e.retention).isSome) = true := by
    decide +kernel
  obtain ⟨row, hrow, hfound⟩ := List.any_eq_true.1 hstored
  obtain ⟨e, he, hfound⟩ := (Option.any_eq_true ..).1 hfound
  have hclean := hrun row hrow e he e.retention (by simp [EventContent.supplied])
  rw [← findSecretShapedField_eq_none] at hclean
  rw [hclean] at hfound
  cases hfound

/-! ## Safe identifiers -/

/-- The text is a safe identifier of a length. -/
def IsSafeId (t : Text) (maxLen : Nat) : Prop := safeId (.ofText t) maxLen = some t

instance (t : Text) (maxLen : Nat) : Decidable (IsSafeId t maxLen) :=
  inferInstanceAs (Decidable (safeId (.ofText t) maxLen = some t))

section
variable {t u : Text} {m n : Nat}

theorem isSafeId_iff :
    IsSafeId t n ↔ ∃ c rest, t = c :: rest ∧ t.length ≤ n ∧ isAlnum c = true ∧ rest.all isSafeIdUnit = true := by
  constructor
  · intro h
    unfold IsSafeId safeId at h
    split at h
    · next c rest hv =>
      split at h
      · next hok =>
        cases h
        exact ⟨c, rest, rfl, hok⟩
      · cases h
    · cases h
  · rintro ⟨c, rest, rfl, hok⟩
    exact if_pos hok

theorem IsSafeId.mono (h : IsSafeId t m) (hmn : m ≤ n) : IsSafeId t n := by
  obtain ⟨c, rest, hc, hlength, hsafe⟩ := isSafeId_iff.1 h
  exact isSafeId_iff.2 ⟨c, rest, hc, hlength.trans hmn, hsafe⟩

/-- All units of a safe identifier are safe. -/
theorem IsSafeId.all (h : IsSafeId t n) : t.all isSafeIdUnit = true := by
  obtain ⟨c, rest, rfl, -, hc, hrest⟩ := isSafeId_iff.1 h
  rw [List.all_cons, hrest, isSafeIdUnit, hc]
  rfl

theorem IsSafeId.append (ht : IsSafeId t m) (hu : IsSafeId u n) : IsSafeId (t ++ u) (m + n) := by
  obtain ⟨c, rest, rfl, hlength, hc, hrest⟩ := isSafeId_iff.1 ht
  obtain ⟨-, -, -, hlength', -⟩ := isSafeId_iff.1 hu
  refine isSafeId_iff.2 ⟨c, rest ++ u, rfl, ?_, hc, ?_⟩
  · rw [List.length_append]
    omega
  · rw [List.all_append, hrest, hu.all]
    rfl

/-- A safe identifier is accepted wherever it is read. -/
theorem IsSafeId.accepted (h : IsSafeId t n) {v : JsValue} (hv : v.val = .str t) : safeId v n = some t := by
  have hsame : v = .ofText t := by
    cases v
    cases hv
    rfl
  rw [hsame]
  exact h

end

end Tna.Ledger
