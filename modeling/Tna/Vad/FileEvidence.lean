import Mathlib.Logic.Function.Basic
import Tna.Js.Buffer
import Tna.Js.Indented
import Tna.Js.Parsed
import Tna.Lib.Transition

/-!
# `FileEvidenceStore`

The record of an atom is kept in a file of its own, and the first writer wins: a call reads
the file, creates it where there is none, writes it, and reads it again where another call
created it first. Each of these is a step, so a file can be found created and not yet
written. Records are compared by the JSON text of new objects to which the properties were
assigned in the order of their keys; what is assigned to `__proto__` is no property.
-/

namespace Tna.Vad

open Tna.Js Tna.Lib

/-! ## Assigned properties -/

def protoKey : Text := "__proto__"

section
variable {α : Type} {r : α → α → Prop} [DecidableRel r] [IsTrans α r]

omit [IsTrans α r] in
/-- Something below all of a list is inserted in front. -/
theorem orderedInsert_eq_cons {a : α} {l : List α} (h : ∀ b ∈ l, r a b) : l.orderedInsert r a = a :: l := by
  cases l with
  | nil => rfl
  | cons b l => rw [List.orderedInsert_cons_of_le _ _ (h b (List.mem_cons_self ..))]

theorem filter_orderedInsert {p : α → Bool} {a : α} {l : List α} (hl : l.Pairwise r) :
    (l.orderedInsert r a).filter p = if p a then (l.filter p).orderedInsert r a else l.filter p := by
  induction l with
  | nil => cases hp : p a <;> simp [hp]
  | cons b l ih =>
    rw [List.pairwise_cons] at hl
    by_cases hab : r a b
    · have hall : ∀ c ∈ (b :: l).filter p, r a c := by
        intro c hc
        rcases List.mem_cons.1 (List.mem_of_mem_filter hc) with rfl | hc
        · exact hab
        · exact IsTrans.trans _ _ _ hab (hl.1 c hc)
      rw [List.orderedInsert_cons_of_le _ _ hab, List.filter_cons, orderedInsert_eq_cons hall]
    · rw [List.orderedInsert_of_not_le _ _ hab, List.filter_cons, ih hl.2, List.filter_cons]
      cases hp : p a <;> cases hq : p b <;> simp [hab]

theorem filter_insertionSort [Std.Total r] (p : α → Bool) (l : List α) :
    (l.insertionSort r).filter p = (l.filter p).insertionSort r := by
  induction l with
  | nil => rfl
  | cons a l ih =>
    rw [List.insertionSort_cons, filter_orderedInsert (List.pairwise_insertionSort r l), ih, List.filter_cons]
    split
    · rw [List.insertionSort_cons]
    · rfl

end

mutual

/-- A value without the properties `__proto__` of the objects in it. -/
def withoutProto : Value → Value
  | .arr items => .arr (withoutProtoItems items)
  | .obj fields => .obj (withoutProtoFields fields)
  | .undefined => .undefined
  | .null => .null
  | .bool b => .bool b
  | .num n => .num n
  | .str s => .str s

def withoutProtoItems : List Value → List Value
  | [] => []
  | v :: rest => withoutProto v :: withoutProtoItems rest

def withoutProtoFields : List (Text × Value) → List (Text × Value)
  | [] => []
  | (k, v) :: rest => if k = protoKey then withoutProtoFields rest else (k, withoutProto v) :: withoutProtoFields rest

end

theorem isUndefined_withoutProto (v : Value) : (withoutProto v).isUndefined = v.isUndefined := by
  cases v <;> rfl

theorem withoutProtoFields_eq (fields : List (Text × Value)) :
    withoutProtoFields fields = (fields.filter fun f => f.1 ≠ protoKey).map fun f => (f.1, withoutProto f.2) := by
  induction fields with
  | nil => rfl
  | cons f rest ih =>
    obtain ⟨k, v⟩ := f
    rw [withoutProtoFields, List.filter_cons]
    by_cases h : k = protoKey
    · simp only [h, if_true, ne_eq, not_true_eq_false, decide_false, Bool.false_eq_true, if_false]
      exact ih
    · simp only [h, if_false, ne_eq, not_false_eq_true, decide_true, if_true, List.map_cons]
      rw [ih]

mutual

theorem distinct_withoutProto : ∀ v : Value, v.distinct = true → (withoutProto v).distinct = true
  | .arr items, h => distinctItems_withoutProto items h
  | .obj fields, h => by
    rw [Value.distinct, Bool.and_eq_true, decide_eq_true_eq] at h
    rw [withoutProto, Value.distinct, Bool.and_eq_true, decide_eq_true_eq]
    refine ⟨?_, distinctFields_withoutProto fields h.2⟩
    rw [withoutProtoFields_eq, List.map_map]
    exact h.1.sublist (List.filter_sublist.map Prod.fst)
  | .undefined, _ => rfl
  | .null, _ => rfl
  | .bool _, _ => rfl
  | .num _, _ => rfl
  | .str _, _ => rfl

theorem distinctItems_withoutProto : ∀ items : List Value, Value.distinctItems items = true →
    Value.distinctItems (withoutProtoItems items) = true
  | [], _ => rfl
  | v :: rest, h => by
    rw [Value.distinctItems, Bool.and_eq_true] at h
    rw [withoutProtoItems, Value.distinctItems, Bool.and_eq_true]
    exact ⟨distinct_withoutProto v h.1, distinctItems_withoutProto rest h.2⟩

theorem distinctFields_withoutProto : ∀ fields : List (Text × Value), Value.distinctFields fields = true →
    Value.distinctFields (withoutProtoFields fields) = true
  | [], _ => rfl
  | (k, v) :: rest, h => by
    rw [Value.distinctFields, Bool.and_eq_true] at h
    rw [withoutProtoFields]
    split
    · exact distinctFields_withoutProto rest h.2
    · rw [Value.distinctFields, Bool.and_eq_true]
      exact ⟨distinct_withoutProto v h.1, distinctFields_withoutProto rest h.2⟩

end

mutual

theorem normal_withoutProto : ∀ v : Value, (withoutProto v).normal = withoutProto v.normal
  | .arr items => by
    rw [withoutProto, Value.normal, Value.normal, withoutProto, normalItems_withoutProto items]
  | .obj fields => by
    rw [withoutProto, Value.normal, Value.normal, withoutProto, normalFields_withoutProto fields]
  | .undefined => rfl
  | .null => rfl
  | .bool _ => rfl
  | .num (.finite _) => rfl
  | .num .negZero => rfl
  | .num (.infinite _) => rfl
  | .num .nan => rfl
  | .str _ => rfl

theorem normalItems_withoutProto : ∀ items : List Value,
    Value.normalItems (withoutProtoItems items) = withoutProtoItems (Value.normalItems items)
  | [] => rfl
  | v :: rest => by
    rw [withoutProtoItems, Value.normalItems, Value.normalItems, withoutProtoItems, normal_withoutProto v,
      normalItems_withoutProto rest]

theorem normalFields_withoutProto : ∀ fields : List (Text × Value),
    Value.normalFields (withoutProtoFields fields) = withoutProtoFields (Value.normalFields fields)
  | [] => rfl
  | (k, v) :: rest => by
    have ih := normalFields_withoutProto rest
    by_cases hk : k = protoKey <;> by_cases hv : v.isUndefined = true <;>
      simp only [withoutProtoFields, Value.normalFields, isUndefined_withoutProto, hk, hv, if_true, if_false, ih,
        normal_withoutProto v, Bool.false_eq_true]

end

mutual

theorem sorted_withoutProto : ∀ v : Value, (withoutProto v).sorted = withoutProto v.sorted
  | .arr items => by
    rw [withoutProto, Value.sorted, Value.sorted, withoutProto, sortedItems_withoutProto items]
  | .obj fields => by
    have hmap := List.map_insertionSort keyLe keyLe (fun f : Text × Value => (f.1, withoutProto f.2))
      ((Value.sortedFields fields).filter fun f => f.1 ≠ protoKey) fun _ _ _ _ => Iff.rfl
    rw [withoutProto, Value.sorted, Value.sorted, withoutProto, sortedFields_withoutProto fields, withoutProtoFields_eq,
      withoutProtoFields_eq, filter_insertionSort, hmap]
  | .undefined => rfl
  | .null => rfl
  | .bool _ => rfl
  | .num _ => rfl
  | .str _ => rfl

theorem sortedItems_withoutProto : ∀ items : List Value,
    Value.sortedItems (withoutProtoItems items) = withoutProtoItems (Value.sortedItems items)
  | [] => rfl
  | v :: rest => by
    rw [withoutProtoItems, Value.sortedItems, Value.sortedItems, withoutProtoItems, sorted_withoutProto v,
      sortedItems_withoutProto rest]

theorem sortedFields_withoutProto : ∀ fields : List (Text × Value),
    Value.sortedFields (withoutProtoFields fields) = withoutProtoFields (Value.sortedFields fields)
  | [] => rfl
  | (k, v) :: rest => by
    have ih := sortedFields_withoutProto rest
    by_cases hk : k = protoKey <;> by_cases hv : v.isUndefined = true <;>
      simp only [withoutProtoFields, Value.sortedFields, isUndefined_withoutProto, hk, hv, if_true, if_false, ih,
        sorted_withoutProto v, Bool.false_eq_true]

end

/-- What is left out of the data is left out of the value. -/
theorem data_withoutProto (v : Value) : (withoutProto v).data = withoutProto v.data := by
  rw [Value.data, Value.data, sorted_withoutProto, normal_withoutProto]

/-! ## Records -/

/-- A record as a caller has it. Whatever else is in it, `completedAt` is a string where it is there. -/
structure FinalEvidencePackage where
  fields : JsObject
  completedAt : (fields.get "completedAt").val = .undefined ∨ ∃ t, (fields.get "completedAt").val = .str t

namespace FileEvidenceStore

def callerOmittedCompletedAt (record : FinalEvidencePackage) : Bool := (record.fields.get "completedAt").val.isUndefined

/-- `const { completedAt, ...rest } = record`, where it is asked for. -/
def rest (stripCompletedAt : Bool) : Value → Value
  | .obj fields => .obj (if stripCompletedAt then fields.filter fun f => f.1 ≠ ("completedAt" : Text) else fields)
  | v => v

/-- `canonical`. -/
def canonical (record : Value) (stripCompletedAt : Bool) : Text := (withoutProto (rest stripCompletedAt record)).canonical

/-- `{ ...record, completedAt: record.completedAt ?? now }`. -/
def enriched (record : FinalEvidencePackage) (now : Text) : JsObject :=
  record.fields.set "completedAt"
    (match (record.fields.get "completedAt").val with
    | .undefined | .null => .ofText now
    | _ => record.fields.get "completedAt")

/-- What is written of a record. -/
def content (record : FinalEvidencePackage) (now : Text) : Bytes := ((enriched record now).toValue.indented 0).utf8

/-- `JSON.parse(await readFile(target, 'utf8'))`. -/
def readRecord (bytes : Bytes) : Option Value := parse (fromUtf8 bytes)

/-- The record equals what is stored, but for a `completedAt` that the caller left out. -/
def SameRecord (stored : Value) (record : FinalEvidencePackage) : Prop :=
  (rest (callerOmittedCompletedAt record) stored).data = (rest (callerOmittedCompletedAt record) record.fields.toValue).data

/-- The record differs from what is stored in no more than properties `__proto__`, or not at all. -/
def SameButProto (stored : Value) (record : FinalEvidencePackage) : Prop :=
  (withoutProto (rest (callerOmittedCompletedAt record) stored)).data =
    (withoutProto (rest (callerOmittedCompletedAt record) record.fields.toValue)).data

/-! ## What comparing records tells -/

theorem distinct_rest (strip : Bool) {v : Value} (h : v.distinct = true) : (rest strip v).distinct = true := by
  cases v with
  | obj fields =>
    rw [Value.distinct, Bool.and_eq_true, decide_eq_true_eq, Value.distinctFields_iff] at h
    rw [rest, Value.distinct, Bool.and_eq_true, decide_eq_true_eq, Value.distinctFields_iff]
    split
    · exact ⟨h.1.sublist (List.filter_sublist.map Prod.fst), fun f hf => h.2 f (List.mem_of_mem_filter hf)⟩
    · exact h
  | _ => exact h

/-- **What the store compares** is all but the properties `__proto__`. -/
theorem canonical_eq_iff_sameButProto {stored : Value} (record : FinalEvidencePackage) (h : stored.distinct = true) :
    canonical stored (callerOmittedCompletedAt record) =
      canonical record.fields.toValue (callerOmittedCompletedAt record) ↔ SameButProto stored record :=
  Value.canonical_eq_iff (distinct_withoutProto _ (distinct_rest _ h))
    (distinct_withoutProto _ (distinct_rest _ record.fields.distinct))

theorem sameButProto_of_same {stored : Value} {record : FinalEvidencePackage} (h : SameRecord stored record) :
    SameButProto stored record := by
  rw [SameButProto, data_withoutProto, data_withoutProto, show _ = _ from h]

/-! ## What is written -/

theorem data_normal {v : Value} (h : v.distinct = true) (hnormal : v.normal.distinct = true) : v.normal.data = v.data :=
  (Value.canonical_eq_iff hnormal h).1 (Value.canonical_normal v)

theorem normalFields_filter (p : Text → Bool) (fields : List (Text × Value)) :
    Value.normalFields (fields.filter fun f => p f.1) = (Value.normalFields fields).filter fun f => p f.1 := by
  induction fields with
  | nil => rfl
  | cons f fields ih =>
    obtain ⟨k, v⟩ := f
    rw [List.filter_cons]
    by_cases hv : v.isUndefined = true <;> cases hk : p k <;>
      simp only [hk, hv, Value.normalFields, if_true, if_false, Bool.false_eq_true, List.filter_cons, ih]

theorem rest_normal (strip : Bool) (v : Value) : rest strip v.normal = (rest strip v).normal := by
  cases v with
  | obj fields =>
    cases strip with
    | false => rfl
    | true =>
      simp only [Value.normal, rest, if_true]
      rw [normalFields_filter (fun k => decide (k ≠ ("completedAt" : Text)))]
  | num n => cases n <;> rfl
  | _ => rfl

/-- Without the property a record is what it was before the property was set. -/
theorem filter_setFields (fields : List (Text × Value)) (k : Text) (v : Value) :
    (Value.setFields fields k v).filter (fun f => f.1 ≠ k) = fields.filter fun f => f.1 ≠ k := by
  unfold Value.setFields
  split
  · rw [List.filter_map]
    have hkeys : ((fun f : Text × Value => decide (f.1 ≠ k)) ∘ fun f => if f.1 = k then (k, v) else f) =
        fun f : Text × Value => decide (f.1 ≠ k) := by
      funext f
      simp only [Function.comp_apply]
      split
      · next hk => simp [hk]
      · rfl
    rw [hkeys]
    refine (List.map_congr_left fun f hf => ?_).trans (List.map_id _)
    rw [if_neg (of_decide_eq_true (List.mem_filter.1 hf).2)]
    rfl
  · rw [List.filter_append, List.filter_singleton]
    simp

/-- A property that is set to what it is. -/
theorem setFields_self {fields : List (Text × Value)} (hk : (fields.map Prod.fst).Nodup) {k : Text}
    (h : (Value.get fields k).isUndefined = false) : Value.setFields fields k (Value.get fields k) = fields := by
  have hmem := Value.mem_of_get h
  rw [Value.setFields, if_pos (List.mem_map_of_mem (f := Prod.fst) hmem)]
  refine (List.map_congr_left fun f hf => ?_).trans (List.map_id _)
  split
  · next hkey =>
    obtain ⟨k', v⟩ := f
    subst hkey
    rw [Value.get_of_mem hk hf]
    rfl
  · rfl

theorem readRecord_content (record : FinalEvidencePackage) (now : Text) :
    readRecord (content record now) = some (enriched record now).toValue.normal := by
  rw [readRecord, content, fromUtf8_utf8 (Value.isWellFormed_indented _ 0)]
  exact parse_indented (enriched record now).distinct

theorem content_ne_nil (record : FinalEvidencePackage) (now : Text) : content record now ≠ [] := by
  intro h
  have hread := readRecord_content record now
  rw [h] at hread
  cases hread

/-- **What a call writes** equals its own record. -/
theorem same_content (record : FinalEvidencePackage) (now : Text) :
    SameRecord (enriched record now).toValue.normal record := by
  have hdistinct : (enriched record now).toValue.normal.distinct = true := distinct_of_parse (readRecord_content record now)
  have hrest : rest (callerOmittedCompletedAt record) (enriched record now).toValue =
      rest (callerOmittedCompletedAt record) record.fields.toValue := by
    cases homitted : callerOmittedCompletedAt record with
    | true => exact congrArg Value.obj (filter_setFields record.fields.fields "completedAt" _)
    | false =>
      refine congrArg Value.obj ?_
      rcases record.completedAt with hundefined | ⟨t, ht⟩
      · rw [callerOmittedCompletedAt, hundefined] at homitted
        cases homitted
      · have hset : (enriched record now).fields =
            Value.setFields record.fields.fields "completedAt" (Value.get record.fields.fields "completedAt") := by
          rw [enriched, ht]
          rfl
        simp only [Bool.false_eq_true, if_false, hset]
        exact setFields_self record.fields.keys_nodup homitted
  have hnormal : (rest (callerOmittedCompletedAt record) (enriched record now).toValue).normal.distinct = true := by
    rw [← rest_normal]
    exact distinct_rest _ hdistinct
  have hwritten : (rest (callerOmittedCompletedAt record) (enriched record now).toValue).distinct = true :=
    distinct_rest _ (enriched record now).distinct
  rw [SameRecord, rest_normal, data_normal hwritten hnormal, hrest]

end FileEvidenceStore

/-! ## Calls of `persist` -/

open FileEvidenceStore

/-- Where a call of `persist` is. -/
inductive PersistPc where
  /-- About to read the file. -/
  | reading
  /-- It found no file, and is about to create it. -/
  | absent
  /-- It created the file, and is about to write to it. -/
  | created (content : Bytes)
  /-- Another call created the file, which is about to be read again. -/
  | lost
  | returned
  /-- It threw `Conflicting final evidence`. -/
  | conflict
  /-- It threw another error. -/
  | failed
  /-- Its process stopped. -/
  | stopped

/-- The file of an atom, and the calls. -/
structure EvidenceFile (P : Type) where
  file : Option Bytes
  calls : P → PersistPc

/-- No file, and no call that has done anything. -/
def EvidenceFile.initial (P : Type) : EvidenceFile P := ⟨none, fun _ => .reading⟩

inductive PersistLabel (P : Type) where
  | reads (p : P)
  | creates (p : P) (now : Text)
  | writes (p : P)
  | rereads (p : P)
  | stops (p : P)

/-- What a call makes of the content it read. -/
def compared (record : FinalEvidencePackage) (bytes : Bytes) : PersistPc :=
  match readRecord bytes with
  | none => .failed
  | some existing =>
    let omitted := callerOmittedCompletedAt record
    if canonical existing omitted ≠ canonical record.fields.toValue omitted then .conflict else .returned

section
variable {P : Type} [DecidableEq P]

def EvidenceFile.goto (x : EvidenceFile P) (p : P) (pc : PersistPc) : EvidenceFile P :=
  { x with calls := Function.update x.calls p pc }

/-- One step of a call, each call with the record it was given. -/
def EvidenceFile.next (records : P → FinalEvidencePackage) (x : EvidenceFile P) : PersistLabel P → Option (EvidenceFile P)
  | .reads p =>
    match x.calls p with
    | .reading =>
      match x.file with
      | none => some (x.goto p .absent)
      | some bytes => some (x.goto p (compared (records p) bytes))
    | _ => none
  | .creates p now =>
    match x.calls p with
    | .absent =>
      match x.file with
      | none => some ({ x with file := some [] }.goto p (.created (content (records p) now)))
      | some _ => some (x.goto p .lost)
    | _ => none
  | .writes p =>
    match x.calls p with
    | .created content => some ({ x with file := some content }.goto p .returned)
    | _ => none
  | .rereads p =>
    match x.calls p with
    | .lost =>
      match x.file with
      | none => some (x.goto p .failed)
      | some bytes => some (x.goto p (compared (records p) bytes))
    | _ => none
  | .stops p =>
    match x.calls p with
    | .reading | .absent | .created _ | .lost => some (x.goto p .stopped)
    | _ => none

abbrev PersistStep (records : P → FinalEvidencePackage) (x : EvidenceFile P) (l : PersistLabel P) (y : EvidenceFile P) : Prop :=
  x.next records l = some y

/-! ## What a step does -/

/-- Where a step leaves its call, and the file. -/
inductive PersistEffect (records : P → FinalEvidencePackage) (x : EvidenceFile P) (l : PersistLabel P) (p : P) :
    PersistPc → Option Bytes → Prop where
  | waits {pc : PersistPc} (h : pc = .absent ∨ pc = .stopped) : PersistEffect records x l p pc x.file
  | loses (hfile : x.file ≠ none) : PersistEffect records x l p .lost x.file
  | compares {bytes : Bytes} (hfile : x.file = some bytes) (h : l = .reads p ∨ l = .rereads p) :
    PersistEffect records x l p (compared (records p) bytes) x.file
  | creates (now : Text) (hfile : x.file = none) : PersistEffect records x l p (.created (content (records p) now)) (some [])
  | writes {bytes : Bytes} (hcall : x.calls p = .created bytes) : PersistEffect records x l p .returned (some bytes)
  | vanishes (hcall : x.calls p = .lost) (hfile : x.file = none) : PersistEffect records x l p .failed x.file

variable {records : P → FinalEvidencePackage} {x y : EvidenceFile P} {l : PersistLabel P}

theorem effect_of_step (h : PersistStep records x l y) :
    ∃ p pc file, y = ⟨file, Function.update x.calls p pc⟩ ∧ PersistEffect records x l p pc file := by
  unfold PersistStep EvidenceFile.next at h
  cases l with
  | reads p =>
    dsimp only at h
    split at h
    · cases hfile : x.file with
      | none =>
        simp only [hfile] at h
        cases h
        exact ⟨p, _, _, rfl, .waits (.inl rfl)⟩
      | some bytes =>
        simp only [hfile] at h
        cases h
        exact ⟨p, _, _, rfl, .compares hfile (.inl rfl)⟩
    · cases h
  | creates p now =>
    dsimp only at h
    split at h
    · cases hfile : x.file with
      | none =>
        simp only [hfile] at h
        cases h
        exact ⟨p, _, _, rfl, .creates now hfile⟩
      | some bytes =>
        simp only [hfile] at h
        cases h
        exact ⟨p, _, _, rfl, .loses (by rw [hfile]; exact Option.some_ne_none bytes)⟩
    · cases h
  | writes p =>
    dsimp only at h
    split at h
    · next bytes hcall =>
      cases h
      exact ⟨p, _, _, rfl, .writes hcall⟩
    · cases h
  | rereads p =>
    dsimp only at h
    split at h
    · next hcall =>
      cases hfile : x.file with
      | none =>
        simp only [hfile] at h
        cases h
        exact ⟨p, _, _, rfl, .vanishes hcall hfile⟩
      | some bytes =>
        simp only [hfile] at h
        cases h
        exact ⟨p, _, _, rfl, .compares hfile (.inr rfl)⟩
    · cases h
  | stops p =>
    dsimp only at h
    split at h
    all_goals
      cases h
      try exact ⟨p, _, _, rfl, .waits (.inr rfl)⟩

/-! ## The file -/

/-- What is known of the file and of the calls that have not finished. -/
structure EvidenceFile.Kept (records : P → FinalEvidencePackage) (x : EvidenceFile P) : Prop where
  /-- The call that created the file, and has not written it, is about to write its own record. -/
  writer : ∀ p bytes, x.calls p = .created bytes → x.file = some [] ∧ ∃ now, bytes = content (records p) now
  sole : ∀ p q bytes bytes', x.calls p = .created bytes → x.calls q = .created bytes' → p = q
  lost : ∀ p, x.calls p = .lost → x.file ≠ none
  written : ∀ bytes, x.file = some bytes → bytes = [] ∨ ∃ p now, bytes = content (records p) now

omit [DecidableEq P] in
theorem fileKept_initial (records : P → FinalEvidencePackage) : (EvidenceFile.initial P).Kept records where
  writer := fun _ _ h => nomatch h
  sole := fun _ _ _ _ h => nomatch h
  lost := fun _ h => nomatch h
  written := fun _ h => nomatch h

theorem compared_finished (record : FinalEvidencePackage) (bytes : Bytes) :
    compared record bytes = .failed ∨ compared record bytes = .conflict ∨ compared record bytes = .returned := by
  unfold compared
  split
  · exact .inl rfl
  · dsimp only
    split
    · exact .inr (.inl rfl)
    · exact .inr (.inr rfl)

/-- Where a call is after one of them went on. -/
theorem of_update {f : P → PersistPc} {p q : P} {pc pc' : PersistPc} (h : Function.update f p pc q = pc') :
    (q = p ∧ pc = pc') ∨ f q = pc' := by
  by_cases heq : q = p
  · subst heq
    rw [Function.update_self] at h
    exact .inl ⟨rfl, h⟩
  · rw [Function.update_of_ne heq] at h
    exact .inr h

/-- A step that changes its call to none that creates or has lost, and leaves the file. -/
theorem EvidenceFile.Kept.goto (hx : x.Kept records) {p : P} {pc : PersistPc} (hcreated : ∀ bytes, pc ≠ .created bytes)
    (hlost : pc = .lost → x.file ≠ none) : (x.goto p pc).Kept records := by
  have hof : ∀ q bytes, (x.goto p pc).calls q = .created bytes → x.calls q = .created bytes := by
    intro q bytes hq
    rcases of_update hq with ⟨-, hpc⟩ | hq
    · exact absurd hpc (hcreated bytes)
    · exact hq
  constructor
  · exact fun q bytes hq => hx.writer q bytes (hof q bytes hq)
  · exact fun q r bytes bytes' hq hr => hx.sole q r bytes bytes' (hof q bytes hq) (hof r bytes' hr)
  · intro q hq
    rcases of_update hq with ⟨-, hpc⟩ | hq
    · exact hlost hpc
    · exact hx.lost q hq
  · exact hx.written

theorem fileKept_step (h : PersistStep records x l y) (hx : x.Kept records) : y.Kept records := by
  obtain ⟨p, pc, file, rfl, heffect⟩ := effect_of_step h
  cases heffect with
  | waits hpc =>
    refine hx.goto ?_ ?_
    · rintro bytes rfl
      rcases hpc with hpc | hpc <;> cases hpc
    · rintro rfl
      rcases hpc with hpc | hpc <;> cases hpc
  | loses hfile => exact hx.goto (fun _ h => nomatch h) fun _ => hfile
  | @compares bytes hfile _ =>
    refine hx.goto ?_ ?_ <;> rcases compared_finished (records p) bytes with heq | heq | heq <;> simp [heq]
  | creates now hfile =>
    have hnone : ∀ q bytes, x.calls q ≠ .created bytes := by
      intro q bytes hq
      have hwritten := (hx.writer q bytes hq).1
      rw [hfile] at hwritten
      cases hwritten
    have hof : ∀ q bytes, Function.update x.calls p (.created (content (records p) now)) q = .created bytes →
        q = p ∧ bytes = content (records p) now := by
      intro q bytes hq
      rcases of_update hq with ⟨rfl, hpc⟩ | hq
      · cases hpc
        exact ⟨rfl, rfl⟩
      · exact absurd hq (hnone q bytes)
    constructor
    · intro q bytes hq
      obtain ⟨rfl, rfl⟩ := hof q bytes hq
      exact ⟨rfl, now, rfl⟩
    · intro q r bytes bytes' hq hr
      rw [(hof q bytes hq).1, (hof r bytes' hr).1]
    · exact fun _ _ => Option.some_ne_none _
    · intro bytes hbytes
      exact .inl (Option.some.inj hbytes).symm
  | @writes bytes hcall =>
    have hnone : ∀ q bytes', Function.update x.calls p .returned q ≠ .created bytes' := by
      intro q bytes' hq
      by_cases heq : q = p
      · subst heq
        rw [Function.update_self] at hq
        cases hq
      · rw [Function.update_of_ne heq] at hq
        exact heq (hx.sole q p bytes' bytes hq hcall)
    constructor
    · exact fun q bytes' hq => absurd hq (hnone q bytes')
    · exact fun q r bytes' _ hq _ => absurd hq (hnone q bytes')
    · exact fun _ _ => Option.some_ne_none _
    · intro bytes' hbytes
      obtain ⟨now, hnow⟩ := (hx.writer p bytes hcall).2
      cases hbytes
      exact .inr ⟨p, now, hnow⟩
  | vanishes hcall hfile => exact absurd hfile (hx.lost p hcall)

/-- **What was written stays.** -/
theorem file_of_step (h : PersistStep records x l y) (hx : x.Kept records) {bytes : Bytes} (hfile : x.file = some bytes)
    (hne : bytes ≠ []) : y.file = some bytes := by
  obtain ⟨p, pc, file, rfl, heffect⟩ := effect_of_step h
  cases heffect with
  | waits | loses | compares | vanishes => exact hfile
  | creates now hnone =>
    rw [hfile] at hnone
    cases hnone
  | writes hcall =>
    rw [(hx.writer p _ hcall).1] at hfile
    exact absurd (Option.some.inj hfile).symm hne

theorem file_of_run {labels : List (PersistLabel P)} (hrun : Run (PersistStep records) x labels y) (hx : x.Kept records)
    {bytes : Bytes} (hfile : x.file = some bytes) (hne : bytes ≠ []) : y.file = some bytes := by
  have hkept : y.Kept records ∧ y.file = some bytes :=
    hrun.invariant (I := fun z => z.Kept records ∧ z.file = some bytes)
      (fun _ _ _ hstep hz => ⟨fileKept_step hstep hz.1, file_of_step hstep hz.1 hz.2 hne⟩) ⟨hx, hfile⟩
  exact hkept.2

/-! ## Answers -/

/-- What is stored. -/
def EvidenceFile.Stored (x : EvidenceFile P) (stored : Value) : Prop :=
  ∃ bytes, x.file = some bytes ∧ readRecord bytes = some stored

/-- The file is not one that is created and not yet written, nor one that differs from a record in properties
`__proto__` alone. -/
def EvidenceFile.Readable (x : EvidenceFile P) (record : FinalEvidencePackage) : Prop :=
  x.file ≠ some [] ∧ ∀ stored, x.Stored stored → SameButProto stored record → SameRecord stored record

/-- **The first writer wins**: what is stored is never replaced, and a call that has finished returned where its record
equals what is stored, and threw the conflict where it does not. -/
structure EvidenceFile.FirstWriterWins (records : P → FinalEvidencePackage) (x : EvidenceFile P) : Prop where
  kept : ∀ labels y, Run (PersistStep records) x labels y →
    ∀ bytes, x.file = some bytes → bytes ≠ [] → y.file = some bytes
  answers : ∀ p, x.calls p = .returned ∨ x.calls p = .conflict ∨ x.calls p = .failed → ∃ stored, x.Stored stored ∧
    (x.calls p = .returned ↔ SameRecord stored (records p)) ∧ (x.calls p = .conflict ↔ ¬ SameRecord stored (records p))

/-- A step reads no file but one that its call can read. -/
def PersistLabel.Reads (records : P → FinalEvidencePackage) (x : EvidenceFile P) : PersistLabel P → Prop
  | .reads p | .rereads p => x.Readable (records p)
  | _ => True

/-- A step under the condition. -/
def ReadingStep (records : P → FinalEvidencePackage) (x : EvidenceFile P) (l : PersistLabel P) (y : EvidenceFile P) : Prop :=
  PersistStep records x l y ∧ l.Reads records x

/-- The answer of a call, where it has one, is the one it should have. -/
def Answered (records : P → FinalEvidencePackage) (x : EvidenceFile P) (p : P) : PersistPc → Prop
  | .returned => ∃ stored, x.Stored stored ∧ SameRecord stored (records p)
  | .conflict => ∃ stored, x.Stored stored ∧ ¬ SameRecord stored (records p)
  | .failed => False
  | _ => True

omit [DecidableEq P] in
theorem EvidenceFile.Stored.unique {stored stored' : Value} (h : x.Stored stored) (h' : x.Stored stored') : stored = stored' := by
  obtain ⟨bytes, hfile, hread⟩ := h
  obtain ⟨bytes', hfile', hread'⟩ := h'
  rw [hfile] at hfile'
  cases hfile'
  rw [hread] at hread'
  exact Option.some.inj hread'

theorem stored_of_step (h : PersistStep records x l y) (hx : x.Kept records) {stored : Value} (hstored : x.Stored stored) :
    y.Stored stored := by
  obtain ⟨bytes, hfile, hread⟩ := hstored
  have hne : bytes ≠ [] := by
    rintro rfl
    cases hread
  exact ⟨bytes, file_of_step h hx hfile hne, hread⟩

omit [DecidableEq P] in
theorem answered_of_stored (hkept : ∀ stored, x.Stored stored → y.Stored stored) {p : P} {pc : PersistPc}
    (h : Answered records x p pc) : Answered records y p pc := by
  cases pc with
  | returned => exact h.imp fun stored hstored => hstored.imp_left (hkept stored)
  | conflict => exact h.imp fun stored hstored => hstored.imp_left (hkept stored)
  | failed => exact h
  | _ => trivial

omit [DecidableEq P] in
/-- **A comparison** tells whether the record equals what is stored. -/
theorem answered_compared {bytes : Bytes} (hx : x.Kept records) (hfile : x.file = some bytes) {p : P}
    (hreads : x.Readable (records p)) : Answered records x p (compared (records p) bytes) := by
  obtain ⟨hne, htold⟩ := hreads
  rcases hx.written bytes hfile with rfl | ⟨q, now, rfl⟩
  · exact absurd hfile hne
  · have hread := readRecord_content (records q) now
    have hstored : x.Stored (enriched (records q) now).toValue.normal := ⟨_, hfile, hread⟩
    have hiff := canonical_eq_iff_sameButProto (records p) (distinct_of_parse hread)
    rw [compared, hread]
    dsimp only
    split
    · next hdiffers => exact ⟨_, hstored, fun hsame => hdiffers (hiff.2 (sameButProto_of_same hsame))⟩
    · next hequal => exact ⟨_, hstored, htold _ hstored (hiff.1 (not_not.1 hequal))⟩

theorem answered_step (h : ReadingStep records x l y) (hx : x.Kept records)
    (hanswered : ∀ p, Answered records x p (x.calls p)) : ∀ p, Answered records y p (y.calls p) := by
  obtain ⟨hstep, hreads⟩ := h
  have hkept : ∀ stored, x.Stored stored → y.Stored stored := fun stored => stored_of_step hstep hx
  obtain ⟨p, pc, file, rfl, heffect⟩ := effect_of_step hstep
  intro q
  by_cases heq : q = p
  · subst heq
    dsimp only
    rw [Function.update_self]
    cases heffect with
    | waits hpc => rcases hpc with rfl | rfl <;> trivial
    | loses => trivial
    | compares hfile hlabel =>
      refine answered_of_stored hkept (answered_compared hx hfile ?_)
      rcases hlabel with rfl | rfl <;> exact hreads
    | creates => trivial
    | writes hcall =>
      obtain ⟨now, rfl⟩ := (hx.writer q _ hcall).2
      exact ⟨_, ⟨_, rfl, readRecord_content (records q) now⟩, same_content (records q) now⟩
    | vanishes hcall hfile => exact hx.lost q hcall hfile
  · dsimp only
    rw [Function.update_of_ne heq]
    exact answered_of_stored hkept (hanswered q)

/-- **In every run of calls of `persist` in which no call reads a file that is created and not yet written**, or one that
differs from its record in properties `__proto__` alone, the first writer wins. -/
theorem firstWriterWins_of_reading {labels : List (PersistLabel P)}
    (hrun : Run (ReadingStep records) (.initial P) labels x) : x.FirstWriterWins records := by
  obtain ⟨hkept, hanswered⟩ := hrun.invariant (I := fun x => x.Kept records ∧ ∀ p, Answered records x p (x.calls p))
    (fun _ _ _ hstep hx => ⟨fileKept_step hstep.1 hx.1, answered_step hstep hx.1 hx.2⟩)
    ⟨fileKept_initial records, fun _ => trivial⟩
  refine ⟨fun _ _ hlater _ hfile hne => file_of_run hlater hkept hfile hne, fun p hfinished => ?_⟩
  have hp := hanswered p
  rcases hfinished with hpc | hpc | hpc
  · rw [hpc] at hp ⊢
    obtain ⟨stored, hstored, hsame⟩ := hp
    exact ⟨stored, hstored, by simp [hsame], by simp [hsame]⟩
  · rw [hpc] at hp ⊢
    obtain ⟨stored, hstored, hdiffers⟩ := hp
    exact ⟨stored, hstored, by simp [hdiffers], by simp [hdiffers]⟩
  · rw [hpc] at hp
    exact hp.elim

end

/-! ## A creator that stops -/

def sampleRecord : FinalEvidencePackage where
  fields := ⟨[("atomId", .str "atom_1"), ("specHash", .str "s"), ("artifactHash", .str "a"), ("finalState", .str "ACCEPTED")],
    by decide⟩
  completedAt := .inl rfl

/-- A second call with the record of the first returns. -/
theorem firstWriterWins_of_reading_retry :
    ∃ labels x, Run (ReadingStep fun _ : Bool => sampleRecord) (.initial Bool) labels x ∧ x.calls false = .returned ∧ x.calls true = .returned ∧ x.FirstWriterWins fun _ => sampleRecord := by
  let bytes := content sampleRecord "2026-01-01T00:00:00.000Z"
  let written : EvidenceFile Bool := ⟨some bytes, fun p => if p then .reading else .returned⟩
  have hwriter : Run (ReadingStep fun _ : Bool => sampleRecord) (.initial Bool)
      [.reads false, .creates false "2026-01-01T00:00:00.000Z", .writes false] written := by
    refine .cons (t := ⟨none, fun p => if p then .reading else .absent⟩) ⟨?_, ?_, ?_⟩
      (.cons (t := ⟨some [], fun p => if p then .reading else .created bytes⟩) ⟨?_, trivial⟩
        (.cons ⟨?_, trivial⟩ (.nil written)))
    · refine congrArg some (congrArg (EvidenceFile.mk none) (funext fun p => ?_))
      cases p <;> rfl
    · exact fun h => nomatch h
    · rintro stored ⟨bytes, hfile, -⟩
      cases hfile
    · refine congrArg some (congrArg (EvidenceFile.mk (some [])) (funext fun p => ?_))
      cases p <;> rfl
    · refine congrArg some (congrArg (EvidenceFile.mk _) (funext fun p => ?_))
      cases p <;> rfl
  have hretry : ReadingStep (fun _ : Bool => sampleRecord) written (.reads true) (written.goto true .returned) := by
    have hread := readRecord_content sampleRecord "2026-01-01T00:00:00.000Z"
    refine ⟨?_, fun hempty => content_ne_nil _ _ (Option.some.inj hempty), fun stored hstored _ => ?_⟩
    · have hcompared : compared sampleRecord bytes = .returned := by
        have hsame := (canonical_eq_iff_sameButProto sampleRecord (distinct_of_parse hread)).2
          (sameButProto_of_same (same_content _ _))
        rw [compared, hread]
        exact if_neg (not_not.2 hsame)
      exact congrArg some (congrArg (written.goto true) hcompared)
    · rw [hstored.unique ⟨_, rfl, hread⟩]
      exact same_content _ _
  exact ⟨_, _, hwriter.snoc hretry, rfl, rfl, firstWriterWins_of_reading (hwriter.snoc hretry)⟩

/-- **An identical retry is refused**, ever after: the first call created the file, and its process stopped. -/
theorem not_firstWriterWins_of_stopped : ¬ ∀ (records : Bool → FinalEvidencePackage) (labels : List (PersistLabel Bool))
    (x : EvidenceFile Bool), Run (PersistStep records) (.initial Bool) labels x → x.FirstWriterWins records := by
  intro h
  have hrun : Run (PersistStep fun _ : Bool => sampleRecord) (.initial Bool)
      [.reads false, .creates false "2026-01-01T00:00:00.000Z", .stops false, .reads true] _ :=
    .cons rfl (.cons rfl (.cons rfl (.cons rfl (.nil _))))
  obtain ⟨stored, ⟨bytes, hfile, hread⟩, -⟩ := (h _ _ _ hrun).answers true (.inr (.inr rfl))
  cases hfile
  cases hread

end Tna.Vad
