import Mathlib.Data.List.Sort
import Tna.Improvement.Tree

/-!
# The hash and the diff of source trees

`hashDirectoryTree` and `diffDirectoryTrees` see a tree through one walk: its regular
files, with their paths and the hashes of their contents. An entry whose name is ignored
is passed over, file or directory, and with a directory all that is below it.
-/

namespace Tna.Improvement

open Tna.Lib Tna.Js

/-- `DEFAULT_IGNORED_DIR_NAMES`. -/
def defaultIgnoredDirNames : List Text := ["node_modules", ".git", "dist", ".workspaces"]

def FileName.ignored (name : FileName) : Bool := decide (name.text ∈ defaultIgnoredDirNames)

mutual

/-- Every file of the walk, with what reading it gives; `current` is where the walk stands. -/
def Node.walkFiles (current : Path) : Node → List (Path × Bytes)
  | .file content => [(current, content)]
  | .dir entries => entries.walkFiles current
  | _ => []

def Entries.walkFiles (current : Path) : Entries → List (Path × Bytes)
  | .nil => []
  | .cons name node rest =>
    if name.ignored then rest.walkFiles current
    else node.walkFiles (current ++ [name]) ++ rest.walkFiles current

end

def Tree.walkFiles (t : Tree) : List (Path × Bytes) := t.root.walkFiles []

/-- `relative(root, full).split(sep).join('/')`. -/
def pathText (path : Path) : Text := List.intercalate [unit '/'] (path.map FileName.text)

/-! ## What the walk finds -/

mutual

theorem read_of_mem_walk_node : ∀ {node : Node} {current found : Path} {content : Bytes},
    (found, content) ∈ node.walkFiles current → node.distinct = true →
      ∃ path, found = current ++ path ∧ node.read path = some content ∧ ∀ name ∈ path, name.ignored = false
  | .file content, current, found, content', h, _ => by
    cases List.mem_singleton.1 h
    exact ⟨[], (List.append_nil _).symm, rfl, by simp⟩
  | .dir entries, current, found, content, h, hdistinct => by
    obtain ⟨name, path, hfound, -, hread, hignored⟩ := read_of_mem_walk h hdistinct
    exact ⟨name :: path, hfound, hread, hignored⟩
  | .link _, _, _, _, h, _ => nomatch h
  | .dangling, _, _, _, h, _ => nomatch h
  | .special _, _, _, _, h, _ => nomatch h

/-- A file of the walk is read at its path, on which no name is ignored. -/
theorem read_of_mem_walk : ∀ {entries : Entries} {current found : Path} {content : Bytes},
    (found, content) ∈ entries.walkFiles current → entries.distinct = true →
      ∃ name path, found = current ++ name :: path ∧ name ∈ entries.names ∧ entries.read name path = some content ∧
        ∀ n ∈ name :: path, n.ignored = false
  | .nil, _, _, _, h, _ => nomatch h
  | .cons first node rest, current, found, content, h, hdistinct => by
    simp only [Entries.distinct, Bool.and_eq_true, decide_eq_true_eq] at hdistinct
    have hrest : (found, content) ∈ rest.walkFiles current → ∃ name path, found = current ++ name :: path ∧
        name ∈ (Entries.cons first node rest).names ∧ (Entries.cons first node rest).read name path = some content ∧
        ∀ n ∈ name :: path, n.ignored = false := by
      intro hmem
      obtain ⟨name, path, hfound, hname, hread, hignored⟩ := read_of_mem_walk hmem hdistinct.2
      refine ⟨name, path, hfound, List.mem_cons_of_mem _ hname, ?_, hignored⟩
      rw [Entries.read, if_neg]
      · exact hread
      · rintro rfl
        exact hdistinct.1.1 hname
    rw [Entries.walkFiles] at h
    split at h
    · exact hrest h
    · next hfirst =>
      rcases List.mem_append.1 h with h | h
      · obtain ⟨path, hfound, hread, hignored⟩ := read_of_mem_walk_node h hdistinct.1.2
        refine ⟨first, path, ?_, List.mem_cons_self .., ?_, List.forall_mem_cons.2 ⟨Bool.eq_false_iff.2 hfirst, hignored⟩⟩
        · rw [hfound, List.append_assoc, List.singleton_append]
        · rw [Entries.read, if_pos rfl]
          exact hread
      · exact hrest h

end

mutual

theorem mem_walk_node_of_read : ∀ {node : Node} {path : Path} {content : Bytes}, node.read path = some content →
    node.plain = true → (∀ name ∈ path, name.ignored = false) → ∀ current : Path,
      (current ++ path, content) ∈ node.walkFiles current
  | .file _, [], content, h, _, _, current => by
    cases h
    rw [List.append_nil]
    exact List.mem_singleton_self _
  | .dir entries, name :: path, content, h, hplain, hignored, current => mem_walk_of_read h hplain hignored current

/-- Without links, a file that is read at a path with no ignored name on it is in the walk. -/
theorem mem_walk_of_read : ∀ {entries : Entries} {name : FileName} {path : Path} {content : Bytes},
    entries.read name path = some content → entries.plain = true → (∀ n ∈ name :: path, n.ignored = false) →
      ∀ current : Path, (current ++ name :: path, content) ∈ entries.walkFiles current
  | .nil, name, path, content, h, _, _, _ => by
    rw [Entries.read] at h
    cases h
  | .cons first node rest, name, path, content, h, hplain, hignored, current => by
    simp only [Entries.plain, Bool.and_eq_true] at hplain
    rw [Entries.read] at h
    rw [Entries.walkFiles]
    split at h
    · next heq =>
      subst heq
      obtain ⟨hname, hpath⟩ := List.forall_mem_cons.1 hignored
      rw [if_neg (by simp [hname])]
      have hmem := mem_walk_node_of_read h hplain.1 hpath (current ++ [name])
      rw [List.append_assoc, List.singleton_append] at hmem
      exact List.mem_append_left _ hmem
    · have hmem := mem_walk_of_read h hplain.2 hignored current
      split
      · exact hmem
      · exact List.mem_append_right _ hmem

end

namespace Tree

variable {t : Tree} {path : Path} {content : Bytes}

/-- **What the walk finds**: it is read at its path, and no name on the path is ignored. -/
theorem read_of_mem_walkFiles (h : (path, content) ∈ t.walkFiles) :
    t.read path = some content ∧ ∀ name ∈ path, name.ignored = false := by
  obtain ⟨name, rest, rfl, -, hread, hignored⟩ := read_of_mem_walk h t.distinct
  exact ⟨hread, hignored⟩

/-- **What the walk does not miss**: a file without a link or an ignored name on the way to it. -/
theorem mem_walkFiles_of_read (hplain : t.Plain) (h : t.read path = some content)
    (hignored : ∀ name ∈ path, name.ignored = false) : (path, content) ∈ t.walkFiles := by
  cases path with
  | nil => cases h
  | cons name rest => exact mem_walk_of_read h hplain hignored []

end Tree

/-! ## Paths as text -/

theorem FileName.spec (name : FileName) : name.text ≠ [] ∧ (0 : CodeUnit) ∉ name.text ∧ unit '/' ∉ name.text ∧
    name.text.isWellFormed = true := by
  have h := name.isFileName
  simp only [Improvement.isFileName, Bool.and_eq_true, Bool.not_eq_true', List.isEmpty_eq_false_iff, ne_eq,
    List.contains_eq_mem, decide_eq_false_iff_not] at h
  exact ⟨h.1.1.1.1.1, h.1.1.1.1.2, h.1.1.1.2, h.1.1.2⟩

theorem FileName.text_injective : Function.Injective FileName.text := by
  rintro ⟨t, ht⟩ ⟨u, hu⟩ h
  cases h
  rfl

/-- A path is read back from its text. -/
theorem pathText_injective {path path' : Path} (hpath : path ≠ []) (hpath' : path' ≠ []) (h : pathText path = pathText path') :
    path = path' := by
  have hsplit : ∀ p : Path, p ≠ [] → (pathText p).splitOn (unit '/') = p.map FileName.text := by
    intro p hp
    refine List.splitOn_intercalate _ ?_ (by simpa using hp)
    intro t ht
    obtain ⟨name, -, rfl⟩ := List.mem_map.1 ht
    exact name.spec.2.2.1
  have hmap : path.map FileName.text = path'.map FileName.text := by rw [← hsplit path hpath, h, hsplit path' hpath']
  exact List.map_injective_iff.2 FileName.text_injective hmap

/-! ## Hashes -/

/-- What SHA-256 gives: thirty-two bytes. -/
structure Digest where
  bytes : Bytes
  length : bytes.length = 32
deriving DecidableEq

def hexByte (b : UInt8) : Text := [hexDigit (b.toNat / 16), hexDigit (b.toNat % 16)]

/-- `digest('hex')`. -/
def Digest.hex (d : Digest) : Text := d.bytes.flatMap hexByte

section
variable (sha256 : Bytes → Digest)

/-- What is hashed for one file: its path, a zero, and the hash of its content. -/
def fileBytes (f : Text × Digest) : Bytes := f.1.utf8 ++ 0 :: f.2.bytes

/-- The files of the walk with their contents hashed, by path. -/
def Tree.hashedFiles (t : Tree) : List (Text × Digest) := t.walkFiles.map fun f => (pathText f.1, sha256 f.2)

def Tree.bytes (t : Tree) : Bytes := ((t.hashedFiles sha256).insertionSort keyLe).flatMap fileBytes

def hashDirectoryTree (root : Tree) : Text := (sha256 (root.bytes sha256)).hex

inductive Change where
  | added | removed | modified
deriving DecidableEq

structure FileDiff where
  path : Text
  change : Change
deriving DecidableEq

/-- `hashFileAt`. -/
def hashFileAt (f : Path × Bytes) : Text × Text := (pathText f.1, (sha256 f.2).hex)

def diffDirectoryTrees (beforeRoot afterRoot : Tree) : List FileDiff :=
  let beforeFiles := beforeRoot.walkFiles.map (hashFileAt sha256)
  let afterFiles := afterRoot.walkFiles.map (hashFileAt sha256)
  let changed := afterFiles.filterMap fun f =>
    match beforeFiles.lookup f.1 with
    | none => some ⟨f.1, .added⟩
    | some hash => if hash = f.2 then none else some ⟨f.1, .modified⟩
  let gone := beforeFiles.filterMap fun f => if (afterFiles.lookup f.1).isSome then none else some ⟨f.1, .removed⟩
  (changed ++ gone).insertionSort fun a b => a.path ≤ b.path

/-- What is hashed when a tree is: the content of every file of the walk, and all of it together. -/
def Tree.hashedBytes (t : Tree) : List Bytes := t.bytes sha256 :: t.walkFiles.map fun f => f.2

end

theorem hexByte_injective : Function.Injective hexByte := by
  intro a b h
  have hdigit : ∀ n < 16, ∀ m < 16, hexDigit n = hexDigit m → n = m := by decide
  simp only [hexByte, List.cons.injEq, and_true] at h
  have ha := a.toNat_lt
  have hb := b.toNat_lt
  have hhigh := hdigit _ (by omega) _ (by omega) h.1
  have hlow := hdigit _ (by omega) _ (by omega) h.2
  exact UInt8.toNat_inj.1 (by omega)

theorem prefixCode_hexByte : PrefixCode (fun _ => True) hexByte where
  ne_nil b _ := List.cons_ne_nil _ _
  first a b _ _ xs ys h := by
    obtain ⟨hword, hrest⟩ := List.append_inj h rfl
    exact ⟨hexByte_injective hword, hrest⟩

theorem hex_injective : Function.Injective Digest.hex := by
  rintro ⟨a, ha⟩ ⟨b, hb⟩ h
  have hbytes := prefixCode_hexByte.flatMap_injective (fun _ _ => trivial) (fun _ _ => trivial) h
  cases hbytes
  rfl

/-! ## The hash sees the files of the walk -/

theorem pathText_cons_cons (name name' : FileName) (path : Path) :
    pathText (name :: name' :: path) = name.text ++ unit '/' :: pathText (name' :: path) := by
  simp [pathText, List.intercalate]

/-- A path holds no zero and no lone surrogate. -/
theorem pathText_spec : ∀ path : Path, (pathText path).isWellFormed = true ∧ (0 : CodeUnit) ∉ pathText path
  | [] => by simp [pathText, Text.isWellFormed]
  | [name] => by simpa [pathText] using ⟨name.spec.2.2.2, name.spec.2.1⟩
  | name :: name' :: path => by
    obtain ⟨hwell, hzero⟩ := pathText_spec (name' :: path)
    rw [pathText_cons_cons]
    refine ⟨isWellFormed_append name.spec.2.2.2 ?_, ?_⟩
    · exact isWellFormed_append (t := [unit '/']) (by decide) hwell
    · rw [List.mem_append, List.mem_cons]
      rintro (h | h | h)
      · exact name.spec.2.1 h
      · exact absurd h (by decide)
      · exact hzero h

theorem append_zero_inj {a b xs ys : Bytes} (ha : (0 : UInt8) ∉ a) (hb : (0 : UInt8) ∉ b) (h : a ++ 0 :: xs = b ++ 0 :: ys) :
    a = b ∧ xs = ys := by
  induction a generalizing b with
  | nil =>
    cases b with
    | nil => exact ⟨rfl, (List.cons.inj h).2⟩
    | cons c rest => exact absurd (List.cons.inj h).1 fun hc => hb (hc ▸ List.mem_cons_self ..)
  | cons c rest ih =>
    cases b with
    | nil => exact absurd (List.cons.inj h).1 fun hc => ha (hc ▸ List.mem_cons_self ..)
    | cons d rest' =>
      obtain ⟨rfl, htail⟩ := List.cons.inj h
      obtain ⟨rfl, hxs⟩ := ih (fun hmem => ha (List.mem_cons_of_mem _ hmem)) (fun hmem => hb (List.mem_cons_of_mem _ hmem)) htail
      exact ⟨rfl, hxs⟩

/-- What is hashed for a file says where it ends. -/
theorem prefixCode_fileBytes :
    PrefixCode (fun f : Text × Digest => f.1.isWellFormed = true ∧ (0 : CodeUnit) ∉ f.1) fileBytes where
  ne_nil f _ := by simp [fileBytes]
  first f g hf hg xs ys h := by
    simp only [fileBytes, List.append_assoc, List.cons_append] at h
    obtain ⟨hpath, hrest⟩ := append_zero_inj (fun hz => hf.2 (zero_mem_utf8 hz)) (fun hz => hg.2 (zero_mem_utf8 hz)) h
    obtain ⟨hdigest, hxs⟩ := List.append_inj hrest (f.2.length.trans g.2.length.symm)
    obtain ⟨path, digest⟩ := f
    obtain ⟨path', digest'⟩ := g
    cases utf8_injective hf.1 hg.1 hpath
    cases digest
    cases digest'
    cases hdigest
    exact ⟨rfl, hxs⟩

section
variable {sha256 : Bytes → Digest} {t u : Tree}

theorem hashedFiles_spec : ∀ f ∈ (t.hashedFiles sha256).insertionSort keyLe,
    f.1.isWellFormed = true ∧ (0 : CodeUnit) ∉ f.1 := by
  intro f hf
  obtain ⟨g, -, rfl⟩ := List.mem_map.1 ((List.mem_insertionSort _).1 hf)
  exact pathText_spec g.1

/-- **Two trees hashed from the same bytes have the same files**, as far as the walk sees them. -/
theorem mem_hashedFiles_of_bytes_eq (h : t.bytes sha256 = u.bytes sha256) (f : Text × Digest) :
    f ∈ t.hashedFiles sha256 ↔ f ∈ u.hashedFiles sha256 := by
  have hsorted := prefixCode_fileBytes.flatMap_injective hashedFiles_spec hashedFiles_spec h
  rw [← List.mem_insertionSort keyLe, hsorted, List.mem_insertionSort]

/-! ## What the diff lists -/

/-- The paths of the diff: what a mutation is judged by. -/
def changedPaths (sha256 : Bytes → Digest) (beforeRoot afterRoot : Tree) : List Text :=
  (diffDirectoryTrees sha256 beforeRoot afterRoot).map fun d => d.path

/-- A file that is not in the tree before, or is there with another hash, is in the diff. -/
theorem mem_changedPaths_of_walk {f : Path × Bytes} (hf : f ∈ u.walkFiles)
    (hbefore : ∀ g ∈ t.walkFiles, pathText g.1 = pathText f.1 → sha256 g.2 ≠ sha256 f.2) :
    pathText f.1 ∈ changedPaths sha256 t u := by
  have hafter : hashFileAt sha256 f ∈ u.walkFiles.map (hashFileAt sha256) := List.mem_map_of_mem hf
  rw [changedPaths, List.mem_map]
  cases hlookup : (t.walkFiles.map (hashFileAt sha256)).lookup (pathText f.1) with
  | none =>
    refine ⟨⟨pathText f.1, .added⟩, (List.mem_insertionSort _).2 (List.mem_append_left _ ?_), rfl⟩
    exact List.mem_filterMap.2 ⟨_, hafter, by simp only [hashFileAt, hlookup]⟩
  | some hash =>
    obtain ⟨before, rest, hsplit, -⟩ := List.lookup_eq_some_iff.1 hlookup
    obtain ⟨g, hg, hgf⟩ := List.mem_map.1 (hsplit ▸ List.mem_append_right before (List.mem_cons_self ..))
    obtain ⟨hpath, hhash⟩ := Prod.mk.inj hgf
    have hne : hash ≠ (sha256 f.2).hex := by
      rintro rfl
      exact hbefore g hg hpath (hex_injective hhash)
    refine ⟨⟨pathText f.1, .modified⟩, (List.mem_insertionSort _).2 (List.mem_append_left _ ?_), rfl⟩
    refine List.mem_filterMap.2 ⟨_, hafter, ?_⟩
    simp only [hashFileAt, hlookup]
    exact if_neg hne

/-- A path of the diff is the path of a file one of the two walks finds. -/
theorem walk_of_mem_changedPaths {path : Text} (h : path ∈ changedPaths sha256 t u) :
    ∃ f, (f ∈ t.walkFiles ∨ f ∈ u.walkFiles) ∧ pathText f.1 = path := by
  obtain ⟨d, hd, rfl⟩ := List.mem_map.1 h
  rcases List.mem_append.1 ((List.mem_insertionSort _).1 hd) with hd | hd
  · obtain ⟨_, hmem, hf⟩ := List.mem_filterMap.1 hd
    obtain ⟨f, hfiles, rfl⟩ := List.mem_map.1 hmem
    refine ⟨f, .inr hfiles, ?_⟩
    split at hf
    · cases hf
      rfl
    · split at hf
      · cases hf
      · cases hf
        rfl
  · obtain ⟨_, hmem, hf⟩ := List.mem_filterMap.1 hd
    obtain ⟨f, hfiles, rfl⟩ := List.mem_map.1 hmem
    refine ⟨f, .inl hfiles, ?_⟩
    split at hf
    · cases hf
    · cases hf
      rfl

end

/-! ## A small tree -/

/-- A hash for small trees. -/
def sampleSha256 (b : Bytes) : Digest := ⟨b.foldl (fun h x => h * 31 + x) 7 :: List.replicate 31 0, rfl⟩

theorem isFileName_sample : isFileName "a.ts" = true := by decide

def sampleParent : Tree := ⟨.cons ⟨"a.ts", isFileName_sample⟩ (.file [1]) .nil, by decide⟩

end Tna.Improvement
