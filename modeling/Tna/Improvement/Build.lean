import Tna.Improvement.Snapshot
import Tna.Js.Object
import Tna.Lib.Outcome

/-!
# Building a candidate

A candidate is a copy of its parent's tree with the candidate's files written into it.
Where a file goes is worked out from its path, which may lead anywhere; only what is
really inside the workspace is written.

A candidate is judged by the paths in which its tree differs from its parent's. A file it
writes below an ignored name is in neither walk, so it is not among these paths; every
other file that it changes is, and changes the hash.
-/

namespace Tna.Improvement

open Tna.Lib Tna.Js

/-- What a build finds around its workspace: the path of the workspace and where it really is, where an existing path
outside it really leads, and the paths inside it the file system will not write. -/
structure Surroundings where
  root : List Text
  realRoot : List Text
  leads : List Text → Option (List Text)
  refuses : Path → Bool

/-! ## Paths -/

/-- `resolve(base, path)`, as the components of an absolute path. -/
def resolvePath (base : List Text) (path : Text) : List Text :=
  (path.splitOn (unit '/')).foldl
    (fun done part =>
      if part = [] ∨ part = Text.ofAscii "." then done
      else if part = Text.ofAscii ".." then done.dropLast
      else done ++ [part])
    (if path.head? = some (unit '/') then [] else base)

/-- An absolute path as text. -/
def absolutePath (path : List Text) : Text := unit '/' :: List.intercalate [unit '/'] path

/-- The rest of a path at or below the root. -/
def relativeTo (root path : List Text) : Option (List Text) := if root <+: path then some (path.drop root.length) else none

theorem relativeTo_append (root rest : List Text) : relativeTo root (root ++ rest) = some rest := by
  simp [relativeTo]

/-- The name a component has on disk; a component with a zero has none. -/
def fileName? (part : Text) : Option FileName :=
  if h : isFileName part.toWellFormed = true then some ⟨part.toWellFormed, h⟩ else none

def fileNames? (path : List Text) : Option Path := path.mapM fileName?

/-! ## Inside the workspace -/

namespace Surroundings

/-- The real path of what is in the workspace under a path, if it is there. -/
def realIfThere (t : Tree) (rest real : List Text) : Option (List Text) :=
  if (fileNames? rest).any t.has then some real else none

/-- `realpathSync`, or nothing where there is nothing. The workspace itself is a copy, with no links in it. -/
def realpath (d : Surroundings) (t : Tree) (path : List Text) : Option (List Text) :=
  match relativeTo d.root path with
  | some rest => realIfThere t rest (d.realRoot ++ rest)
  | none =>
    match d.leads path with
    | none => none
    | some real =>
      match relativeTo d.realRoot real with
      | some rest => realIfThere t rest real
      | none => some real

/-- The path in the workspace a path is written at, unless it is outside. -/
def assertInsideWorkspace (d : Surroundings) (t : Tree) (candidate : List Text) : Except ImprovementThrown (List Text) :=
  match d.realpath t candidate with
  | none =>
    match relativeTo d.root candidate with
    | some rest => .ok rest
    | none =>
      .error (.workspaceSafety <| Text.ofAscii "Refusing: \"" ++ absolutePath candidate ++
        Text.ofAscii "\" resolves outside the workspace root (" ++ absolutePath d.root ++ Text.ofAscii ")")
  | some real =>
    match relativeTo d.realRoot real with
    | some rest => .ok rest
    | none =>
      .error (.workspaceSafety <| Text.ofAscii "Refusing: \"" ++ absolutePath candidate ++ Text.ofAscii "\" (real path " ++
        absolutePath real ++ Text.ofAscii ") resolves outside the workspace root (" ++ absolutePath d.realRoot ++
        Text.ofAscii ") " ++ 0x2014 :: Text.ofAscii " possible symlink escape")

/-- One file of the candidate: its directories are made and it is written, if it is text. -/
def writeCandidateFile (d : Surroundings) (t : Tree) (f : Text × JsValue) : Except ImprovementThrown Tree :=
  match d.assertInsideWorkspace t (resolvePath d.root f.1) with
  | .error e => .error e
  | .ok target =>
    match fileNames? target, f.2.asText? with
    | some path, some content =>
      match t.write content.utf8 path with
      | some t => if d.refuses path then .error .other else .ok t
      | none => .error .other
    | _, _ => .error .other

/-- The tree of a candidate: the parent's, copied, and the candidate's files in it. -/
def buildCandidate (d : Surroundings) (parent : Tree) (files : List (Text × JsValue)) : Except ImprovementThrown Tree :=
  match parent.copy with
  | none => .error .other
  | some t => files.foldlM d.writeCandidateFile t

/-! ## What a build writes -/

/-- Where in the workspace a file of the candidate goes. -/
def location (d : Surroundings) (relPath : Text) : Option Path :=
  match relativeTo d.root (resolvePath d.root relPath) with
  | some rest => fileNames? rest
  | none => (d.leads (resolvePath d.root relPath)).bind fun real => (relativeTo d.realRoot real).bind fileNames?

/-- What one file of the candidate writes to a path. -/
def writtenTo (d : Surroundings) (path : Path) (f : Text × JsValue) : Option Bytes :=
  if d.location f.1 = some path then f.2.asText?.map Text.utf8 else none

/-- What the files of the candidate write to a path: of several, the last. -/
def written (d : Surroundings) (path : Path) : List (Text × JsValue) → Option Bytes
  | [] => none
  | f :: rest => (written d path rest).or (d.writtenTo path f)

variable {d : Surroundings} {t u : Tree} {f : Text × JsValue} {files : List (Text × JsValue)} {path : Path} {content : Bytes}

theorem eq_of_realIfThere {rest real real' : List Text} (h : realIfThere t rest real = some real') : real = real' := by
  unfold realIfThere at h
  split at h
  · exact Option.some.inj h
  · cases h

/-- Where a path really leads: below the real root when it is below the root, else where the links go. -/
theorem realpath_cases {candidate real : List Text} (h : d.realpath t candidate = some real) :
    (∃ rest, relativeTo d.root candidate = some rest ∧ real = d.realRoot ++ rest) ∨
      (relativeTo d.root candidate = none ∧ d.leads candidate = some real) := by
  unfold realpath at h
  cases hroot : relativeTo d.root candidate with
  | some rest =>
    simp only [hroot] at h
    exact .inl ⟨rest, rfl, (eq_of_realIfThere h).symm⟩
  | none =>
    cases hleads : d.leads candidate with
    | none =>
      simp only [hroot, hleads] at h
      cases h
    | some real' =>
      cases hreal : relativeTo d.realRoot real' with
      | some rest =>
        simp only [hroot, hleads, hreal] at h
        rw [eq_of_realIfThere h]
        exact .inr ⟨rfl, rfl⟩
      | none =>
        simp only [hroot, hleads, hreal] at h
        exact .inr ⟨rfl, h⟩

theorem location_of_inside {target : List Text} (h : d.assertInsideWorkspace t (resolvePath d.root f.1) = .ok target) :
    d.location f.1 = fileNames? target := by
  unfold assertInsideWorkspace at h
  unfold location
  cases hreal : d.realpath t (resolvePath d.root f.1) with
  | none =>
    cases hroot : relativeTo d.root (resolvePath d.root f.1) with
    | some rest =>
      simp only [hreal, hroot] at h
      cases h
      rfl
    | none =>
      simp only [hreal, hroot] at h
      cases h
  | some real =>
    simp only [hreal] at h
    rcases realpath_cases hreal with ⟨rest, hroot, rfl⟩ | ⟨hroot, hleads⟩
    · rw [relativeTo_append] at h
      cases h
      simp only [hroot]
    · cases hrelative : relativeTo d.realRoot real with
      | none =>
        simp only [hrelative] at h
        cases h
      | some rest =>
        simp only [hrelative] at h
        cases h
        simp only [hroot, hleads, Option.bind_some, hrelative]

/-- What writing one file comes down to. -/
theorem write_of_writeCandidateFile (h : d.writeCandidateFile t f = .ok u) :
    ∃ path content, d.location f.1 = some path ∧ d.writtenTo path f = some content ∧ t.write content path = some u := by
  unfold writeCandidateFile at h
  split at h
  · cases h
  · next target htarget =>
    split at h
    · next path text hpath htext =>
      split at h
      · next t' hwrite =>
        split at h
        · cases h
        · cases h
          have hlocation := (location_of_inside htarget).trans hpath
          refine ⟨path, text.utf8, hlocation, ?_, hwrite⟩
          rw [writtenTo, if_pos hlocation, htext]
          rfl
      · cases h
    · cases h

theorem plain_of_writes (h : files.foldlM d.writeCandidateFile t = .ok u) (ht : t.Plain) : u.Plain := by
  induction files generalizing t with
  | nil =>
    cases h
    exact ht
  | cons f rest ih =>
    obtain ⟨t', hfirst, hrest⟩ := bind_ok h
    obtain ⟨_, _, -, -, hwrite⟩ := write_of_writeCandidateFile hfirst
    exact ih hrest (ht.write hwrite)

/-- What is not written again stays. -/
theorem read_of_not_written (h : files.foldlM d.writeCandidateFile t = .ok u) (hread : t.read path = some content)
    (hnot : d.written path files = none) : u.read path = some content := by
  induction files generalizing t with
  | nil =>
    cases h
    exact hread
  | cons f rest ih =>
    obtain ⟨t', hfirst, hrest⟩ := bind_ok h
    obtain ⟨path', content', hlocation, hwritten, hwrite⟩ := write_of_writeCandidateFile hfirst
    obtain ⟨hnotRest, hnotFirst⟩ := Option.or_eq_none_iff.1 hnot
    refine ih hrest (Tree.read_write_of_ne hwrite ?_ hread) hnotRest
    rintro rfl
    rw [hwritten] at hnotFirst
    cases hnotFirst

/-- What the candidate's files write is what is read afterwards. -/
theorem read_of_written (h : files.foldlM d.writeCandidateFile t = .ok u) (hwritten : d.written path files = some content) :
    u.read path = some content := by
  induction files generalizing t with
  | nil => cases hwritten
  | cons f rest ih =>
    obtain ⟨t', hfirst, hrest⟩ := bind_ok h
    rw [written] at hwritten
    cases hlater : d.written path rest with
    | some content' =>
      rw [hlater] at hwritten
      cases hwritten
      exact ih hrest hlater
    | none =>
      rw [hlater, Option.none_or] at hwritten
      obtain ⟨path', content', hlocation, hwritten', hwrite⟩ := write_of_writeCandidateFile hfirst
      have hpath : path' = path := by
        unfold writtenTo at hwritten
        split at hwritten
        · next hlocation' => exact Option.mem_unique hlocation hlocation'
        · cases hwritten
      subst hpath
      cases hwritten'.symm.trans hwritten
      exact read_of_not_written hrest (Tree.read_write_self hwrite) hlater

/-- **What a build leaves**: a tree without links that reads as the candidate's files were last written. -/
theorem candidate_of_build {parent candidate : Tree} (h : d.buildCandidate parent files = .ok candidate) :
    candidate.Plain ∧ ∀ path content, d.written path files = some content → candidate.read path = some content := by
  unfold buildCandidate at h
  split at h
  · cases h
  · next t hcopy => exact ⟨plain_of_writes h (.of_copy hcopy), fun _ _ hwritten => read_of_written h hwritten⟩

end Surroundings

/-! ## What escapes the diff -/

section
variable {sha256 : Bytes → Digest} {d : Surroundings} {parent candidate : Tree} {files : List (Text × JsValue)}

/-- Every file the candidate wrote, unless it is the parent's, is in the diff and has changed the hash. -/
def Tracked (sha256 : Bytes → Digest) (d : Surroundings) (parent candidate : Tree) (files : List (Text × JsValue)) : Prop :=
  ∀ path content, d.written path files = some content → parent.read path ≠ some content →
    pathText path ∈ changedPaths sha256 parent candidate ∧
      hashDirectoryTree sha256 candidate ≠ hashDirectoryTree sha256 parent

/-- No file the candidate changes is below an ignored name, or has one. -/
def NoneIgnored (d : Surroundings) (parent : Tree) (files : List (Text × JsValue)) : Prop :=
  ∀ path content, d.written path files = some content → parent.read path ≠ some content →
    ∀ name ∈ path, name.ignored = false

/-- No two different things hashed of the two trees have one hash. -/
def CollisionFreeOn (sha256 : Bytes → Digest) (parent candidate : Tree) : Prop :=
  ∀ x ∈ parent.hashedBytes sha256, ∀ y ∈ candidate.hashedBytes sha256, sha256 x = sha256 y → x = y

theorem content_mem_hashedBytes {t : Tree} {f : Path × Bytes} (h : f ∈ t.walkFiles) : f.2 ∈ t.hashedBytes sha256 :=
  List.mem_cons_of_mem _ (List.mem_map_of_mem h)

theorem path_ne_nil_of_walk {t : Tree} {f : Path × Bytes} (h : f ∈ t.walkFiles) : f.1 ≠ [] := by
  intro hnil
  have hread := (Tree.read_of_mem_walkFiles h).1
  rw [hnil] at hread
  cases hread

/-- A file of the candidate that is not the parent's has another hash than every file of the parent of that path. -/
theorem hash_ne_of_walk (hfree : CollisionFreeOn sha256 parent candidate) {path : Path} {content : Bytes}
    (hafter : (path, content) ∈ candidate.walkFiles) (hread : parent.read path ≠ some content) :
    ∀ g ∈ parent.walkFiles, pathText g.1 = pathText path → sha256 g.2 ≠ sha256 content := by
  intro g hg hpath hhash
  obtain ⟨path', content'⟩ := g
  have heq : path' = path := pathText_injective (path_ne_nil_of_walk hg) (path_ne_nil_of_walk hafter) hpath
  have hcontent : content' = content := hfree _ (content_mem_hashedBytes hg) _ (content_mem_hashedBytes hafter) hhash
  rw [heq, hcontent] at hg
  exact hread (Tree.read_of_mem_walkFiles hg).1

/-- A path with an ignored name on it is in no diff. -/
theorem not_mem_changedPaths {path : Path} (hne : path ≠ []) {name : FileName} (hname : name ∈ path)
    (hignored : name.ignored = true) : pathText path ∉ changedPaths sha256 parent candidate := by
  intro h
  obtain ⟨f, hwalk, hpath⟩ := walk_of_mem_changedPaths h
  have hvisible : f.1 ≠ [] ∧ ∀ n ∈ f.1, n.ignored = false := by
    rcases hwalk with hwalk | hwalk
    · exact ⟨path_ne_nil_of_walk hwalk, (Tree.read_of_mem_walkFiles hwalk).2⟩
    · exact ⟨path_ne_nil_of_walk hwalk, (Tree.read_of_mem_walkFiles hwalk).2⟩
  have heq := pathText_injective hvisible.1 hne hpath
  rw [heq] at hvisible
  exact absurd hignored (Bool.eq_false_iff.1 (hvisible.2 name hname))

/-- **What escapes the diff**: the files below an ignored name, and no other. -/
theorem tracked_iff (hbuild : d.buildCandidate parent files = .ok candidate)
    (hfree : CollisionFreeOn sha256 parent candidate) :
    Tracked sha256 d parent candidate files ↔ NoneIgnored d parent files := by
  obtain ⟨hplain, hreads⟩ := Surroundings.candidate_of_build hbuild
  constructor
  · intro h path content hwritten hdiffers name hname
    rw [Bool.eq_false_iff]
    intro hignored
    have hne : path ≠ [] := List.ne_nil_of_mem hname
    exact not_mem_changedPaths hne hname hignored (h path content hwritten hdiffers).1
  · intro h path content hwritten hdiffers
    have hafter : (path, content) ∈ candidate.walkFiles :=
      Tree.mem_walkFiles_of_read hplain (hreads path content hwritten) (h path content hwritten hdiffers)
    have hhashes := hash_ne_of_walk hfree hafter hdiffers
    refine ⟨mem_changedPaths_of_walk hafter hhashes, fun hhash => ?_⟩
    have hbytes : parent.bytes sha256 = candidate.bytes sha256 :=
      hfree _ (List.mem_cons_self ..) _ (List.mem_cons_self ..) (hex_injective hhash).symm
    have hmem : (pathText path, sha256 content) ∈ candidate.hashedFiles sha256 :=
      List.mem_map.2 ⟨(path, content), hafter, rfl⟩
    obtain ⟨g, hg, hgf⟩ := List.mem_map.1 ((mem_hashedFiles_of_bytes_eq hbytes _).2 hmem)
    obtain ⟨hpath, hsame⟩ := Prod.mk.inj hgf
    exact hhashes g hg hpath hsame

end

/-! ## A file that escapes -/

def sampleSurroundings : Surroundings where
  root := ["srv", "improvement", ".workspaces", "gen"]
  realRoot := ["srv", "improvement", ".workspaces", "gen"]
  leads _ := none
  refuses _ := false

def sampleCandidate : Tree := ⟨.cons ⟨"a.ts", isFileName_sample⟩ (.file (Text.utf8 "2")) .nil, by decide⟩

/-- A file written over the parent's. -/
theorem tracked_iff_overwritten :
    Tracked sampleSha256 sampleSurroundings sampleParent sampleCandidate [("a.ts", .ofText "2")] ↔
      NoneIgnored sampleSurroundings sampleParent [("a.ts", .ofText "2")] :=
  tracked_iff (by rfl) (by unfold CollisionFreeOn; decide +kernel)

/-- A file below `dist` is written, and no diff shows it, whatever the hash. -/
theorem not_tracked_of_dist : ∃ candidate,
    sampleSurroundings.buildCandidate sampleParent [("dist/x.js", .ofText "x")] = .ok candidate ∧
      ∀ sha256, ¬ Tracked sha256 sampleSurroundings sampleParent candidate [("dist/x.js", .ofText "x")] := by
  let path : Path := [⟨"dist", by decide⟩, ⟨"x.js", by decide⟩]
  refine ⟨⟨.cons ⟨"a.ts", by decide⟩ (.file [1]) (.cons ⟨"dist", by decide⟩
    (.dir (.cons ⟨"x.js", by decide⟩ (.file (Text.utf8 "x")) .nil)) .nil), by decide⟩, by rfl, fun sha256 h => ?_⟩
  have hwritten : sampleSurroundings.written path [("dist/x.js", .ofText "x")] = some (Text.utf8 "x") := by decide +kernel
  have hdiffers : sampleParent.read path ≠ some (Text.utf8 "x") := by decide
  exact not_mem_changedPaths (List.cons_ne_nil _ _) (List.mem_cons_self ..) (by decide) (h path _ hwritten hdiffers).1

end Tna.Improvement
