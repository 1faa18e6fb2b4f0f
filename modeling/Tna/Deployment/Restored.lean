import Tna.Deployment.Restore
import Tna.Js.Parsed
import Tna.Lib.Outcome

/-!
# What a restore leaves

After a restore the databases that will be opened are those of the manifest; after one that
fails nothing has changed. The copy goes over what is there, file by file, so this takes that
nothing else is there that is opened, and that a copy that fails is the first to change
anything, and does not.
-/

namespace Tna.Deployment

open Tna.Js Tna.Ledger Tna.Lib

/-! ## What is claimed -/

def isDatabaseName (name : Text) : Bool := (Text.ofAscii ".sqlite").isSuffixOf name

/-- One of `listComponentDatabaseFiles`. -/
def isComponentDatabase (d : Directory) (name : Text) : Bool :=
  isDatabaseName name &&
    match d.lookup name with
    | some (.file _) => true
    | _ => false

/-- The files that are opened beside a database. -/
def sidecarSuffixes : List Text := ["-wal", "-shm"]

def listedNames (files : List FileRecord) : List Text := files.map FileRecord.name

/-- The file has the content that is recorded of it. -/
def Records (p : DeploymentParts) (f : FileRecord) (bytes : Bytes) : Prop :=
  strictEq f.sha256 (.str (p.sha256 bytes)) = true ∧
    (finiteNumber f.bytes).any (fun n => decide (n.2 = (bytes.length : ℚ))) = true

/-- What is opened is what is recorded: every listed file has its content, and no database or sidecar is there that is not
listed. -/
structure Restored (p : DeploymentParts) (files : List FileRecord) (d : Directory) : Prop where
  recorded : ∀ f ∈ files, ∃ bytes, d.lookup f.name = some (.file bytes) ∧ Records p f bytes
  listed : ∀ name, isComponentDatabase d name = true → name ∈ listedNames files
  sidecars : ∀ name, isComponentDatabase d name = true → ∀ suffix ∈ sidecarSuffixes, d.lookup (name ++ suffix) ≠ none →
    name ++ suffix ∈ listedNames files

/-- The data directory is as it was. -/
structure Unchanged (dataDir dataDir' : Option Directory) : Prop where
  exists_iff : dataDir'.isSome = dataDir.isSome
  entries : ∀ name, (dataDir'.getD ∅).lookup name = (dataDir.getD ∅).lookup name

/-- What a restore is claimed to do, when it succeeds and when it fails. -/
structure Faithful (p : DeploymentParts) (backup : Directory) (opts : RestoreOptions) (made : Bool) (outcomes : List CopyOutcome)
    (dataDir : Option Directory) : Prop where
  succeeded : ∀ dataDir', restoreBackup p backup opts made outcomes dataDir = (.ok (), dataDir') →
    ∃ reasons manifest files, verifyBackup p backup = .ok (reasons, some (manifest, files)) ∧
      Restored p files (dataDir'.getD ∅)
  failed : ∀ e dataDir', restoreBackup p backup opts made outcomes dataDir = (.error e, dataDir') → Unchanged dataDir dataDir'

/-! ## When it does -/

/-- A copy ends well. -/
def Succeeds (d : Directory) (name : Text) (outcome : CopyOutcome) : Prop := outcome = .done ∧ d.lookup name ≠ some .directory

instance (d : Directory) (name : Text) (outcome : CopyOutcome) : Decidable (Succeeds d name outcome) :=
  inferInstanceAs (Decidable (_ ∧ _))

def AllSucceed (d : Directory) : List Text → List CopyOutcome → Prop
  | [], _ => True
  | name :: rest, outcomes => Succeeds d name (outcomes.headD .done) ∧ AllSucceed d rest outcomes.tail

/-- No database is there that is not listed, nor a sidecar of a listed one. -/
structure Clean (files : List FileRecord) (d : Directory) : Prop where
  listed : ∀ name, isComponentDatabase d name = true → name ∈ listedNames files
  sidecars : ∀ name ∈ listedNames files, isDatabaseName name = true → ∀ suffix ∈ sidecarSuffixes,
    d.lookup (name ++ suffix) ≠ none → name ++ suffix ∈ listedNames files

/-- What a copy that fails leaves under its name, of what was held there. -/
def leftover (outcome : CopyOutcome) (source held : Option Entry) : Option Entry :=
  if held = some .directory then held
  else
    match outcome with
    | .done => held
    | .unread removed => if removed then none else held
    | .unwritten removed none => if removed then none else held
    | .unwritten _ (some n) =>
      match source with
      | some (.file bytes) => some (.file (bytes.take n))
      | _ => held

/-- The first copy that fails leaves what was there, and the copies before it changed nothing. -/
def Harmless (backup d : Directory) (copied : List Text) : List Text → List CopyOutcome → Prop
  | [], _ => False
  | name :: rest, outcomes =>
    if Succeeds d name (outcomes.headD .done) then Harmless backup d (copied ++ [name]) rest outcomes.tail
    else (∀ n ∈ copied, n ≠ name → d.lookup n = backup.lookup n) ∧
      leftover (outcomes.headD .done) (backup.lookup name) (if name ∈ copied then backup.lookup name else d.lookup name) =
        d.lookup name

/-- The copy is not reached; or it succeeds over a clean directory; or the directory is there and the copy fails harmlessly. -/
def Safe (p : DeploymentParts) (backup : Directory) (opts : RestoreOptions) (made : Bool) (outcomes : List CopyOutcome)
    (dataDir : Option Directory) : Prop :=
  ∀ files, checkRestore p backup (dataDir.getD ∅) opts = .ok files → made = true →
    (AllSucceed (dataDir.getD ∅) (listedNames files) outcomes ∧ Clean files (dataDir.getD ∅)) ∨
      (dataDir.isSome = true ∧ Harmless backup (dataDir.getD ∅) [] (listedNames files) outcomes)

/-! ## Verification -/

section
variable {p : DeploymentParts} {backup d : Directory} {opts : RestoreOptions} {files : List FileRecord}

/-- A file with nothing wrong has the content that is recorded of it. -/
theorem fileReason_none {f : FileRecord} (h : fileReason p backup f = .ok none) :
    ∃ bytes, backup.lookup f.name = some (.file bytes) ∧ Records p f bytes := by
  unfold fileReason at h
  split at h
  · cases h
  · cases h
  next bytes hbytes =>
  split_ifs at h with hsize hhash
  · cases h
  · cases h
  · exact ⟨bytes, hbytes, Bool.of_not_eq_false hhash, Bool.of_not_eq_false hsize⟩

/-- **A backup that is valid has every listed file, as it is recorded.** -/
theorem checkRestore_ok (h : checkRestore p backup d opts = .ok files) :
    ∃ reasons manifest, verifyBackup p backup = .ok (reasons, some (manifest, files)) ∧
      ∀ f ∈ files, ∃ bytes, backup.lookup f.name = some (.file bytes) ∧ Records p f bytes := by
  obtain ⟨⟨reasons, verified⟩, hverify, h⟩ := bind_ok h
  simp only at h
  split at h
  · cases h
  next manifest files' =>
  split_ifs at h with hreasons
  rw [not_not] at hreasons
  subst hreasons
  obtain ⟨_, -, h⟩ := bind_ok h
  obtain ⟨_, -, h⟩ := bind_ok h
  cases h
  refine ⟨[], manifest, hverify, ?_⟩
  unfold verifyBackup at hverify
  split at hverify
  · cases hverify
  split at hverify
  · cases hverify
  · cases hverify
  obtain ⟨files', -, hverify⟩ := bind_ok hverify
  obtain ⟨reasons, hreasons, hverify⟩ := bind_ok hverify
  obtain ⟨hnone, hsame⟩ := Prod.mk.inj (Except.ok.inj hverify)
  cases hsame
  intro f hf
  obtain ⟨reason, hmem, hreason⟩ := exists_of_mem_mapM_ok hreasons hf
  cases reason with
  | none => exact fileReason_none hreason
  | some text =>
    have hfound : text ∈ reasons.filterMap id := List.mem_filterMap.2 ⟨some text, hmem, rfl⟩
    rw [(List.append_eq_nil_iff.1 hnone).2] at hfound
    cases hfound

/-! ## The copy -/

variable {name other : Text} {bytes : Bytes}

theorem lookup_remove_of_ne (h : other ≠ name) : (remove d name).lookup other = d.lookup other := by
  unfold remove
  split_ifs
  · rfl
  · exact AList.lookup_erase_ne h

theorem lookup_write_of_ne (h : other ≠ name) : (write d name bytes).lookup other = d.lookup other := by
  unfold write
  split_ifs
  · rfl
  · exact AList.lookup_insert_ne h

theorem copyFile_done (hsource : backup.lookup name = some (.file bytes)) (h : d.lookup name ≠ some .directory) :
    copyFile backup name .done d = (.ok (), d.insert name (.file bytes)) := by
  unfold copyFile
  simp only [hsource, if_neg h]

/-- Nothing is done over a directory. -/
theorem copyFile_directory (hsource : backup.lookup name = some (.file bytes)) (h : d.lookup name = some .directory)
    (outcome : CopyOutcome) : copyFile backup name outcome d = (.error .io, d) := by
  cases outcome with
  | done => simp only [copyFile, hsource, if_pos h]
  | unread removed => cases removed <;> simp [copyFile, hsource, remove, h]
  | unwritten removed wrote => cases removed <;> cases wrote <;> simp [copyFile, hsource, remove, write, h]

theorem lookup_removed (h : d.lookup name ≠ some .directory) (removed : Bool) (other : Text) :
    (if removed then remove d name else d).lookup other =
      if other = name then (if removed then none else d.lookup name) else d.lookup other := by
  by_cases hother : other = name
  · subst hother
    cases removed with
    | true =>
      rw [if_pos rfl, if_pos rfl, if_pos rfl, remove, if_neg h]
      exact AList.lookup_erase _ _
    | false => rw [if_neg Bool.false_ne_true, if_pos rfl, if_neg Bool.false_ne_true]
  · rw [if_neg hother]
    cases removed with
    | true => exact lookup_remove_of_ne hother
    | false => rfl

/-- A copy that fails changes its own name alone, to what it leaves. -/
theorem copyFile_fails {outcome : CopyOutcome} (hsource : backup.lookup name = some (.file bytes))
    (h : ¬ Succeeds d name outcome) : ∃ d', copyFile backup name outcome d = (.error .io, d') ∧
      ∀ other, d'.lookup other = if other = name then leftover outcome (some (.file bytes)) (d.lookup name) else d.lookup other := by
  by_cases hdirectory : d.lookup name = some .directory
  · refine ⟨d, copyFile_directory hsource hdirectory outcome, fun other => ?_⟩
    have hleft : leftover outcome (some (.file bytes)) (d.lookup name) = d.lookup name := if_pos hdirectory
    rw [hleft]
    split_ifs with hother
    · rw [hother]
    · rfl
  have hremoved := lookup_removed hdirectory
  cases outcome with
  | done => exact absurd ⟨rfl, hdirectory⟩ h
  | unread removed =>
    refine ⟨if removed then remove d name else d, ?_, fun other => ?_⟩
    · simp only [copyFile, hsource]
    · simp only [hremoved, leftover, if_neg hdirectory]
  | unwritten removed wrote =>
    cases wrote with
    | none =>
      refine ⟨if removed then remove d name else d, ?_, fun other => ?_⟩
      · simp only [copyFile, hsource]
      · simp only [hremoved, leftover, if_neg hdirectory]
    | some n =>
      refine ⟨write (if removed then remove d name else d) name (bytes.take n), ?_, fun other => ?_⟩
      · simp only [copyFile, hsource]
      simp only [leftover, if_neg hdirectory]
      by_cases hother : other = name
      · have hfile : (if removed then remove d name else d).lookup name ≠ some .directory := by
          rw [hremoved, if_pos rfl]
          split_ifs
          · exact nofun
          · exact hdirectory
        rw [if_pos hother, hother, write, if_neg hfile, AList.lookup_insert]
      · rw [if_neg hother, lookup_write_of_ne hother, hremoved, if_neg hother]

/-- **What the copies leave**, over a directory in which some files have been copied already. -/
theorem copyFiles_cases {names copied : List Text} (outcomes : List CopyOutcome) {c : Directory}
    (hcurrent : ∀ m, c.lookup m = if m ∈ copied then backup.lookup m else d.lookup m)
    (hsources : ∀ n ∈ copied ++ names, ∃ bytes, backup.lookup n = some (.file bytes))
    (hfiles : ∀ n ∈ copied, d.lookup n ≠ some .directory) :
    (AllSucceed d names outcomes ∧ ¬ Harmless backup d copied names outcomes ∧ (copyFiles backup names outcomes c).1 = .ok () ∧
      ∀ m, (copyFiles backup names outcomes c).2.lookup m = if m ∈ copied ++ names then backup.lookup m else d.lookup m) ∨
    (¬ AllSucceed d names outcomes ∧ (copyFiles backup names outcomes c).1 = .error .io ∧
      ((∀ m, (copyFiles backup names outcomes c).2.lookup m = d.lookup m) ↔ Harmless backup d copied names outcomes)) := by
  induction names generalizing copied outcomes c with
  | nil =>
    refine .inl ⟨trivial, id, rfl, fun m => ?_⟩
    rw [List.append_nil]
    exact hcurrent m
  | cons name rest ih =>
    obtain ⟨bytes, hsource⟩ := hsources name (by simp)
    -- a directory is in the way now exactly where it was at first
    have hsame : c.lookup name = some .directory ↔ d.lookup name = some .directory := by
      rw [hcurrent]
      split_ifs with hcopied
      · rw [hsource]
        exact iff_of_false nofun (hfiles name hcopied)
      · rfl
    by_cases hsucceeds : Succeeds d name (outcomes.headD .done)
    · have hnext : copyFiles backup (name :: rest) outcomes c = copyFiles backup rest outcomes.tail (c.insert name (.file bytes)) := by
        rw [copyFiles, hsucceeds.1, copyFile_done hsource (fun h => hsucceeds.2 (hsame.1 h))]
      have hcurrent' : ∀ m, (c.insert name (.file bytes)).lookup m =
          if m ∈ copied ++ [name] then backup.lookup m else d.lookup m := by
        intro m
        by_cases hm : m = name
        · subst hm
          rw [AList.lookup_insert, if_pos (by simp), hsource]
        · rw [AList.lookup_insert_ne hm, hcurrent]
          simp only [List.mem_append, List.mem_singleton, hm, or_false]
      have hfiles' : ∀ n ∈ copied ++ [name], d.lookup n ≠ some .directory :=
        List.forall_mem_append.2 ⟨hfiles, List.forall_mem_singleton.2 hsucceeds.2⟩
      rw [List.append_cons copied name rest] at hsources
      rw [hnext, AllSucceed, Harmless, if_pos hsucceeds, and_iff_right hsucceeds, List.append_cons copied name rest]
      exact ih outcomes.tail hcurrent' hsources hfiles'
    · have hfails : ¬ Succeeds c name (outcomes.headD .done) := fun h => hsucceeds ⟨h.1, fun hd => h.2 (hsame.2 hd)⟩
      obtain ⟨d', hcopy, hlookup⟩ := copyFile_fails hsource hfails
      refine .inr ⟨fun h => hsucceeds h.1, ?_, ?_⟩
      · rw [copyFiles, hcopy]
      · rw [copyFiles, hcopy, Harmless, if_neg hsucceeds]
        simp only [hlookup]
        constructor
        · intro h
          refine ⟨fun n hn hne => ?_, ?_⟩
          · have hn' := h n
            rw [if_neg hne, hcurrent, if_pos hn] at hn'
            exact hn'.symm
          · have hname := h name
            rw [if_pos rfl, hcurrent] at hname
            rw [hsource]
            rw [hsource] at hname
            exact hname
        · rintro ⟨hcopied, hname⟩ m
          by_cases hm : m = name
          · subst hm
            rw [if_pos rfl, hcurrent, ← hsource]
            exact hname
          · rw [if_neg hm, hcurrent]
            split_ifs with hmem
            · exact (hcopied m hmem hm).symm
            · rfl

end

/-! ## When a restore does what is claimed -/

section
variable {p : DeploymentParts} {backup d d' : Directory} {files : List FileRecord}

theorem isComponentDatabase_iff {name : Text} : isComponentDatabase d name = true ↔
    isDatabaseName name = true ∧ ∃ bytes, d.lookup name = some (.file bytes) := by
  unfold isComponentDatabase
  rw [Bool.and_eq_true]
  refine and_congr_right fun _ => ?_
  split
  · next bytes h => exact iff_of_true rfl ⟨bytes, h⟩
  · next h => exact iff_of_false Bool.false_ne_true fun ⟨bytes, hbytes⟩ => h bytes hbytes

/-- Once every listed file is there as it is recorded, what is opened is what is recorded exactly when the directory was
clean. -/
theorem restored_iff_clean
    (hsources : ∀ f ∈ files, ∃ bytes, backup.lookup f.name = some (.file bytes) ∧ Records p f bytes)
    (hlookup : ∀ m, d'.lookup m = if m ∈ listedNames files then backup.lookup m else d.lookup m) :
    Restored p files d' ↔ Clean files d := by
  have hlisted : ∀ name ∈ listedNames files, ∃ bytes, d'.lookup name = some (.file bytes) := by
    intro name hname
    obtain ⟨f, hf, rfl⟩ := List.mem_map.1 hname
    obtain ⟨bytes, hbytes, -⟩ := hsources f hf
    exact ⟨bytes, by rw [hlookup, if_pos hname, hbytes]⟩
  constructor
  · rintro ⟨-, hdatabases, hsidecars⟩
    refine ⟨fun name hname => ?_, fun name hname hdatabase suffix hsuffix hthere => ?_⟩
    · by_contra hnot
      obtain ⟨hdatabase, bytes, hbytes⟩ := isComponentDatabase_iff.1 hname
      refine hnot (hdatabases name (isComponentDatabase_iff.2 ⟨hdatabase, bytes, ?_⟩))
      rw [hlookup, if_neg hnot, hbytes]
    · by_contra hnot
      refine hnot (hsidecars name (isComponentDatabase_iff.2 ⟨hdatabase, hlisted name hname⟩) suffix hsuffix ?_)
      rwa [hlookup, if_neg hnot]
  · rintro ⟨hdatabases, hsidecars⟩
    have hnames : ∀ name, isComponentDatabase d' name = true → name ∈ listedNames files := by
      intro name hname
      by_contra hnot
      obtain ⟨hdatabase, bytes, hbytes⟩ := isComponentDatabase_iff.1 hname
      rw [hlookup, if_neg hnot] at hbytes
      exact hnot (hdatabases name (isComponentDatabase_iff.2 ⟨hdatabase, bytes, hbytes⟩))
    refine ⟨fun f hf => ?_, hnames, fun name hname suffix hsuffix hthere => ?_⟩
    · obtain ⟨bytes, hbytes, hrecords⟩ := hsources f hf
      exact ⟨bytes, (hlookup _).trans ((if_pos (List.mem_map_of_mem hf)).trans hbytes), hrecords⟩
    · by_contra hnot
      rw [hlookup, if_neg hnot] at hthere
      exact hnot (hsidecars name (hnames name hname) (isComponentDatabase_iff.1 hname).1 suffix hsuffix hthere)

end

/-- **A restore does what is claimed exactly when it is safe.** -/
theorem faithful_iff_safe (p : DeploymentParts) (backup : Directory) (opts : RestoreOptions) (made : Bool)
    (outcomes : List CopyOutcome) (dataDir : Option Directory) :
    Faithful p backup opts made outcomes dataDir ↔ Safe p backup opts made outcomes dataDir := by
  have hkept : ∀ e, restoreBackup p backup opts made outcomes dataDir = (.error e, dataDir) →
      Faithful p backup opts made outcomes dataDir := by
    intro e hresult
    refine ⟨fun dataDir' h => ?_, fun e' dataDir' h => ?_⟩
    · rw [hresult] at h
      cases h
    · rw [hresult] at h
      cases h
      exact ⟨rfl, fun _ => rfl⟩
  cases hcheck : checkRestore p backup (dataDir.getD ∅) opts with
  | error e =>
    refine iff_of_true (hkept e ?_) fun files hfiles => ?_
    · rw [restoreBackup, hcheck]
    · rw [hcheck] at hfiles
      cases hfiles
  | ok files =>
    cases made with
    | false =>
      refine iff_of_true (hkept .io ?_) fun _ _ h => nomatch h
      rw [restoreBackup, hcheck]
      rfl
    | true =>
      obtain ⟨reasons, manifest, hverify, hsources⟩ := checkRestore_ok hcheck
      have hnames : ∀ n ∈ [] ++ listedNames files, ∃ bytes, backup.lookup n = some (.file bytes) := by
        intro n hn
        obtain ⟨f, hf, rfl⟩ := List.mem_map.1 hn
        obtain ⟨bytes, hbytes, -⟩ := hsources f hf
        exact ⟨bytes, hbytes⟩
      have hresult : restoreBackup p backup opts true outcomes dataDir =
          ((copyFiles backup (listedNames files) outcomes (dataDir.getD ∅)).1,
            some (copyFiles backup (listedNames files) outcomes (dataDir.getD ∅)).2) := by
        rw [restoreBackup, hcheck]
        rfl
      have hcurrent : ∀ m, (dataDir.getD ∅).lookup m = if m ∈ ([] : List Text) then backup.lookup m else (dataDir.getD ∅).lookup m :=
        fun m => by rw [if_neg List.not_mem_nil]
      rcases copyFiles_cases outcomes hcurrent hnames (List.forall_mem_nil _) with
        ⟨hall, hnot, hok, hlookup⟩ | ⟨hnot, herror, hiff⟩
      · rw [hok] at hresult
        constructor
        · rintro ⟨hsucceeded, -⟩ files' hfiles -
          rw [hcheck] at hfiles
          cases hfiles
          obtain ⟨_, _, files', hverify', hrestored⟩ := hsucceeded _ hresult
          rw [hverify] at hverify'
          cases hverify'
          exact .inl ⟨hall, (restored_iff_clean hsources hlookup).1 hrestored⟩
        · intro h
          rcases h files hcheck rfl with ⟨-, hclean⟩ | ⟨-, hharmless⟩
          · refine ⟨fun dataDir' h => ?_, fun e dataDir' h => ?_⟩
            · rw [hresult] at h
              cases h
              exact ⟨reasons, manifest, files, hverify, (restored_iff_clean hsources hlookup).2 hclean⟩
            · rw [hresult] at h
              cases h
          · exact absurd hharmless hnot
      · rw [herror] at hresult
        constructor
        · rintro ⟨-, hfailed⟩ files' hfiles -
          rw [hcheck] at hfiles
          cases hfiles
          obtain ⟨hexists, hentries⟩ := hfailed _ _ hresult
          exact .inr ⟨hexists.symm, hiff.1 hentries⟩
        · intro h
          rcases h files hcheck rfl with ⟨hall, -⟩ | ⟨hexists, hharmless⟩
          · exact absurd hall hnot
          · refine ⟨fun dataDir' h => ?_, fun e dataDir' h => ?_⟩
            · rw [hresult] at h
              cases h
            · rw [hresult] at h
              cases h
              exact ⟨hexists.symm, hiff.2 hharmless⟩

/-! ## A sidecar that stays -/

def sampleVersions : Value := .obj (componentVersions.map fun (component, version) => (component, .str version))

def sampleManifest : Value :=
  .obj [("version", .str "1"), ("deployment_id", .str "dep_1"), ("component_versions", sampleVersions),
    ("schema_versions", sampleVersions), ("config_hash", .str "h"),
    ("files", .arr [.obj [("path", .str "tna-ledger.sqlite"), ("sha256", .str "00"), ("bytes", .ofNat 1)]])]

/-- The only text there is is that of the manifest. -/
def sampleMachine : DeploymentParts where
  sha256 := fun _ => "00"
  decoded := fun _ => sampleManifest.stringify
  isPidAlive := fun _ => false

def sampleBackup : Directory := (AList.insert manifestFile (.file [1]) ∅ : Directory).insert "tna-ledger.sqlite" (.file [7])

/-- A directory with the write-ahead log of a database that was removed. -/
def staleDirectory : Directory := AList.insert "tna-ledger.sqlite-wal" (.file [9]) ∅

/-- The write-ahead log of the directory stays beside the restored database. -/
def restoresSidecar : Bool :=
  match restoreBackup sampleMachine sampleBackup ⟨none, false⟩ true [] (some staleDirectory) with
  | (.ok (), some d) => isComponentDatabase d "tna-ledger.sqlite" && (d.lookup (Text.ofAscii "tna-ledger.sqlite-wal")).isSome
  | _ => false

def listsLedger : Bool :=
  match verifyBackup sampleMachine sampleBackup with
  | .ok (_, some (_, files)) => decide (listedNames files = ["tna-ledger.sqlite"])
  | _ => false

/-- The old log stays beside the database that was restored. -/
theorem not_faithful_staleDirectory : ¬ ∀ (p : DeploymentParts) (backup : Directory) (opts : RestoreOptions) (made : Bool)
    (outcomes : List CopyOutcome) (dataDir : Option Directory), Faithful p backup opts made outcomes dataDir := by
  intro h
  have hfaithful : Faithful sampleMachine sampleBackup ⟨none, false⟩ true [] (some staleDirectory) := h _ _ _ _ _ _
  have hrestored : restoresSidecar = true := by decide +kernel
  have hverified : listsLedger = true := by decide +kernel
  unfold restoresSidecar at hrestored
  unfold listsLedger at hverified
  split at hrestored
  swap
  · cases hrestored
  next d hresult =>
  obtain ⟨reasons, manifest, files, hverify, hopened⟩ := hfaithful.succeeded _ hresult
  rw [hverify] at hverified
  rw [Bool.and_eq_true] at hrestored
  have hlisted := hopened.sidecars "tna-ledger.sqlite" hrestored.1 "-wal" (List.mem_cons_self ..)
    (Option.isSome_iff_ne_none.1 hrestored.2)
  rw [of_decide_eq_true hverified] at hlisted
  revert hlisted
  decide

end Tna.Deployment
