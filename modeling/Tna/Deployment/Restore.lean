import Tna.Js.Number
import Tna.Js.Object
import Tna.Js.Parse
import Tna.Js.Utf8
import Tna.Ledger.Core
import Tna.Lib.Table

/-!
# Restoring a backup

A backup is a directory of its own, with a manifest and the files it lists. It is verified, and the data
directory is checked, before the files are copied over it one after another; each copy
removes what is there, reads the source and writes it, and any of the three may fail.
-/

namespace Tna.Deployment

open Tna.Js Tna.Ledger Tna.Lib

/-! ## Directories -/

inductive Entry where
  | file (bytes : Bytes)
  | directory
deriving DecidableEq

/-- The entries of a directory, by name. -/
abbrev Directory := Table Text Entry

/-- What the operating system and the runtime do: the digest as hex text, decoding as UTF-8, and a signal to a process. -/
structure DeploymentParts where
  sha256 : Bytes → Text
  decoded : Bytes → Text
  isPidAlive : Value → Bool

def manifestFile : Text := "manifest.json"

def identityFile : Text := "deployment-identity.json"

def lockFile : Text := "RUNNING.lock"

/-- `basename` of a path. -/
def basename (path : Text) : Text := (path.rdropWhile (· == unit '/')).rtakeWhile (· != unit '/')

/-- A property of a value that is not `null` or `undefined`. -/
def property (name : String) : Value → Value
  | .obj fields => Value.get fields name
  | _ => .undefined

/-- A file of JSON text; `none` when it cannot be read or parsed. -/
def readJson (p : DeploymentParts) (d : Directory) (name : Text) : Option Value :=
  match d.lookup name with
  | some (.file bytes) => parse (p.decoded bytes)
  | _ => none

/-- `isRunningLockActive`. -/
def isRunningLockActive (p : DeploymentParts) (d : Directory) : Bool :=
  (readJson p d lockFile).any fun held =>
    match held with
    | .null => false
    | held => p.isPidAlive (property "pid" held)

def readDeploymentIdentity (p : DeploymentParts) (d : Directory) : Option Value := readJson p d identityFile

/-! ## Versions -/

def componentVersions : List (Text × Text) :=
  [("platform", "tna-platform-v0.1"), ("gate", "tna-gate-v0.3"), ("ledger", "tna-ledger-v0.1"),
    ("sentinel", "tna-sentinel-v0.1"), ("vad", "vad-engine-v0.1"), ("auditor", "tna-auditor-v0.1")]

def versionMismatches (recorded : Value) : List Text :=
  componentVersions.filterMap fun (component, expected) =>
    match (match recorded with | .obj fields => Value.get fields component | _ => .undefined) with
    | .undefined => some (component ++ ": no recorded version")
    | actual =>
      if strictEq actual (.str expected) then none
      else some (component ++ ": recorded " ++ actual.toText ++ ", this build expects " ++ expected)

/-- What a restore is refused or stopped with. -/
inductive RestoreError where
  | invalidBackup (reasons : List Text)
  | locked
  | otherDeployment (actual expected : Value)
  | versionIncompatible (mismatches : List Text)
  /-- A property is read of `null`, or a path is no text. -/
  | typeError
  | io

def assertVersionCompatible (recorded : Value) : Except RestoreError Unit :=
  if versionMismatches recorded = [] then .ok () else .error (.versionIncompatible (versionMismatches recorded))

/-! ## Verification -/

/-- A file that a manifest lists. -/
structure FileRecord where
  path : Text
  sha256 : Value
  bytes : Value

def FileRecord.name (f : FileRecord) : Text := basename f.path

def fileRecord? : Value → Option FileRecord
  | .obj fields =>
    match Value.get fields "path" with
    | .str path => some ⟨path, Value.get fields "sha256", Value.get fields "bytes"⟩
    | _ => none
  | _ => none

/-- What is wrong with a listed file, if anything. A directory in its place cannot be read. -/
def fileReason (p : DeploymentParts) (backup : Directory) (f : FileRecord) : Except RestoreError (Option Text) :=
  match backup.lookup f.name with
  | none => .ok (some ("file listed in manifest is missing: " ++ f.path))
  | some .directory => .error .io
  | some (.file bytes) =>
    if (finiteNumber f.bytes).any (fun n => decide (n.2 = (bytes.length : ℚ))) = false then
      .ok (some ("file size mismatch for " ++ f.path ++ ": expected " ++ f.bytes.toText ++ ", found " ++ decimal bytes.length))
    else if strictEq f.sha256 (.str (p.sha256 bytes)) = false then
      .ok (some (Text.ofAscii "hash mismatch for " ++ f.path ++ [unit ' ', unit '—'] ++ Text.ofAscii " backup is corrupt or tampered"))
    else .ok none

/-- The files that a manifest lists, none when it has no list. -/
def manifestFiles (manifest : Value) : Except RestoreError (List FileRecord) :=
  match property "files" manifest with
  | .undefined | .null => .ok []
  | .arr items =>
    match items.mapM fileRecord? with
    | some files => .ok files
    | none => .error .typeError
  | _ => .error .typeError

/-- `!value || typeof value !== 'object'`. -/
def isNoObject : Value → Bool
  | .arr _ | .obj _ => false
  | _ => true

/-- What is wrong with a manifest apart from its files. -/
def manifestReasons (manifest : Value) (files : List FileRecord) : List Text :=
  (if strictEq (property "version" manifest) (.str "1") then []
    else [("unsupported manifest version: " : Text) ++ (property "version" manifest).toText]) ++
  (if (property "deployment_id" manifest).truthy then [] else [("manifest is missing deployment_id" : Text)]) ++
  (if isNoObject (property "component_versions" manifest) then [("manifest is missing component_versions" : Text)] else []) ++
  (if isNoObject (property "schema_versions" manifest) then [("manifest is missing schema_versions" : Text)] else []) ++
  (if (property "config_hash" manifest).truthy then [] else [("manifest is missing config_hash" : Text)]) ++
  (if files.isEmpty then [("backup contains no database files" : Text)] else []) ++
  (if files.any (fun f => decide (f.path = "tna-ledger.sqlite")) then []
    else [("backup is missing the required Ledger database (tna-ledger.sqlite)" : Text)])

/-- `verifyBackup`: what is wrong with a backup, and its manifest with the files it lists. -/
def verifyBackup (p : DeploymentParts) (backup : Directory) : Except RestoreError (List Text × Option (Value × List FileRecord)) :=
  match backup.lookup manifestFile with
  | none => .ok ([("manifest.json is missing" : Text)], none)
  | some _ =>
    match readJson p backup manifestFile with
    | none => .ok ([("manifest.json is not valid JSON" : Text)], none)
    | some .null => .error .typeError
    | some manifest => do
      let files ← manifestFiles manifest
      let reasons ← files.mapM (fileReason p backup)
      .ok (manifestReasons manifest files ++ reasons.filterMap id, some (manifest, files))

/-! ## The copy -/

structure RestoreOptions where
  expectedDeploymentId : Option Text
  force : Bool

/-- `opts.expectedDeploymentId ?? currentIdentity?.deployment_id`. -/
def expectedDeployment (p : DeploymentParts) (d : Directory) (opts : RestoreOptions) : Value :=
  match opts.expectedDeploymentId with
  | some id => .str id
  | none => ((readDeploymentIdentity p d).map (property "deployment_id")).getD .undefined

/-- The checks of a restore, with the files to copy. -/
def checkRestore (p : DeploymentParts) (backup d : Directory) (opts : RestoreOptions) : Except RestoreError (List FileRecord) := do
  let (reasons, verified) ← verifyBackup p backup
  match verified with
  | none => .error (.invalidBackup reasons)
  | some (manifest, files) =>
    if reasons ≠ [] then .error (.invalidBackup reasons)
    else if isRunningLockActive p d then .error .locked
    else
      let expected := expectedDeployment p d opts
      let actual := property "deployment_id" manifest
      if expected.isUndefined = false ∧ strictEq actual expected = false ∧ opts.force = false then
        .error (.otherDeployment actual expected)
      else do
        assertVersionCompatible (property "component_versions" manifest)
        assertVersionCompatible (property "schema_versions" manifest)
        .ok files

/-- How the operations of one copy end: all of them, or up to the one that fails, with whether the removal succeeded and with
how many bytes were written if the file could be opened. -/
inductive CopyOutcome where
  | done
  | unread (removed : Bool)
  | unwritten (removed : Bool) (wrote : Option Nat)
deriving DecidableEq

/-- `rmSync` of a file; a directory is not removed. -/
def remove (d : Directory) (name : Text) : Directory := if d.lookup name = some .directory then d else d.erase name

/-- What a write of so many bytes leaves. -/
def write (d : Directory) (name : Text) (bytes : Bytes) : Directory :=
  if d.lookup name = some .directory then d else d.insert name (.file bytes)

/-- One copy of a file of a backup. A write over a directory fails. -/
def copyFile (backup : Directory) (name : Text) (outcome : CopyOutcome) (d : Directory) : Except RestoreError Unit × Directory :=
  match backup.lookup name with
  | some (.file bytes) =>
    match outcome with
    | .done => if d.lookup name = some .directory then (.error .io, d) else (.ok (), d.insert name (.file bytes))
    | .unread removed => (.error .io, if removed then remove d name else d)
    | .unwritten removed wrote =>
      let d := if removed then remove d name else d
      (.error .io, match wrote with
        | none => d
        | some n => write d name (bytes.take n))
  | _ => (.error .io, d)

/-- The copies of a restore, one after another; where no outcome is given they succeed. -/
def copyFiles (backup : Directory) : List Text → List CopyOutcome → Directory → Except RestoreError Unit × Directory
  | [], _, d => (.ok (), d)
  | name :: rest, outcomes, d =>
    match copyFile backup name (outcomes.headD .done) d with
    | (.ok (), d) => copyFiles backup rest outcomes.tail d
    | (.error e, d) => (.error e, d)

/-- `restoreBackup` over a data directory, which need not exist, with how the operations of its copy end. -/
def restoreBackup (p : DeploymentParts) (backup : Directory) (opts : RestoreOptions) (made : Bool) (outcomes : List CopyOutcome)
    (dataDir : Option Directory) : Except RestoreError Unit × Option Directory :=
  match checkRestore p backup (dataDir.getD ∅) opts with
  | .error e => (.error e, dataDir)
  | .ok files =>
    if made then
      let copied := copyFiles backup (files.map FileRecord.name) outcomes (dataDir.getD ∅)
      (copied.1, some copied.2)
    else (.error .io, dataDir)

end Tna.Deployment
