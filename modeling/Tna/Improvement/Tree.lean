import Tna.Improvement.Schema
import Tna.Js.Canonical
import Tna.Js.Utf8

/-!
# Source trees

A workspace is a directory tree. Two walks go through it: the copy, which follows
links, and the one behind the hash and the diff, which takes regular files only and
passes over every entry whose name is on a list.
-/

namespace Tna.Improvement

open Tna.Lib Tna.Js

/-! ## Trees -/

def isFileName (t : Text) : Bool :=
  !t.isEmpty && !t.contains 0 && !t.contains (unit '/') && t.isWellFormed
    && decide (t ≠ Text.ofAscii ".") && decide (t ≠ Text.ofAscii "..")

/-- The name of a directory entry, as it is read back. -/
structure FileName where
  text : Text
  isFileName : isFileName text = true
deriving DecidableEq

abbrev Path := List FileName

mutual

/-- What a name stands for. A link is shown with what it leads to; a special file with what reading it gives, if it
can be read. -/
inductive Node where
  | file (content : Bytes)
  | dir (entries : Entries)
  | link (target : Node)
  | dangling
  | special (content : Option Bytes)

inductive Entries where
  | nil
  | cons (name : FileName) (node : Node) (rest : Entries)

end

def Entries.names : Entries → List FileName
  | .nil => []
  | .cons name _ rest => name :: rest.names

mutual

/-- No directory has two entries of one name. -/
def Node.distinct : Node → Bool
  | .dir entries => entries.distinct
  | .link target => target.distinct
  | _ => true

def Entries.distinct : Entries → Bool
  | .nil => true
  | .cons name node rest => decide (name ∉ rest.names) && node.distinct && rest.distinct

end

mutual

/-- Nothing but regular files and directories. -/
def Node.plain : Node → Bool
  | .file _ => true
  | .dir entries => entries.plain
  | _ => false

def Entries.plain : Entries → Bool
  | .nil => true
  | .cons _ node rest => node.plain && rest.plain

end

mutual

/-- `readFileSync`: what a path reads, links followed. -/
def Node.read : Node → Path → Option Bytes
  | .file content, [] => some content
  | .special content, [] => content
  | .link target, path => target.read path
  | .dir entries, name :: path => entries.read name path
  | _, _ => none

def Entries.read : Entries → FileName → Path → Option Bytes
  | .nil, _, _ => none
  | .cons name node rest, name', path => if name' = name then node.read path else rest.read name' path

end

mutual

/-- Something is there, links followed. -/
def Node.has : Node → Path → Bool
  | .dangling, _ => false
  | .link target, path => target.has path
  | .dir entries, name :: path => entries.has name path
  | _, path => path.isEmpty

def Entries.has : Entries → FileName → Path → Bool
  | .nil, _, _ => false
  | .cons name node rest, name', path => if name' = name then node.has path else rest.has name' path

end

/-- A directory. -/
structure Tree where
  root : Entries
  distinct : root.distinct = true

def Tree.read (t : Tree) (path : Path) : Option Bytes := (Node.dir t.root).read path

def Tree.has (t : Tree) (path : Path) : Bool := (Node.dir t.root).has path

/-! ## Copying -/

mutual

/-- `cpSync(..., { recursive: true, dereference: true })`: what a link leads to is copied in its place. -/
def Node.copy : Node → Option Node
  | .file content => some (.file content)
  | .dir entries => entries.copy.map .dir
  | .link target => target.copy
  | .dangling => none
  | .special content => content.map .file

def Entries.copy : Entries → Option Entries
  | .nil => some .nil
  | .cons name node rest => node.copy.bind fun node => rest.copy.map (.cons name node)

end

theorem names_copy : ∀ {entries copied : Entries}, entries.copy = some copied → copied.names = entries.names
  | .nil, copied, h => by
    cases h
    rfl
  | .cons name node rest, copied, h => by
    obtain ⟨node', -, h⟩ := Option.bind_eq_some_iff.1 h
    obtain ⟨rest', hrest, rfl⟩ := Option.map_eq_some_iff.1 h
    rw [Entries.names, Entries.names, names_copy hrest]

mutual

theorem distinct_copy_node : ∀ {node copied : Node}, node.copy = some copied → node.distinct = true →
    copied.distinct = true
  | .file _, copied, h, _ => by
    cases h
    rfl
  | .dir entries, copied, h, hdistinct => by
    obtain ⟨entries', hentries, rfl⟩ := Option.map_eq_some_iff.1 h
    exact distinct_copy hentries hdistinct
  | .link target, copied, h, hdistinct => @distinct_copy_node target copied h hdistinct
  | .dangling, copied, h, _ => nomatch h
  | .special content, copied, h, _ => by
    obtain ⟨_, -, rfl⟩ := Option.map_eq_some_iff.1 h
    rfl

theorem distinct_copy : ∀ {entries copied : Entries}, entries.copy = some copied → entries.distinct = true →
    copied.distinct = true
  | .nil, copied, h, _ => by
    cases h
    rfl
  | .cons name node rest, copied, h, hdistinct => by
    obtain ⟨node', hnode, h⟩ := Option.bind_eq_some_iff.1 h
    obtain ⟨rest', hrest, rfl⟩ := Option.map_eq_some_iff.1 h
    simp only [Entries.distinct, Bool.and_eq_true, decide_eq_true_eq] at hdistinct ⊢
    refine ⟨⟨?_, distinct_copy_node hnode hdistinct.1.2⟩, distinct_copy hrest hdistinct.2⟩
    rw [names_copy hrest]
    exact hdistinct.1.1

end

mutual

theorem plain_copy_node : ∀ {node copied : Node}, node.copy = some copied → copied.plain = true
  | .file _, copied, h => by
    cases h
    rfl
  | .dir entries, copied, h => by
    obtain ⟨entries', hentries, rfl⟩ := Option.map_eq_some_iff.1 h
    exact plain_copy hentries
  | .link target, copied, h => @plain_copy_node target copied h
  | .dangling, copied, h => nomatch h
  | .special content, copied, h => by
    obtain ⟨_, -, rfl⟩ := Option.map_eq_some_iff.1 h
    rfl

/-- A copy has no links in it. -/
theorem plain_copy : ∀ {entries copied : Entries}, entries.copy = some copied → copied.plain = true
  | .nil, copied, h => by
    cases h
    rfl
  | .cons name node rest, copied, h => by
    obtain ⟨node', hnode, h⟩ := Option.bind_eq_some_iff.1 h
    obtain ⟨rest', hrest, rfl⟩ := Option.map_eq_some_iff.1 h
    simp only [Entries.plain, Bool.and_eq_true]
    exact ⟨plain_copy_node hnode, plain_copy hrest⟩

end

/-- `createIsolatedWorkspace`'s copy of a source tree, or nothing where copying throws. -/
def Tree.copy (t : Tree) : Option Tree :=
  match h : t.root.copy with
  | some root => some ⟨root, distinct_copy h t.distinct⟩
  | none => none

/-! ## Writing -/

/-- A file in directories made for it. -/
def newNode (content : Bytes) : Path → Node
  | [] => .file content
  | name :: path => .dir (.cons name (newNode content path) .nil)

mutual

/-- `mkdirSync` for what is missing on the way, and `writeFileSync`. A file is no directory and a directory no file;
a copy has no links. -/
def Node.write (content : Bytes) : Node → Path → Option Node
  | .file _, [] => some (.file content)
  | .dir entries, name :: path => (entries.write content name path).map .dir
  | _, _ => none

def Entries.write (content : Bytes) : Entries → FileName → Path → Option Entries
  | .nil, name', path => some (.cons name' (newNode content path) .nil)
  | .cons name node rest, name', path =>
    if name' = name then (node.write content path).map fun node => .cons name node rest
    else (rest.write content name' path).map (.cons name node)

end

theorem distinct_newNode (content : Bytes) : ∀ path : Path, (newNode content path).distinct = true
  | [] => rfl
  | name :: path => by
    simp only [newNode, Node.distinct, Entries.distinct, Entries.names, distinct_newNode content path]
    simp

theorem plain_newNode (content : Bytes) : ∀ path : Path, (newNode content path).plain = true
  | [] => rfl
  | name :: path => by
    simp only [newNode, Node.plain, Entries.plain, plain_newNode content path]
    rfl

theorem read_newNode (content : Bytes) : ∀ path : Path, (newNode content path).read path = some content
  | [] => rfl
  | name :: path => by
    rw [newNode, Node.read, Entries.read, if_pos rfl]
    exact read_newNode content path

section
variable {content : Bytes} {name' : FileName} {path : Path}

theorem mem_names_write : ∀ {entries written : Entries}, entries.write content name' path = some written →
    ∀ name, name ∈ written.names ↔ name = name' ∨ name ∈ entries.names
  | .nil, written, h, name => by
    cases h
    simp [Entries.names]
  | .cons first node rest, written, h, name => by
    rw [Entries.write] at h
    split at h
    · next heq =>
      obtain ⟨node', -, rfl⟩ := Option.map_eq_some_iff.1 h
      simp [Entries.names, heq]
    · obtain ⟨rest', hrest, rfl⟩ := Option.map_eq_some_iff.1 h
      simp only [Entries.names, List.mem_cons, mem_names_write hrest]
      tauto

end

mutual

theorem distinct_write_node {content : Bytes} : ∀ {node written : Node} {path : Path}, node.write content path = some written →
    node.distinct = true → written.distinct = true
  | .file _, written, [], h, _ => by
    cases h
    rfl
  | .dir entries, written, name :: path, h, hdistinct => by
    obtain ⟨entries', hentries, rfl⟩ := Option.map_eq_some_iff.1 h
    exact distinct_write hentries hdistinct

theorem distinct_write {content : Bytes} : ∀ {entries written : Entries} {name' : FileName} {path : Path},
    entries.write content name' path = some written → entries.distinct = true → written.distinct = true
  | .nil, written, name', path, h, _ => by
    cases h
    simp [Entries.distinct, Entries.names, distinct_newNode]
  | .cons name node rest, written, name', path, h, hdistinct => by
    simp only [Entries.distinct, Bool.and_eq_true, decide_eq_true_eq] at hdistinct
    rw [Entries.write] at h
    split at h
    · obtain ⟨node', hnode, rfl⟩ := Option.map_eq_some_iff.1 h
      simp only [Entries.distinct, Bool.and_eq_true, decide_eq_true_eq]
      exact ⟨⟨hdistinct.1.1, distinct_write_node hnode hdistinct.1.2⟩, hdistinct.2⟩
    · next hne =>
      obtain ⟨rest', hrest, rfl⟩ := Option.map_eq_some_iff.1 h
      simp only [Entries.distinct, Bool.and_eq_true, decide_eq_true_eq, mem_names_write hrest, not_or]
      exact ⟨⟨⟨fun heq => hne heq.symm, hdistinct.1.1⟩, hdistinct.1.2⟩, distinct_write hrest hdistinct.2⟩

end

mutual

theorem plain_write_node {content : Bytes} : ∀ {node written : Node} {path : Path}, node.write content path = some written →
    node.plain = true → written.plain = true
  | .file _, written, [], h, _ => by
    cases h
    rfl
  | .dir entries, written, name :: path, h, hplain => by
    obtain ⟨entries', hentries, rfl⟩ := Option.map_eq_some_iff.1 h
    exact plain_write hentries hplain

theorem plain_write {content : Bytes} : ∀ {entries written : Entries} {name' : FileName} {path : Path},
    entries.write content name' path = some written → entries.plain = true → written.plain = true
  | .nil, written, name', path, h, _ => by
    cases h
    simp [Entries.plain, plain_newNode]
  | .cons name node rest, written, name', path, h, hplain => by
    simp only [Entries.plain, Bool.and_eq_true] at hplain
    rw [Entries.write] at h
    split at h
    · obtain ⟨node', hnode, rfl⟩ := Option.map_eq_some_iff.1 h
      simp only [Entries.plain, Bool.and_eq_true]
      exact ⟨plain_write_node hnode hplain.1, hplain.2⟩
    · obtain ⟨rest', hrest, rfl⟩ := Option.map_eq_some_iff.1 h
      simp only [Entries.plain, Bool.and_eq_true]
      exact ⟨hplain.1, plain_write hrest hplain.2⟩

end

mutual

/-- What was written is read. -/
theorem read_write_node {content : Bytes} : ∀ {node written : Node} {path : Path}, node.write content path = some written →
    written.read path = some content
  | .file _, written, [], h => by
    cases h
    rfl
  | .dir entries, written, name :: path, h => by
    obtain ⟨entries', hentries, rfl⟩ := Option.map_eq_some_iff.1 h
    exact read_write hentries

theorem read_write {content : Bytes} : ∀ {entries written : Entries} {name' : FileName} {path : Path},
    entries.write content name' path = some written → written.read name' path = some content
  | .nil, written, name', path, h => by
    cases h
    rw [Entries.read, if_pos rfl]
    exact read_newNode content path
  | .cons name node rest, written, name', path, h => by
    rw [Entries.write] at h
    split at h
    · next heq =>
      obtain ⟨node', hnode, rfl⟩ := Option.map_eq_some_iff.1 h
      rw [Entries.read, if_pos heq]
      exact read_write_node hnode
    · next hne =>
      obtain ⟨rest', hrest, rfl⟩ := Option.map_eq_some_iff.1 h
      rw [Entries.read, if_neg hne]
      exact read_write hrest

end

mutual

/-- Another file stays as it is. -/
theorem read_write_of_ne_node {content content' : Bytes} : ∀ {node written : Node} {path path' : Path},
    node.write content path = some written → path' ≠ path → node.read path' = some content' →
      written.read path' = some content'
  | .file _, written, [], path', h, hne, hread => by
    cases h
    cases path' with
    | nil => exact absurd rfl hne
    | cons name path' => exact hread
  | .dir entries, written, name :: path, path', h, hne, hread => by
    obtain ⟨entries', hentries, rfl⟩ := Option.map_eq_some_iff.1 h
    cases path' with
    | nil => exact hread
    | cons name' path' => exact read_write_of_ne hentries hne hread

theorem read_write_of_ne {content content' : Bytes} : ∀ {entries written : Entries} {name name' : FileName}
    {path path' : Path}, entries.write content name path = some written → name' :: path' ≠ name :: path →
      entries.read name' path' = some content' → written.read name' path' = some content'
  | .nil, written, name, name', path, path', _, _, hread => by
    rw [Entries.read] at hread
    cases hread
  | .cons first node rest, written, name, name', path, path', h, hne, hread => by
    rw [Entries.write] at h
    rw [Entries.read] at hread
    split at h
    · next hfirst =>
      obtain ⟨node', hnode, rfl⟩ := Option.map_eq_some_iff.1 h
      rw [Entries.read]
      split
      · next heq =>
        rw [if_pos heq] at hread
        refine read_write_of_ne_node hnode (fun hpath => hne ?_) hread
        rw [hpath, heq, hfirst]
      · next hname => rwa [if_neg hname] at hread
    · obtain ⟨rest', hrest, rfl⟩ := Option.map_eq_some_iff.1 h
      rw [Entries.read]
      split
      · next heq => rwa [if_pos heq] at hread
      · next hname =>
        rw [if_neg hname] at hread
        exact read_write_of_ne hrest hne hread

end

/-- The file at a path of the tree, written. -/
def Tree.write (t : Tree) (content : Bytes) : Path → Option Tree
  | [] => none
  | name :: path =>
    match h : t.root.write content name path with
    | some root => some ⟨root, distinct_write h t.distinct⟩
    | none => none

/-- Nothing but regular files and directories is in the tree. -/
def Tree.Plain (t : Tree) : Prop := t.root.plain = true

namespace Tree

variable {t u : Tree} {content : Bytes} {path path' : Path}

theorem root_copy (h : t.copy = some u) : t.root.copy = some u.root := by
  unfold copy at h
  split at h
  · next hroot =>
    cases h
    exact hroot
  · cases h

theorem root_write (h : t.write content path = some u) :
    ∃ name rest, path = name :: rest ∧ t.root.write content name rest = some u.root := by
  cases path with
  | nil => cases h
  | cons name rest =>
    rw [write] at h
    split at h
    · next hroot =>
      cases h
      exact ⟨name, rest, rfl, hroot⟩
    · cases h

theorem Plain.of_copy (h : t.copy = some u) : u.Plain := plain_copy (root_copy h)

theorem Plain.write (ht : t.Plain) (h : t.write content path = some u) : u.Plain := by
  obtain ⟨_, _, -, hroot⟩ := root_write h
  exact plain_write hroot ht

/-- **What was written is read.** -/
theorem read_write_self (h : t.write content path = some u) : u.read path = some content := by
  obtain ⟨_, _, rfl, hroot⟩ := root_write h
  exact read_write hroot

/-- Another file stays as it is. -/
theorem read_write_of_ne {content' : Bytes} (h : t.write content path = some u) (hne : path' ≠ path)
    (hread : t.read path' = some content') : u.read path' = some content' := by
  obtain ⟨_, _, rfl, hroot⟩ := root_write h
  cases path' with
  | nil => exact hread
  | cons name path' => exact Improvement.read_write_of_ne hroot hne hread

end Tree

end Tna.Improvement
