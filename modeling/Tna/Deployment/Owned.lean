import Tna.Js.Text
import Tna.Lib.Table
import Tna.Lib.Transition

/-!
# One owner of a data directory

Processes on one data directory. The lock is a file with the identifier of the process that
wrote it. It is examined, judged by whether that process is alive, and written, each in a step
of its own; a backup examines it once, and then copies one database after another.

At most one live process holds the running lock, and databases are copied while none does.
The file is examined some steps before it is written or relied on, so this takes that nobody
else acquires the lock, or takes a backup, in between.
-/

namespace Tna.Deployment

open Tna.Js Tna.Lib

/-- The lock file. It is unreadable while it is being written, and after a process stopped then. -/
inductive LockFile where
  | missing
  | unreadable
  | held (pid : Nat)
deriving DecidableEq

/-- What the lock is examined for. -/
inductive Purpose where
  | acquire | backup
deriving DecidableEq

/-- How far a process has come. -/
inductive Phase where
  | started
  /-- The lock file existed. -/
  | reads (purpose : Purpose)
  /-- The lock file named a process. -/
  | judges (purpose : Purpose) (pid : Nat)
  /-- `acquireRunningLock` goes on to write the file. -/
  | claims
  /-- The file has been opened for writing, which empties it. -/
  | fills
  | running
  | stopped
  | refused
  /-- `createBackup` found the lock inactive. -/
  | admitted
  | copying (remaining : List Text)
  | published
deriving DecidableEq

/-- The data directory's lock, and the processes that are alive. -/
structure Deployment where
  lock : LockFile
  processes : Table Nat Phase

inductive DeploymentLabel where
  | starts (pid : Nat)
  /-- `existsSync` of the lock file. -/
  | examines (pid : Nat) (purpose : Purpose)
  | reads (pid : Nat)
  /-- `isPidAlive` of the process that was read. -/
  | judges (pid : Nat)
  | empties (pid : Nat)
  | fills (pid : Nat)
  /-- `releaseRunningLock`, whose `unlinkSync` may fail. -/
  | releases (pid : Nat) (unlinked : Bool)
  /-- The process exits, or crashes wherever it is. -/
  | ends (pid : Nat)
  | lists (pid : Nat) (files : List Text)
  /-- `VACUUM INTO` of the next database. -/
  | snapshots (pid : Nat)
  | publishes (pid : Nat)

/-- Where a process goes on when no live process holds the lock. -/
def Purpose.granted : Purpose → Phase
  | .acquire => .claims
  | .backup => .admitted

/-- Where a process goes on when the lock file cannot be read or parsed: `acquireRunningLock` throws, while
`isRunningLockActive` answers that the lock is not active. -/
def Purpose.unread : Purpose → Phase
  | .acquire => .refused
  | .backup => .admitted

namespace Deployment

def isPidAlive (w : Deployment) (pid : Nat) : Bool := (w.processes.lookup pid).isSome

/-- A process comes to a phase, with the lock as it is then. -/
def moved (w : Deployment) (pid : Nat) (phase : Phase) (lock : LockFile) : Deployment := ⟨lock, w.processes.insert pid phase⟩

def next (w : Deployment) : DeploymentLabel → Option Deployment
  | .starts pid => if w.isPidAlive pid then none else some (w.moved pid .started w.lock)
  | .examines pid purpose =>
    if w.processes.lookup pid = some .started then
      some (w.moved pid (if w.lock = .missing then purpose.granted else .reads purpose) w.lock)
    else none
  | .reads pid =>
    match w.processes.lookup pid with
    | some (.reads purpose) =>
      match w.lock with
      | .held holder => some (w.moved pid (.judges purpose holder) w.lock)
      | _ => some (w.moved pid purpose.unread w.lock)
    | _ => none
  | .judges pid =>
    match w.processes.lookup pid with
    | some (.judges purpose holder) =>
      some (w.moved pid (if w.isPidAlive holder then .refused else purpose.granted) w.lock)
    | _ => none
  | .empties pid => if w.processes.lookup pid = some .claims then some (w.moved pid .fills .unreadable) else none
  | .fills pid => if w.processes.lookup pid = some .fills then some (w.moved pid .running (.held pid)) else none
  | .releases pid unlinked =>
    if w.processes.lookup pid = some .running then some (w.moved pid .stopped (if unlinked then .missing else w.lock)) else none
  | .ends pid => some { w with processes := w.processes.erase pid }
  | .lists pid files => if w.processes.lookup pid = some .admitted then some (w.moved pid (.copying files) w.lock) else none
  | .snapshots pid =>
    match w.processes.lookup pid with
    | some (.copying (_ :: rest)) => some (w.moved pid (.copying rest) w.lock)
    | _ => none
  | .publishes pid => if w.processes.lookup pid = some (.copying []) then some (w.moved pid .published w.lock) else none

/-- No process is alive; the lock file may be there from before. -/
def initial (lock : LockFile) : Deployment := ⟨lock, ∅⟩

end Deployment

abbrev DeploymentStep (w : Deployment) (l : DeploymentLabel) (w' : Deployment) : Prop := w.next l = some w'

/-! ## What is claimed -/

/-- A process that has acquired the lock and not released it. -/
def Deployment.Holds (w : Deployment) (pid : Nat) : Prop := w.processes.lookup pid = some .running

/-- What is claimed of a state, and of the copies that are taken in it. -/
structure Owned (w : Deployment) : Prop where
  alone : ∀ p q, w.Holds p → w.Holds q → p = q
  quiesced : ∀ backup w', DeploymentStep w (.snapshots backup) w' → ∀ p, ¬ w.Holds p

/-- From the examination of the lock to its acquisition. -/
def Phase.acquiring : Phase → Bool
  | .reads .acquire | .judges .acquire _ | .claims | .fills => true
  | _ => false

/-- From the examination of the lock to the last copy. -/
def Phase.backingUp : Phase → Bool
  | .reads .backup | .judges .backup _ | .admitted | .copying _ => true
  | _ => false

def Phase.busy (phase : Phase) : Bool := phase.acquiring || phase.backingUp

/-- The lock is examined to acquire it while nobody else is acquiring it or taking a backup, and for a backup while nobody is
acquiring it. -/
def Orderly (w : Deployment) : DeploymentLabel → Prop
  | .examines _ .acquire => w.processes.any Phase.busy = false
  | .examines _ .backup => w.processes.any Phase.acquiring = false
  | _ => True

instance (w : Deployment) : ∀ l, Decidable (Orderly w l)
  | .examines _ .acquire => inferInstanceAs (Decidable (w.processes.any Phase.busy = false))
  | .examines _ .backup => inferInstanceAs (Decidable (w.processes.any Phase.acquiring = false))
  | .starts .. | .reads .. | .judges .. | .empties .. | .fills .. | .releases .. | .ends .. | .lists .. | .snapshots ..
  | .publishes .. => inferInstanceAs (Decidable True)

abbrev OrderlyStep (w : Deployment) (l : DeploymentLabel) (w' : Deployment) : Prop := DeploymentStep w l w' ∧ Orderly w l

/-! ## The invariant -/

/-- A phase that cannot come to write or to copy while a process holds the lock. -/
def Phase.harmless (holder : Nat) : Phase → Prop
  | .judges _ pid => pid = holder
  | .claims | .fills | .admitted | .copying _ => False
  | _ => True

/-- Whoever is acquiring the lock is the only one busy with it, and the lock names its holder. -/
structure Kept (w : Deployment) : Prop where
  alone : ∀ p q a b, w.processes.lookup p = some a → w.processes.lookup q = some b → a.acquiring = true → b.busy = true → p = q
  holder : ∀ p, w.Holds p → w.lock = .held p ∧ ∀ q b, w.processes.lookup q = some b → b.harmless p

section
variable {w w' : Deployment} {pid : Nat} {a b : Phase} {lock : LockFile}

theorem harmless_of_idle (h : b.busy = false) (holder : Nat) : b.harmless holder := by
  cases b with
  | judges purpose => cases purpose <;> cases h
  | claims | fills | admitted | copying => cases h
  | _ => trivial

theorem not_any {p : Phase → Bool} (h : w.processes.any p = false) {q : Nat} (hq : w.processes.lookup q = some b) :
    p b = false := by
  by_contra hp
  have hany : w.processes.any p = true := Table.any_iff.2 ⟨q, b, hq, Bool.not_eq_false _ ▸ hp⟩
  rw [h] at hany
  cases hany

/-- **What a process may move to**: busy only with nobody in its way, and harmless to whoever holds the lock. -/
theorem Kept.moved (h : Kept w)
    (hacquiring : b.acquiring = true → ∀ q c, q ≠ pid → w.processes.lookup q = some c → c.busy = false)
    (hbusy : b.busy = true → ∀ q c, q ≠ pid → w.processes.lookup q = some c → c.acquiring = false)
    (hothers : ∀ p, p ≠ pid → w.Holds p → lock = .held p ∧ b.harmless p)
    (hrunning : b = .running → lock = .held pid ∧ ∀ q c, q ≠ pid → w.processes.lookup q = some c → c.busy = false) :
    Kept (w.moved pid b lock) where
  alone p q c d hp hq hc hd := by
    rcases Table.lookup_insert_cases hp with ⟨rfl, rfl⟩ | ⟨hne, hp'⟩
    · rcases Table.lookup_insert_cases hq with ⟨rfl, rfl⟩ | ⟨hne, hq'⟩
      · rfl
      · rw [hacquiring hc q d hne hq'] at hd
        cases hd
    · rcases Table.lookup_insert_cases hq with ⟨rfl, rfl⟩ | ⟨-, hq'⟩
      · rw [hbusy hd p c hne hp'] at hc
        cases hc
      · exact h.alone p q c d hp' hq' hc hd
  holder p hp := by
    rcases Table.lookup_insert_cases hp with ⟨rfl, hb⟩ | ⟨hne, hp⟩
    · obtain ⟨hlock, hidle⟩ := hrunning hb.symm
      refine ⟨hlock, fun q c hq => ?_⟩
      rcases Table.lookup_insert_cases hq with ⟨-, rfl⟩ | ⟨hne, hq⟩
      · rw [← hb]
        trivial
      · exact harmless_of_idle (hidle q c hne hq) p
    · obtain ⟨hlock, hharmless⟩ := hothers p hne hp
      refine ⟨hlock, fun q c hq => ?_⟩
      rcases Table.lookup_insert_cases hq with ⟨-, rfl⟩ | ⟨-, hq⟩
      · exact hharmless
      · exact (h.holder p hp).2 q c hq

/-- While a process is acquiring the lock the others are not busy with it. -/
theorem Kept.idle (h : Kept w) (ha : w.processes.lookup pid = some a) (hacquiring : a.acquiring = true) {q : Nat} (hne : q ≠ pid)
    (hq : w.processes.lookup q = some b) : b.busy = false := by
  by_contra hb
  exact hne (h.alone pid q a b ha hq hacquiring (Bool.not_eq_false _ ▸ hb)).symm

theorem Kept.not_acquiring (h : Kept w) (ha : w.processes.lookup pid = some a) (hbusy : a.busy = true) {q : Nat} (hne : q ≠ pid)
    (hq : w.processes.lookup q = some b) : b.acquiring = false := by
  by_contra hb
  exact hne (h.alone q pid b a hq ha (Bool.not_eq_false _ ▸ hb) hbusy)

/-- A move that makes a process no busier than it was, and leaves the lock. -/
theorem Kept.moved_within (h : Kept w) (ha : w.processes.lookup pid = some a) (hacquiring : b.acquiring = true → a.acquiring = true)
    (hbusy : b.busy = true → a.busy = true) (hnot : b ≠ .running) (hharmless : ∀ p, p ≠ pid → w.Holds p → b.harmless p) :
    Kept (w.moved pid b w.lock) := by
  refine h.moved (fun hb q c hne hq => ?_) (fun hb q c hne hq => ?_) (fun p hne hp => ?_) (fun hb => absurd hb hnot)
  · exact h.idle ha (hacquiring hb) hne hq
  · exact h.not_acquiring ha (hbusy hb) hne hq
  · exact ⟨(h.holder p hp).1, hharmless p hne hp⟩

theorem kept_step {l : DeploymentLabel} (hstep : OrderlyStep w l w') (h : Kept w) : Kept w' := by
  obtain ⟨hstep, horderly⟩ := hstep
  cases l with
  | starts pid =>
    unfold DeploymentStep Deployment.next at hstep
    simp only at hstep
    split_ifs at hstep
    cases hstep
    exact h.moved nofun nofun (fun p _ hp => ⟨(h.holder p hp).1, trivial⟩) nofun
  | examines pid purpose =>
    unfold DeploymentStep Deployment.next at hstep
    simp only at hstep
    split_ifs at hstep with hstarted hmissing
    · cases hstep
      have hnobody : ∀ p, p ≠ pid → w.Holds p → w.lock = .held p ∧ purpose.granted.harmless p := by
        intro p _ hp
        have hlock := (h.holder p hp).1
        rw [hmissing] at hlock
        cases hlock
      cases purpose with
      | acquire =>
        exact h.moved (fun _ q c _ hq => not_any horderly hq)
          (fun _ q c _ hq => (Bool.or_eq_false_iff.1 (not_any horderly hq)).1) hnobody nofun
      | backup => exact h.moved nofun (fun _ q c _ hq => not_any horderly hq) hnobody nofun
    · cases hstep
      have hholder : ∀ p, p ≠ pid → w.Holds p → w.lock = .held p ∧ (Phase.reads purpose).harmless p :=
        fun p _ hp => ⟨(h.holder p hp).1, trivial⟩
      cases purpose with
      | acquire =>
        exact h.moved (fun _ q c _ hq => not_any horderly hq)
          (fun _ q c _ hq => (Bool.or_eq_false_iff.1 (not_any horderly hq)).1) hholder nofun
      | backup => exact h.moved nofun (fun _ q c _ hq => not_any horderly hq) hholder nofun
  | reads pid =>
    unfold DeploymentStep Deployment.next at hstep
    simp only at hstep
    split at hstep
    swap
    · cases hstep
    next purpose hphase =>
    split at hstep
    · next holder hlock =>
      cases hstep
      refine h.moved_within hphase ?_ ?_ nofun fun p _ hp => ?_
      · cases purpose <;> exact id
      · cases purpose <;> exact id
      · have hheld := (h.holder p hp).1
        rw [hlock] at hheld
        cases hheld
        rfl
    · next hlock =>
      cases hstep
      refine h.moved_within hphase ?_ ?_ ?_ fun p _ hp => absurd (h.holder p hp).1 (hlock p)
      · cases purpose <;> exact nofun
      · cases purpose with
        | acquire => exact nofun
        | backup => exact id
      · cases purpose <;> exact nofun
  | judges pid =>
    unfold DeploymentStep Deployment.next at hstep
    simp only at hstep
    split at hstep
    swap
    · cases hstep
    next purpose holder hphase =>
    cases hstep
    split_ifs with halive
    · exact h.moved_within hphase nofun nofun nofun fun _ _ _ => trivial
    · refine h.moved_within hphase ?_ ?_ ?_ fun p _ hp => ?_
      · cases purpose with
        | acquire => exact id
        | backup => exact nofun
      · cases purpose <;> exact id
      · cases purpose <;> exact nofun
      · -- the process that was judged is the one that holds the lock, and it is alive
        have hsame : holder = p := (h.holder p hp).2 pid _ hphase
        have hlive : w.isPidAlive holder = true := by
          rw [hsame, Deployment.isPidAlive, hp]
          rfl
        exact absurd hlive halive
  | empties pid =>
    unfold DeploymentStep Deployment.next at hstep
    simp only at hstep
    split_ifs at hstep with hphase
    cases hstep
    refine h.moved (fun _ q c hne hq => h.idle hphase rfl hne hq) (fun _ q c hne hq => h.not_acquiring hphase rfl hne hq)
      (fun p _ hp => ?_) nofun
    exact False.elim ((h.holder p hp).2 pid _ hphase)
  | fills pid =>
    unfold DeploymentStep Deployment.next at hstep
    simp only at hstep
    split_ifs at hstep with hphase
    cases hstep
    refine h.moved nofun nofun (fun p _ hp => ?_) fun _ => ⟨rfl, fun q c hne hq => h.idle hphase rfl hne hq⟩
    exact False.elim ((h.holder p hp).2 pid _ hphase)
  | releases pid unlinked =>
    unfold DeploymentStep Deployment.next at hstep
    simp only at hstep
    split_ifs at hstep with hphase
    · cases hstep
      refine h.moved nofun nofun (fun p hne hp => ?_) nofun
      have hsame := (h.holder p hp).1.symm.trans (h.holder pid hphase).1
      cases hsame
      exact absurd rfl hne
    · cases hstep
      exact h.moved_within hphase nofun nofun nofun fun _ _ _ => trivial
  | ends pid =>
    cases hstep
    have herase : ∀ {q c}, (w.processes.erase pid).lookup q = some c → w.processes.lookup q = some c := fun hq =>
      (Table.lookup_of_erase hq).2
    exact ⟨fun p q c d hp hq => h.alone p q c d (herase hp) (herase hq),
      fun p hp => ⟨(h.holder p (herase hp)).1, fun q c hq => (h.holder p (herase hp)).2 q c (herase hq)⟩⟩
  | lists pid files =>
    unfold DeploymentStep Deployment.next at hstep
    simp only at hstep
    split_ifs at hstep with hphase
    cases hstep
    exact h.moved_within hphase nofun (fun _ => rfl) nofun fun p _ hp => False.elim ((h.holder p hp).2 pid _ hphase)
  | snapshots pid =>
    unfold DeploymentStep Deployment.next at hstep
    simp only at hstep
    split at hstep
    swap
    · cases hstep
    next hphase =>
    cases hstep
    exact h.moved_within hphase nofun (fun _ => rfl) nofun fun p _ hp => False.elim ((h.holder p hp).2 pid _ hphase)
  | publishes pid =>
    unfold DeploymentStep Deployment.next at hstep
    simp only at hstep
    split_ifs at hstep with hphase
    cases hstep
    exact h.moved_within hphase nofun nofun nofun fun _ _ _ => trivial

end

/-- **A data directory has one owner**, and is copied while it has none: in every run whose steps meet the condition. -/
theorem owned_of_run (lock : LockFile) (labels : List DeploymentLabel) (w : Deployment)
    (hrun : Run OrderlyStep (.initial lock) labels w) : Owned w := by
  have hkept : Kept w := hrun.invariant (I := Kept) (fun _ _ _ => kept_step) ⟨nofun, nofun⟩
  refine ⟨fun p q hp hq => ?_, fun backup w' hstep p hp => ?_⟩
  · have hsame := (hkept.holder p hp).1.symm.trans (hkept.holder q hq).1
    cases hsame
    rfl
  · unfold DeploymentStep Deployment.next at hstep
    simp only at hstep
    split at hstep
    · next hcopying => exact (hkept.holder p hp).2 backup _ hcopying
    · cases hstep

/-- A process that runs, stops and is backed up, with a lock that a crash left behind. -/
def backedUpOnce : List DeploymentLabel :=
  [.starts 7, .examines 7 .acquire, .reads 7, .judges 7, .empties 7, .fills 7, .releases 7 true, .starts 8, .examines 8 .backup,
    .lists 8 ["tna-ledger.sqlite"], .snapshots 8, .publishes 8]

theorem owned_of_run_backedUpOnce : ∃ w, w.processes.lookup 8 = some .published ∧ Owned w := by
  have hreplay : (replay (fun w l => if Orderly w l then w.next l else none) (.initial (.held 6)) backedUpOnce).any
      (fun w => w.processes.lookup 8 = some .published) = true := by decide +kernel
  obtain ⟨w, hrun, htest⟩ := run_of_guarded_test hreplay
  exact ⟨w, of_decide_eq_true htest, owned_of_run (.held 6) backedUpOnce w hrun⟩

/-- Two processes find the lock free before either has written it. -/
def startedTwice : List DeploymentLabel :=
  [.starts 7, .starts 8, .examines 7 .acquire, .examines 8 .acquire, .empties 7, .fills 7, .empties 8, .fills 8]

/-- Both hold the lock. -/
theorem not_owned_of_run : ¬ ∀ (lock : LockFile) (labels : List DeploymentLabel) (w : Deployment),
    Run DeploymentStep (.initial lock) labels w → Owned w := by
  intro h
  have hreplay : (replay Deployment.next (.initial .missing) startedTwice).any
      (fun w => w.processes.lookup 7 = some .running ∧ w.processes.lookup 8 = some .running) = true := by decide +kernel
  obtain ⟨w, hrun, htest⟩ := run_of_test hreplay
  obtain ⟨hfirst, hsecond⟩ := of_decide_eq_true htest
  cases (h .missing startedTwice w hrun).alone 7 8 hfirst hsecond

end Tna.Deployment
