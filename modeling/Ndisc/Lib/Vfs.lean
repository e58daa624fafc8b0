import Mathlib.Tactic

/-!
# Names, inodes and advisory locks

The part of a file system that a lock file rests on. A path names an inode or nothing;
an exclusive lock belongs to an inode, not to its name. Unlinking a path leaves the
inode and its lock as they are, and the next `openCreate` of the path makes a new inode.

* `openCreate`, `tryLock`, `unlink`, `bind`, `release`: the system calls.
* `openCreate_named`: opening never takes a name from an inode.
* `release_other`: closing gives up no lock but the caller's.
-/

namespace Vfs

abbrev Inode := ℕ

/-- Which inode a path names, which process has locked an inode, and the next new one. -/
structure Fs (Path : Type) where
  entry : Path → Option Inode
  holder : Inode → Option ℕ
  next : Inode

namespace Fs

variable {Path : Type} [DecidableEq Path]

def empty : Fs Path := ⟨fun _ => none, fun _ => none, 0⟩

/-- A new inode under a path. -/
def create (fs : Fs Path) (path : Path) : Fs Path :=
  { fs with entry := Function.update fs.entry path (some fs.next), next := fs.next + 1 }

/-- `open` with `O_CREAT`. -/
def openCreate (fs : Fs Path) (path : Path) : Fs Path × Inode :=
  match fs.entry path with
  | some inode => (fs, inode)
  | none => (fs.create path, fs.next)

/-- `flock` with `LOCK_EX | LOCK_NB`: nothing if the inode is locked. -/
def tryLock (fs : Fs Path) (inode : Inode) (process : ℕ) : Option (Fs Path) :=
  if fs.holder inode = none then
    some { fs with holder := Function.update fs.holder inode (some process) }
  else none

/-- `unlink`. -/
def unlink (fs : Fs Path) (path : Path) : Fs Path :=
  { fs with entry := Function.update fs.entry path none }

/-- `bind` of a socket to a path: nothing if the path is in use. -/
def bind (fs : Fs Path) (path : Path) : Option (Fs Path × Inode) :=
  if fs.entry path = none then some (fs.create path, fs.next) else none

/-- `close` of the descriptor through which a process may have locked an inode. -/
def release (fs : Fs Path) (inode : Inode) (process : ℕ) : Fs Path :=
  if fs.holder inode = some process then
    { fs with holder := Function.update fs.holder inode none }
  else fs

/-! ## What the calls leave alone -/

variable (fs : Fs Path)

@[simp] theorem create_holder (path : Path) : (fs.create path).holder = fs.holder := rfl

@[simp] theorem unlink_holder (path : Path) : (fs.unlink path).holder = fs.holder := rfl

@[simp] theorem unlink_self (path : Path) : (fs.unlink path).entry path = none := by
  simp [unlink]

theorem unlink_other {path path' : Path} (h : path' ≠ path) :
    (fs.unlink path).entry path' = fs.entry path' := by
  simp [unlink, h]

@[simp] theorem create_self (path : Path) : (fs.create path).entry path = some fs.next := by
  simp [create]

theorem create_other {path path' : Path} (h : path' ≠ path) :
    (fs.create path).entry path' = fs.entry path' := by
  simp [create, h]

omit [DecidableEq Path] in
@[simp] theorem release_entry (inode : Inode) (process : ℕ) :
    (fs.release inode process).entry = fs.entry := by
  unfold release
  split <;> rfl

@[simp] theorem openCreate_holder (path : Path) : (fs.openCreate path).1.holder = fs.holder := by
  unfold openCreate
  split <;> rfl

/-- **Opening never takes a name from an inode.** -/
theorem openCreate_named {path path' : Path} {inode : Inode} (h : fs.entry path' = some inode) :
    (fs.openCreate path).1.entry path' = some inode := by
  unfold openCreate
  split
  · exact h
  · rename_i hnone
    have hne : path' ≠ path := by
      rintro rfl
      rw [hnone] at h
      cases h
    rw [create_other fs hne, h]

omit [DecidableEq Path] in
/-- **Closing gives up no lock but the caller's.** -/
theorem release_other {inode inode' : Inode} {process process' : ℕ} (hne : process' ≠ process)
    (h : fs.holder inode' = some process') :
    (fs.release inode process).holder inode' = some process' := by
  unfold release
  split
  · rename_i hmine
    have hinode : inode' ≠ inode := by
      rintro rfl
      rw [hmine] at h
      exact hne (Option.some.inj h).symm
    simp [hinode, h]
  · exact h

variable {fs}

omit [DecidableEq Path] in
theorem tryLock_some {fs' : Fs Path} {inode : Inode} {process : ℕ}
    (h : fs.tryLock inode process = some fs') :
    fs.holder inode = none ∧ fs'.holder inode = some process ∧ fs'.entry = fs.entry := by
  unfold tryLock at h
  split at h
  · rename_i hfree
    cases h
    exact ⟨hfree, by simp, rfl⟩
  · cases h

theorem bind_some {fs' : Fs Path} {path : Path} {socket : Inode} (h : fs.bind path = some (fs', socket)) :
    fs' = fs.create path ∧ socket = fs.next := by
  unfold bind at h
  split at h
  · cases h
    exact ⟨rfl, rfl⟩
  · cases h

end Fs

end Vfs
