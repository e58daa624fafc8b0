import Ndisc.Lib.Run
import Ndisc.Lib.Vfs

/-!
# The listening socket (`client.cc`, `owned_file_descriptor.hh`)

Processes that start and leave `ndisc`, one system call at a time: the calls of
`ClientListenSocket::Create`, and those of the destructors of its two
`DeletingOwnedFileDescriptor`s, each of which unlinks its path and then closes. The
listener is the later member, so it goes first.
-/

namespace Ndisc.Listen

open Vfs

/-- `SOCKET_PATH` and `SOCKET_LOCK`. -/
inductive Path
  | socketPath
  | socketLock
  deriving DecidableEq

/-- How far a process is. `lock` is the inode it opened as `SOCKET_LOCK`, `socket` the
one it bound to `SOCKET_PATH`. -/
inductive Phase
  | outside
  | lockOpened (lock : Inode)
  | lockHeld (lock : Inode)
  | pathUnlinked (lock : Inode)
  | socketOpened (lock : Inode)
  | socketBound (lock socket : Inode)
  | live (lock socket : Inode)
  | unlinkListener (lock : Inode)
  | closeListener (lock : Inode)
  | unlinkLock (lock : Inode)
  | closeLock (lock : Inode)
  deriving DecidableEq

/-- The inode that a process has open as `SOCKET_LOCK`. -/
def Phase.lock : Phase → Option Inode
  | .outside => none
  | .lockOpened lock | .lockHeld lock | .pathUnlinked lock | .socketOpened lock
  | .socketBound lock _ | .live lock _ | .unlinkListener lock | .closeListener lock
  | .unlinkLock lock | .closeLock lock => some lock

structure System where
  fs : Fs Path
  phase : ℕ → Phase

/-- The next system call of a process, which the system may refuse; or its end without
destructors (`exit`, a signal), when the system closes what it has open. -/
inductive Event
  | call (process : ℕ) (granted : Bool)
  | abort (process : ℕ)
  deriving DecidableEq

namespace System

def goto (s : System) (process : ℕ) (phase : Phase) (fs : Fs Path) : System :=
  ⟨fs, Function.update s.phase process phase⟩

@[simp] theorem goto_self (s : System) (p : ℕ) (phase : Phase) (fs : Fs Path) :
    (s.goto p phase fs).phase p = phase := Function.update_self ..

@[simp] theorem goto_fs (s : System) (p : ℕ) (phase : Phase) (fs : Fs Path) :
    (s.goto p phase fs).fs = fs := rfl

theorem goto_other (s : System) {p q : ℕ} (h : q ≠ p) (phase : Phase) (fs : Fs Path) :
    (s.goto p phase fs).phase q = s.phase q := Function.update_of_ne h ..

/-- The calls in order. A call that the system may refuse for reasons of its own is
`granted` or not; `flock` also fails on a locked inode, `bind` on a path in use. -/
def call (s : System) (process : ℕ) (granted : Bool) : System :=
  match s.phase process with
  | .outside =>
    if granted then
      let (fs, lock) := s.fs.openCreate .socketLock
      s.goto process (.lockOpened lock) fs
    else s
  | .lockOpened lock =>
    match if granted then s.fs.tryLock lock process else none with
    | some fs => s.goto process (.lockHeld lock) fs
    | none => s.goto process (.unlinkLock lock) s.fs
  | .lockHeld lock => s.goto process (.pathUnlinked lock) (s.fs.unlink .socketPath)
  | .pathUnlinked lock =>
    s.goto process (if granted then .socketOpened lock else .unlinkLock lock) s.fs
  | .socketOpened lock =>
    match if granted then s.fs.bind .socketPath else none with
    | some (fs, socket) => s.goto process (.socketBound lock socket) fs
    | none => s.goto process (.closeListener lock) s.fs
  | .socketBound lock socket =>
    s.goto process (if granted then .live lock socket else .unlinkListener lock) s.fs
  -- A live process that calls is on its way out of `main`.
  | .live lock _ | .unlinkListener lock =>
    s.goto process (.closeListener lock) (s.fs.unlink .socketPath)
  | .closeListener lock => s.goto process (.unlinkLock lock) s.fs
  | .unlinkLock lock => s.goto process (.closeLock lock) (s.fs.unlink .socketLock)
  | .closeLock lock => s.goto process .outside (s.fs.release lock process)

def step (s : System) : Event → System
  | .call process granted => s.call process granted
  | .abort process =>
    match (s.phase process).lock with
    | some lock => s.goto process .outside (s.fs.release lock process)
    | none => s

/-- No file and no process. -/
def init : System := ⟨.empty, fun _ => .outside⟩

end System

end Ndisc.Listen
