import Ndisc.Spec.Listen

/-!
# Who listens

The lock is on an inode, and every process that leaves unlinks its name.

* `KeepsLockName`: no lock is taken on an inode that `SOCKET_LOCK` no longer names, and
  no locked inode loses that name to another process.
* `Exclusive`: the invariant. Between its `flock` and the `unlink` of its own destructor,
  a process holds the lock that `SOCKET_LOCK` names, so there is one such process at most.
* `listen_exclusive`: **in a run that keeps the name, one process listens at most, and
  `SOCKET_PATH` names its socket.**
* `listen_not_exclusive`: a failed start, or an exit, makes two.
-/

namespace Ndisc.Listen

open Vfs Run

/-! ## The property -/

/-- A process is past `ClientListenSocket::Create` and has not begun to leave. -/
def Phase.Live : Phase → Prop
  | .live _ _ => True
  | _ => False

/-- The inode that a process has bound and not unlinked. -/
def Phase.listens : Phase → Option Inode
  | .socketBound _ socket | .live _ socket => some socket
  | _ => none

/-- One process is live at most, and `SOCKET_PATH` names its socket. -/
structure OneListener (s : System) : Prop where
  unique : ∀ p q, (s.phase p).Live → (s.phase q).Live → p = q
  named : ∀ p lock socket, s.phase p = .live lock socket → s.fs.entry .socketPath = some socket

/-- The step takes no lock on an inode that `SOCKET_LOCK` does not name, and takes that
name from no inode that another process has locked. -/
def KeepsLockName (s : System) : Event → Bool
  | .call process granted =>
    match s.phase process with
    | .lockOpened lock =>
      !granted || (s.fs.holder lock).isSome || s.fs.entry .socketLock == some lock
    | .unlinkLock _ => (s.fs.entry .socketLock).all fun lock => (s.fs.holder lock).all (· == process)
    | _ => true
  | .abort _ => true

/-! ## The invariant -/

/-- The lock of a process from its `flock` to the end of its listener. -/
def Phase.owns : Phase → Option Inode
  | .lockHeld lock | .pathUnlinked lock | .socketOpened lock | .socketBound lock _
  | .live lock _ | .unlinkListener lock | .closeListener lock => some lock
  | _ => none

structure Exclusive (s : System) : Prop where
  owner : ∀ p lock, (s.phase p).owns = some lock →
    s.fs.entry .socketLock = some lock ∧ s.fs.holder lock = some p
  listener : ∀ p socket, (s.phase p).listens = some socket → s.fs.entry .socketPath = some socket

theorem owns_of_listens {phase : Phase} {socket : Inode} (h : phase.listens = some socket) :
    ∃ lock, phase.owns = some lock := by
  cases phase with
  | socketBound lock _ => exact ⟨lock, rfl⟩
  | live lock _ => exact ⟨lock, rfl⟩
  | _ => cases h

/-- **There is one owner at most**: `SOCKET_LOCK` names one inode, and it has one holder. -/
theorem Exclusive.unique {s : System} (h : Exclusive s) {p q : ℕ} {lock lock' : Inode}
    (hp : (s.phase p).owns = some lock) (hq : (s.phase q).owns = some lock') : p = q := by
  obtain ⟨hentry, hholder⟩ := h.owner p lock hp
  obtain ⟨hentry', hholder'⟩ := h.owner q lock' hq
  rw [hentry] at hentry'
  cases hentry'
  rw [hholder] at hholder'
  exact Option.some.inj hholder'

theorem Exclusive.oneListener {s : System} (h : Exclusive s) : OneListener s where
  unique := by
    intro p q hp hq
    cases hphase : s.phase p with
    | live lock socket =>
      cases hphase' : s.phase q with
      | live lock' socket' =>
        exact h.unique (congrArg Phase.owns hphase) (congrArg Phase.owns hphase')
      | _ => rw [hphase'] at hq; exact hq.elim
    | _ => rw [hphase] at hp; exact hp.elim
  named := by
    intro p lock socket hphase
    exact h.listener p socket (congrArg Phase.listens hphase)

/-- A step by the owner, or by a process that becomes it when there is none. -/
theorem exclusive_owner {s : System} {p : ℕ} {phase : Phase} {fs : Fs Path} {lock : Inode}
    (hothers : ∀ q lock', (s.phase q).owns = some lock' → q = p)
    (hentry : fs.entry .socketLock = some lock) (hholder : fs.holder lock = some p)
    (howns : ∀ lock', phase.owns = some lock' → lock' = lock)
    (hlistens : ∀ socket, phase.listens = some socket → fs.entry .socketPath = some socket) :
    Exclusive (s.goto p phase fs) where
  owner := by
    intro q lock' hq
    by_cases hqp : q = p
    · subst hqp
      rw [System.goto_self] at hq
      rw [howns lock' hq]
      exact ⟨hentry, hholder⟩
    · rw [System.goto_other s hqp] at hq
      exact absurd (hothers q lock' hq) hqp
  listener := by
    intro q socket hq
    by_cases hqp : q = p
    · subst hqp
      rw [System.goto_self] at hq
      exact hlistens socket hq
    · rw [System.goto_other s hqp] at hq
      obtain ⟨lock', hlock'⟩ := owns_of_listens hq
      exact absurd (hothers q lock' hlock') hqp

/-- A step by a process that does not own the lock after it, and takes nothing from
another one that does. -/
theorem exclusive_other {s : System} {p : ℕ} {phase : Phase} {fs : Fs Path} (h : Exclusive s)
    (howns : phase.owns = none)
    (hframe : ∀ q lock, q ≠ p → (s.phase q).owns = some lock →
      fs.entry .socketLock = some lock ∧ fs.holder lock = some q ∧
      ∀ socket, s.fs.entry .socketPath = some socket → fs.entry .socketPath = some socket) :
    Exclusive (s.goto p phase fs) where
  owner := by
    intro q lock hq
    by_cases hqp : q = p
    · subst hqp
      rw [System.goto_self, howns] at hq
      cases hq
    · rw [System.goto_other s hqp] at hq
      obtain ⟨hentry, hholder, -⟩ := hframe q lock hqp hq
      exact ⟨hentry, hholder⟩
  listener := by
    intro q socket hq
    by_cases hqp : q = p
    · subst hqp
      rw [System.goto_self] at hq
      obtain ⟨lock, hlock⟩ := owns_of_listens hq
      rw [howns] at hlock
      cases hlock
    · rw [System.goto_other s hqp] at hq
      obtain ⟨lock, hlock⟩ := owns_of_listens hq
      exact (hframe q lock hqp hlock).2.2 socket (h.listener q socket hq)

/-- A step that only moves a process on, to a phase without the lock. -/
theorem exclusive_leave {s : System} {p : ℕ} {phase : Phase} (h : Exclusive s)
    (howns : phase.owns = none) : Exclusive (s.goto p phase s.fs) :=
  exclusive_other h howns fun q lock _ hq =>
    ⟨(h.owner q lock hq).1, (h.owner q lock hq).2, fun _ hsocket => hsocket⟩

/-- The owner goes on: the lock and its name stay. -/
theorem exclusive_goOn {s : System} {p : ℕ} {phase : Phase} {fs : Fs Path} {lock : Inode}
    (h : Exclusive s) (hp : (s.phase p).owns = some lock)
    (hentry : fs.entry .socketLock = s.fs.entry .socketLock) (hholder : fs.holder = s.fs.holder)
    (howns : phase.owns = some lock)
    (hlistens : ∀ socket, phase.listens = some socket → fs.entry .socketPath = some socket) :
    Exclusive (s.goto p phase fs) := by
  obtain ⟨hnamed, hheld⟩ := h.owner p lock hp
  refine exclusive_owner (fun q lock' hq => h.unique hq hp) (hentry.trans hnamed)
    (hholder ▸ hheld) ?_ hlistens
  intro lock' h'
  rw [howns] at h'
  exact (Option.some.inj h').symm

/-- The end of a process, or the last call of its destructors. -/
theorem exclusive_release {s : System} (h : Exclusive s) (p : ℕ) (lock : Inode) :
    Exclusive (s.goto p .outside (s.fs.release lock p)) := by
  apply exclusive_other h rfl
  intro q lock' hne hq
  obtain ⟨hentry, hholder⟩ := h.owner q lock' hq
  rw [Fs.release_entry]
  exact ⟨hentry, Fs.release_other s.fs hne hholder, fun _ hsocket => hsocket⟩

/-! ## The steps -/

theorem open_exclusive {s : System} (h : Exclusive s) (p : ℕ) :
    Exclusive (s.goto p (.lockOpened (s.fs.openCreate .socketLock).2)
      (s.fs.openCreate .socketLock).1) := by
  apply exclusive_other h rfl
  intro q lock _ hq
  obtain ⟨hentry, hholder⟩ := h.owner q lock hq
  exact ⟨Fs.openCreate_named s.fs hentry, by rw [Fs.openCreate_holder]; exact hholder,
    fun socket hsocket => Fs.openCreate_named s.fs hsocket⟩

/-- **`flock`.** It is granted on a free inode, so on that of no owner. -/
theorem flock_exclusive {s : System} (h : Exclusive s) {p : ℕ} {lock : Inode} {fs : Fs Path}
    (hlock : s.fs.tryLock lock p = some fs) (hnamed : s.fs.entry .socketLock = some lock) :
    Exclusive (s.goto p (.lockHeld lock) fs) := by
  obtain ⟨hfree, hheld, hentry⟩ := Fs.tryLock_some hlock
  refine exclusive_owner ?_ (by rw [hentry, hnamed]) hheld ?_ ?_
  -- an owner holds the inode of the name, and this one was free
  · intro q lock' hq
    obtain ⟨hentry', hholder'⟩ := h.owner q lock' hq
    rw [hnamed] at hentry'
    cases hentry'
    rw [hfree] at hholder'
    cases hholder'
  · intro lock' h'
    exact (Option.some.inj h').symm
  · intro socket h'
    cases h'

/-- **`unlink` of `SOCKET_LOCK`.** Whose lock it named is the caller, or nobody. -/
theorem unlinkLock_exclusive {s : System} (h : Exclusive s) {p : ℕ} {lock : Inode}
    (hspared : ((s.fs.entry .socketLock).all fun lock => (s.fs.holder lock).all (· == p)) = true) :
    Exclusive (s.goto p (.closeLock lock) (s.fs.unlink .socketLock)) := by
  apply exclusive_other h rfl
  intro q lock' hne hq
  obtain ⟨hentry, hholder⟩ := h.owner q lock' hq
  rw [hentry, Option.all_some, hholder, Option.all_some, beq_iff_eq] at hspared
  exact absurd hspared hne

/-- **The call of `flock`**, granted or not. -/
theorem lockOpened_exclusive {s : System} (h : Exclusive s) {p : ℕ} {granted : Bool} {lock : Inode}
    (hphase : s.phase p = .lockOpened lock)
    (hkeeps : KeepsLockName s (.call p granted) = true) : Exclusive (s.call p granted) := by
  simp only [KeepsLockName, hphase] at hkeeps
  simp only [System.call, hphase]
  cases granted with
  | false => exact exclusive_leave h rfl
  | true =>
    cases hlock : s.fs.tryLock lock p with
    | none =>
      simp only [if_true]
      exact exclusive_leave h rfl
    | some fs =>
      -- the inode was free, so `KeepsLockName` says that the name still leads to it
      have hfree := (Fs.tryLock_some hlock).1
      have hnamed : s.fs.entry .socketLock = some lock := by simpa [hfree] using hkeeps
      simp only [if_true]
      exact flock_exclusive h hlock hnamed

/-- **The call of `bind`**, granted or not. Only the owner gets this far. -/
theorem socketOpened_exclusive {s : System} (h : Exclusive s) {p : ℕ} {granted : Bool} {lock : Inode}
    (hphase : s.phase p = .socketOpened lock) : Exclusive (s.call p granted) := by
  have howns := congrArg Phase.owns hphase
  have hclose : Exclusive (s.goto p (.closeListener lock) s.fs) :=
    exclusive_goOn h howns rfl rfl rfl nofun
  simp only [System.call, hphase]
  cases granted with
  | false => exact hclose
  | true =>
    cases hbind : s.fs.bind .socketPath with
    | none =>
      simp only [if_true]
      exact hclose
    | some bound =>
      obtain ⟨fs, socket⟩ := bound
      obtain ⟨rfl, rfl⟩ := Fs.bind_some hbind
      simp only [if_true]
      apply exclusive_goOn h howns (Fs.create_other s.fs (by decide)) rfl rfl
      intro socket h'
      rw [Fs.create_self, ← Option.some.inj h']

/-- **One system call.** -/
theorem call_exclusive {s : System} (h : Exclusive s) {p : ℕ} {granted : Bool}
    (hkeeps : KeepsLockName s (.call p granted) = true) : Exclusive (s.call p granted) := by
  cases hphase : s.phase p with
  | lockOpened lock => exact lockOpened_exclusive h hphase hkeeps
  | socketOpened lock => exact socketOpened_exclusive h hphase
  | outside =>
    simp only [System.call, hphase]
    cases granted with
    | true => exact open_exclusive h p
    | false => exact h
  | lockHeld lock =>
    simp only [System.call, hphase]
    exact exclusive_goOn h (congrArg Phase.owns hphase) (Fs.unlink_other s.fs (by decide)) rfl rfl nofun
  | pathUnlinked lock =>
    simp only [System.call, hphase]
    cases granted with
    | true => exact exclusive_goOn h (congrArg Phase.owns hphase) rfl rfl rfl nofun
    | false => exact exclusive_leave h rfl
  | socketBound lock socket =>
    have hsocket := h.listener p socket (congrArg Phase.listens hphase)
    simp only [System.call, hphase]
    cases granted with
    | true =>
      exact exclusive_goOn h (congrArg Phase.owns hphase) rfl rfl rfl
        fun socket' h' => Option.some.inj h' ▸ hsocket
    | false => exact exclusive_goOn h (congrArg Phase.owns hphase) rfl rfl rfl nofun
  -- the destructors: the owner gives up the socket first, and then the lock
  | live lock socket =>
    simp only [System.call, hphase]
    exact exclusive_goOn h (congrArg Phase.owns hphase) (Fs.unlink_other s.fs (by decide)) rfl rfl nofun
  | unlinkListener lock =>
    simp only [System.call, hphase]
    exact exclusive_goOn h (congrArg Phase.owns hphase) (Fs.unlink_other s.fs (by decide)) rfl rfl nofun
  | closeListener lock =>
    simp only [System.call, hphase]
    exact exclusive_leave h rfl
  | unlinkLock lock =>
    simp only [KeepsLockName, hphase] at hkeeps
    simp only [System.call, hphase]
    exact unlinkLock_exclusive h hkeeps
  | closeLock lock =>
    simp only [System.call, hphase]
    exact exclusive_release h p lock

theorem step_exclusive {s : System} (h : Exclusive s) {e : Event} (hkeeps : KeepsLockName s e = true) :
    Exclusive (s.step e) := by
  cases e with
  | call p granted => exact call_exclusive h hkeeps
  | abort p =>
    unfold System.step
    cases hlock : (s.phase p).lock with
    | none => simpa only [hlock] using h
    | some lock => simpa only [hlock] using exclusive_release h p lock

/-! ## Runs -/

/-- Files may be left over, and locked by others, but no process has started. -/
def Unstarted (s : System) : Prop := ∀ p, s.phase p = .outside

theorem Unstarted.exclusive {s : System} (h : Unstarted s) : Exclusive s where
  owner := by
    intro p lock hp
    rw [h p] at hp
    cases hp
  listener := by
    intro p socket hp
    rw [h p] at hp
    cases hp

/-- **One listener.** Any number of processes start and leave, their system calls
interleaved in any way, with any failures: if each lock is taken on the inode that
`SOCKET_LOCK` names, and none loses that name to another process, one process is live at
most, and `SOCKET_PATH` names its socket. -/
theorem listen_exclusive {s : System} (hs : Unstarted s) (es : List Event)
    (hes : Along System.step (fun s e => KeepsLockName s e = true) s es) :
    OneListener (run System.step s es) :=
  (along_inv (I := Exclusive) (fun _ _ h hkeeps => step_exclusive h hkeeps) hs.exclusive hes).oneListener

/-- The six calls of a start, or the five of an exit. -/
def calls (process n : ℕ) : List Event := List.replicate n (.call process true)

/-- One process comes and goes, and another one takes its place. -/
theorem listen_exclusive_handover :
    OneListener (run System.step .init (calls 0 6 ++ calls 0 5 ++ calls 1 6)) :=
  listen_exclusive (fun _ => rfl) _ (by decide)

/-- **A second start takes the name from the lock, and a third one listens too.** In the
other schedule, a second process has the lock file open when the first one leaves, and
locks what the third one no longer finds. -/
theorem listen_not_exclusive :
    ¬ OneListener (run System.step .init (calls 0 6 ++ calls 1 4 ++ calls 2 6)) ∧
    ¬ OneListener (run System.step .init (calls 0 6 ++ calls 1 1 ++ calls 0 5 ++ calls 1 5 ++ calls 2 6)) := by
  constructor
  · intro h
    exact absurd (h.unique 0 2 trivial trivial) (by decide)
  · intro h
    exact absurd (h.unique 1 2 trivial trivial) (by decide)

end Ndisc.Listen
