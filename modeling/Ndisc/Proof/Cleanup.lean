import Ndisc.Proof.Lock

/-!
# A start that fails

Next to a process that listens, another one starts and does not get there: one of its
calls fails, and its destructors run.

* `Fails`: such a start, from its `open` to its last `close`.
* `fails_inv`: what each call keeps, the whole start keeps.
* `NameSwept`, `PathSwept`: what is unlinked when it has ended.
* `failed_start_spares_iff`: **which failed starts leave the names of the other process
  alone.**
* `failed_start_unlinks`: the one that finds the lock taken does not.
-/

namespace Ndisc.Listen

open Vfs

/-! ## The property -/

/-- A process that holds the lock of an inode, and whose socket is at `SOCKET_PATH`. -/
structure Listening (s : System) (q : ℕ) (lock socket : Inode) : Prop where
  live : s.phase q = .live lock socket
  locked : s.fs.holder lock = some q
  named : s.fs.entry .socketPath = some socket

/-- From `s` on, a process makes calls with these answers, and comes to its end in `s'`
without having been live. -/
inductive Fails (p : ℕ) : System → List Bool → System → Prop
  | last {s : System} {granted : Bool} (hend : (s.call p granted).phase p = .outside) :
    Fails p s [granted] (s.call p granted)
  | next {s s' : System} {granted : Bool} {rest : List Bool}
    (hgoes : (s.call p granted).phase p ≠ .outside) (hlive : ¬ ((s.call p granted).phase p).Live)
    (hrest : Fails p (s.call p granted) rest s') : Fails p s (granted :: rest) s'

/-- Of the two names, those that the other process had are still its own. -/
structure Spares (s s' : System) (lock socket : Inode) : Prop where
  lock : s.fs.entry .socketLock = some lock → s'.fs.entry .socketLock = some lock
  socket : s.fs.entry .socketPath = some socket → s'.fs.entry .socketPath = some socket

/-- `open` is refused. -/
def OpenFails (answers : List Bool) : Prop := answers[0]? = some false

/-- `flock` is refused, or the inode that `open` gives is locked. -/
def FlockFails (s : System) (answers : List Bool) : Prop :=
  answers[1]? = some false ∨ s.fs.holder (s.fs.openCreate .socketLock).2 ≠ none

/-! ## What a failed start unlinks -/

/-- **What each call keeps, the whole start keeps.** -/
theorem fails_inv {p : ℕ} {I : System → Prop}
    (hstep : ∀ (s : System) (granted : Bool), s.phase p ≠ .outside → I s →
      ¬ ((s.call p granted).phase p).Live → I (s.call p granted))
    {s s' : System} {answers : List Bool} (h : Fails p s answers s') (hs : s.phase p ≠ .outside)
    (hI : I s) : I s' := by
  induction h with
  | @last s granted hend =>
    have hnot : ¬ ((s.call p granted).phase p).Live := by rw [hend]; exact id
    exact hstep s granted hs hI hnot
  | @next s s' granted rest hgoes hlive hrest ih => exact ih hgoes (hstep s granted hs hI hlive)

theorem fails_end {p : ℕ} {s s' : System} {answers : List Bool} (h : Fails p s answers s') :
    s'.phase p = .outside := by
  induction h with
  | last hend => exact hend
  | next _ _ _ ih => exact ih

/-- The lock's destructor has unlinked its name before it closes. -/
def NameSwept (p : ℕ) (s : System) : Prop :=
  match s.phase p with
  | .closeLock _ | .outside => s.fs.entry .socketLock = none
  | _ => True

/-- `SOCKET_PATH` names nothing, but while the socket is bound, or about to be unlinked. -/
def PathSwept (p : ℕ) (s : System) : Prop :=
  match s.phase p with
  | .lockHeld _ | .socketBound _ _ | .live _ _ | .unlinkListener _ => True
  | _ => s.fs.entry .socketPath = none

/-- A process that has only the lock to give up finds `SOCKET_PATH` as it is. -/
def PathKept (p : ℕ) (socket : Inode) (s : System) : Prop :=
  match s.phase p with
  | .unlinkLock _ | .closeLock _ | .outside => s.fs.entry .socketPath = some socket
  | _ => False

section

variable {s : System} {p : ℕ}

/-- **One call**, for the name of the lock. -/
theorem call_nameSwept (granted : Bool) (hs : s.phase p ≠ .outside) (h : NameSwept p s) :
    NameSwept p (s.call p granted) := by
  unfold NameSwept at h ⊢
  cases hphase : s.phase p with
  | outside => exact absurd hphase hs
  | unlinkLock lock =>
    simp only [System.call, hphase, System.goto_self, System.goto_fs, Fs.unlink_self]
  | closeLock lock =>
    rw [hphase] at h
    simp only [System.call, hphase, System.goto_self, System.goto_fs, Fs.release_entry]
    exact h
  | lockOpened lock =>
    simp only [System.call, hphase]
    cases (if granted then s.fs.tryLock lock p else none) <;> simp only [System.goto_self]
  | socketOpened lock =>
    simp only [System.call, hphase]
    cases (if granted then s.fs.bind .socketPath else none) <;> simp only [System.goto_self]
  | _ => cases granted <;> simp [System.call, hphase]

/-- **One call**, for the name of the socket. -/
theorem call_pathSwept (granted : Bool) (hs : s.phase p ≠ .outside) (h : PathSwept p s) :
    PathSwept p (s.call p granted) := by
  unfold PathSwept at h ⊢
  cases hphase : s.phase p with
  | outside => exact absurd hphase hs
  | lockOpened lock =>
    rw [hphase] at h
    simp only [System.call, hphase]
    cases hlock : (if granted then s.fs.tryLock lock p else none) with
    | none => simpa only [System.goto_self, System.goto_fs] using h
    | some fs => simp only [System.goto_self]
  | pathUnlinked lock =>
    rw [hphase] at h
    cases granted <;> simpa [System.call, hphase] using h
  | socketOpened lock =>
    rw [hphase] at h
    simp only [System.call, hphase]
    cases hbind : (if granted then s.fs.bind .socketPath else none) with
    | none => simpa only [System.goto_self, System.goto_fs] using h
    | some bound => simp only [System.goto_self]
  | socketBound lock socket => cases granted <;> simp [System.call, hphase]
  -- `SOCKET_PATH` is unlinked before the `bind`, and by the listener's destructor
  | lockHeld lock | live lock socket | unlinkListener lock =>
    simp only [System.call, hphase, System.goto_self, System.goto_fs, Fs.unlink_self]
  | closeListener lock =>
    rw [hphase] at h
    simpa only [System.call, hphase, System.goto_self, System.goto_fs] using h
  | unlinkLock lock =>
    rw [hphase] at h
    simp only [System.call, hphase, System.goto_self, System.goto_fs]
    rw [Fs.unlink_other s.fs (by decide)]
    exact h
  | closeLock lock =>
    rw [hphase] at h
    simp only [System.call, hphase, System.goto_self, System.goto_fs, Fs.release_entry]
    exact h

theorem call_pathKept (granted : Bool) (hs : s.phase p ≠ .outside) {socket : Inode}
    (h : PathKept p socket s) : PathKept p socket (s.call p granted) := by
  unfold PathKept at h ⊢
  cases hphase : s.phase p with
  | outside => exact absurd hphase hs
  | unlinkLock lock =>
    rw [hphase] at h
    simp only [System.call, hphase, System.goto_self, System.goto_fs]
    rw [Fs.unlink_other s.fs (by decide)]
    exact h
  | closeLock lock =>
    rw [hphase] at h
    simp only [System.call, hphase, System.goto_self, System.goto_fs, Fs.release_entry]
    exact h
  | _ =>
    rw [hphase] at h
    exact h.elim

variable {s' : System} {answers : List Bool}

/-- **The end of a start past its `open`**: `SOCKET_LOCK` names nothing. -/
theorem fails_lock (h : Fails p s answers s') (hs : s.phase p ≠ .outside) (hname : NameSwept p s) :
    s'.fs.entry .socketLock = none := by
  have hend := fails_inv (fun _ granted hs hI _ => call_nameSwept granted hs hI) h hs hname
  rwa [NameSwept, fails_end h] at hend

/-- **The end of a start past its `flock`**: `SOCKET_PATH` names nothing. -/
theorem fails_path (h : Fails p s answers s') (hs : s.phase p ≠ .outside) (hpath : PathSwept p s) :
    s'.fs.entry .socketPath = none := by
  have hend := fails_inv (fun _ granted hs hI _ => call_pathSwept granted hs hI) h hs hpath
  rwa [PathSwept, fails_end h] at hend

/-- **The end of a start whose `flock` fails**: `SOCKET_PATH` is as it was. -/
theorem fails_kept (h : Fails p s answers s') (hs : s.phase p ≠ .outside) {socket : Inode}
    (hkept : PathKept p socket s) : s'.fs.entry .socketPath = some socket := by
  have hend := fails_inv (fun _ granted hs hI _ => call_pathKept granted hs hI) h hs hkept
  rwa [PathKept, fails_end h] at hend

end

/-! ## The start -/

section

variable {s s' : System} {p q : ℕ} {lock socket : Inode} {answers : List Bool}

/-- A start whose `open` succeeds goes on to its `flock`, and takes no name from an inode. -/
theorem fails_opened (hp : s.phase p = .outside) (h : Fails p s answers s')
    (hopen : ¬ OpenFails answers) : ∃ rest, answers = true :: rest ∧
      Fails p (s.goto p (.lockOpened (s.fs.openCreate .socketLock).2) (s.fs.openCreate .socketLock).1)
        rest s' := by
  cases h with
  | @last _ granted hend =>
    cases granted with
    | false => exact absurd rfl hopen
    | true => simp [System.call, hp] at hend
  | @next _ _ granted rest hgoes hlive hrest =>
    cases granted with
    | false => exact absurd rfl hopen
    | true =>
      refine ⟨rest, rfl, ?_⟩
      simpa only [System.call, hp, if_true] using hrest

/-- A refused `open` changes nothing. -/
theorem fails_refused (hp : s.phase p = .outside) (h : Fails p s answers s')
    (hopen : OpenFails answers) : s' = s := by
  cases h with
  | @last _ granted hend =>
    obtain rfl : granted = false := Option.some.inj hopen
    simp [System.call, hp]
  | @next _ _ granted rest hgoes hlive hrest =>
    obtain rfl : granted = false := Option.some.inj hopen
    exact absurd (by simp [System.call, hp]) hgoes

/-- The call of `flock`: the start goes on with the lock, or to the destructor of its
descriptor. -/
theorem fails_locked {l : Inode} (hp : s.phase p = .lockOpened l) (h : Fails p s answers s') :
    (∃ rest fs, answers = true :: rest ∧ s.fs.holder l = none ∧
      Fails p (s.goto p (.lockHeld l) fs) rest s') ∨
    ∃ granted rest, answers = granted :: rest ∧ (granted = false ∨ s.fs.holder l ≠ none) ∧
      Fails p (s.goto p (.unlinkLock l) s.fs) rest s' := by
  cases h with
  | @last _ granted hend =>
    simp only [System.call, hp] at hend
    cases hlock : (if granted then s.fs.tryLock l p else none) <;> simp [hlock] at hend
  | @next _ _ granted rest hgoes hlive hrest =>
    simp only [System.call, hp] at hrest
    cases hlock : (if granted then s.fs.tryLock l p else none) with
    | none =>
      rw [hlock] at hrest
      refine Or.inr ⟨granted, rest, rfl, ?_, hrest⟩
      cases granted with
      | false => exact Or.inl rfl
      | true => exact Or.inr fun hfree => by simp [Fs.tryLock, hfree] at hlock
    | some fs =>
      rw [hlock] at hrest
      cases granted with
      | false => cases hlock
      | true => exact Or.inl ⟨rest, fs, rfl, (Fs.tryLock_some hlock).1, hrest⟩

/-- **Failed starts next to a process that listens.** Whatever the files are, at whichever
of its calls the start fails: the names that the other process had are its own afterwards
exactly when `open` failed, or `flock` did and `SOCKET_LOCK` was no longer the name of the
inode that the other process has locked. -/
theorem failed_start_spares_iff (hq : Listening s q lock socket) (hp : s.phase p = .outside)
    (hfails : Fails p s answers s') :
    Spares s s' lock socket ↔
      OpenFails answers ∨ FlockFails s answers ∧ s.fs.entry .socketLock ≠ some lock := by
  by_cases hopen : OpenFails answers
  · rw [fails_refused hp hfails hopen]
    exact iff_of_true ⟨id, id⟩ (Or.inl hopen)
  rw [or_iff_right hopen]
  obtain ⟨rest, rfl, hopened⟩ := fails_opened hp hfails hopen
  rcases fails_locked (System.goto_self ..) hopened with
    ⟨rest', fs, rfl, hfree, hheld⟩ | ⟨granted, rest', rfl, hlocked, hleft⟩
  · -- the start has the lock of another inode, and unlinks the other process's socket
    have hnone := fails_path hheld (by rw [System.goto_self]; nofun) (by simp [PathSwept])
    rw [System.goto_fs, Fs.openCreate_holder] at hfree
    refine iff_of_false ?_ ?_
    · intro hspares
      have hnamed := hspares.socket hq.named
      rw [hnone] at hnamed
      cases hnamed
    · rintro ⟨hrefused | hheld, -⟩
      · cases hrefused
      · exact hheld hfree
  · rw [System.goto_fs, Fs.openCreate_holder] at hlocked
    have hflock : FlockFails s (true :: granted :: rest') :=
      hlocked.imp (fun h => congrArg some h) id
    rw [and_iff_right hflock]
    -- the destructor unlinks the name of the lock, whosever it is
    have hnone := fails_lock hleft (by rw [System.goto_self]; nofun) (by simp [NameSwept])
    have hkept : s'.fs.entry .socketPath = some socket :=
      fails_kept hleft (by rw [System.goto_self]; nofun)
        (by simpa [PathKept] using Fs.openCreate_named s.fs hq.named)
    constructor
    · intro hspares hname
      have hnamed := hspares.lock hname
      rw [hnone] at hnamed
      cases hnamed
    · intro hother
      exact ⟨fun hname => absurd hname hother, fun _ => hkept⟩

end

/-- The first process is live, and listens. -/
theorem first_listening : Listening (Run.run System.step .init (calls 0 6)) 0 0 1 :=
  ⟨by decide, by decide, by decide⟩

theorem failed_start_spares_refused : Spares (Run.run System.step .init (calls 0 6))
    ((Run.run System.step .init (calls 0 6)).call 1 false) 0 1 :=
  (failed_start_spares_iff first_listening (by decide) (.last (by decide))).2 (Or.inl rfl)

/-- **A start that finds the lock taken takes its name away.** -/
theorem failed_start_unlinks : ∃ s s',
    s = Run.run System.step .init (calls 0 6) ∧ s.fs.entry .socketLock = some 0 ∧
      Listening s 0 0 1 ∧ s.phase 1 = .outside ∧ Fails 1 s [true, true, true, true] s' ∧
      s'.fs.entry .socketLock = none ∧ ¬ Spares s s' 0 1 := by
  have hgone : (Run.run System.step .init (calls 0 6 ++ calls 1 4)).fs.entry .socketLock = none := by
    decide
  refine ⟨_, Run.run System.step .init (calls 0 6 ++ calls 1 4), rfl, by decide,
    first_listening, by decide, ?_, hgone, ?_⟩
  · exact .next (by decide) nofun (.next (by decide) nofun (.next (by decide) nofun (.last (by decide))))
  · intro hspares
    have hnamed := hspares.lock (by decide)
    rw [hgone] at hnamed
    cases hnamed

end Ndisc.Listen
