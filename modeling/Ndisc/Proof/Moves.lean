import Ndisc.Lib.Run
import Ndisc.Spec.Moves

/-!
# What a move leaves behind

* `Owned`: the ownership that `unique_ptr` stands for.
* `Moved`: a move hands over all that its source held, and the callbacks along with it.
* `Complete`: what the eight operations need for that.
* `move_resolved`: every move keeps the ownership, and is decided by `Complete`.
* `moves_complete_iff`: **along a run of moves, each hands over all there is exactly if each
  is complete**.
-/

namespace Ndisc.Moves

open Pointers
open Std (ExtTreeMap)

variable {h : Heap} {c c' : ReaderClass} {i target source : Id} {id : Option Id}

/-! ## Parts of the heap -/

namespace Heap

@[simp] theorem setReader_readers (h : Heap) (c c' : ReaderClass) (id i : Id) (reader : Option Reader) :
    (h.setReader c id reader).readers c' i = if c' = c ∧ i = id then reader else h.readers c' i := rfl

@[simp] theorem setCallback_readers (h : Heap) (socket : Option Id) (callback : Option Callback) :
    (h.setCallback socket callback).readers = h.readers := rfl

/-- A socket whose callback was set. -/
theorem setCallback_self (h : Heap) (k : Id) (callback : Option Callback) :
    (h.setCallback (some k) callback).socketCallback k = callback := if_pos rfl

@[simp] theorem setDeviceRepository_readers (h : Heap) (id : Id) (r : Option DeviceRepository) :
    (h.setDeviceRepository id r).readers = h.readers := rfl

@[simp] theorem setDeviceRepository_deviceRepositories (h : Heap) (id : Id)
    (r : Option DeviceRepository) : (h.setDeviceRepository id r).deviceRepositories =
      Function.update h.deviceRepositories id r := rfl

@[simp] theorem setDeviceRepository_lldpRepositories (h : Heap) (id : Id)
    (r : Option DeviceRepository) :
    (h.setDeviceRepository id r).lldpRepositories = h.lldpRepositories := rfl

@[simp] theorem setLldpRepository_deviceRepositories (h : Heap) (id : Id) (r : LldpRepository) :
    (h.setLldpRepository id r).deviceRepositories = h.deviceRepositories := rfl

@[simp] theorem setLldpRepository_lldpRepositories (h : Heap) (id : Id) (r : LldpRepository) :
    (h.setLldpRepository id r).lldpRepositories = Function.update h.lldpRepositories id (some r) := rfl

end Heap

/-- A reader that is told new callbacks. -/
def Reader.withCallbacks (reader : Reader) (update endOfDump dumpErrored : Option Callback) : Reader :=
  { reader with
    updateCallback := update, endOfDumpCallback := endOfDump, dumpErroredCallback := dumpErrored }

namespace Heap

@[simp] theorem setReaderCallbacks_readers (h : Heap) (c c' : ReaderClass) (id : Option Id) (i : Id)
    (update endOfDump dumpErrored : Option Callback) :
    (h.setReaderCallbacks c id update endOfDump dumpErrored).readers c' i =
      if c' = c ∧ id = some i then (h.readers c' i).map (·.withCallbacks update endOfDump dumpErrored)
      else h.readers c' i := rfl

@[simp] theorem destroyReader_readers (h : Heap) (c c' : ReaderClass) (id : Option Id) (i : Id) :
    (h.destroyReader c id).readers c' i =
      if c' = c ∧ id = some i then none else h.readers c' i := by
  unfold destroyReader
  split
  · simp
  · rename_i id
    split
    · rename_i hgone
      by_cases hsame : c' = c ∧ id = i
      · obtain ⟨rfl, rfl⟩ := hsame
        simp [hgone]
      · rw [if_neg (by simpa using hsame)]
    · by_cases hsame : c' = c ∧ i = id
      · obtain ⟨rfl, rfl⟩ := hsame
        simp
      · rw [setReader_readers, if_neg hsame, if_neg (by simpa [eq_comm] using hsame)]
        rfl

@[simp] theorem destroyReader_deviceRepositories (h : Heap) (c : ReaderClass) (id : Option Id) :
    (h.destroyReader c id).deviceRepositories = h.deviceRepositories := by
  unfold destroyReader
  split
  · rfl
  · split
    · rfl
    · rfl

@[simp] theorem destroyReader_lldpRepositories (h : Heap) (c : ReaderClass) (id : Option Id) :
    (h.destroyReader c id).lldpRepositories = h.lldpRepositories := by
  unfold destroyReader
  split
  · rfl
  · split
    · rfl
    · rfl

/-- Binding changes the callbacks of sockets only. -/
theorem bindReaderSocketCallback_frame (h : Heap) (c : ReaderClass) (id : Id) :
    ∃ callbacks, h.bindReaderSocketCallback c id = { h with socketCallback := callbacks } := by
  unfold bindReaderSocketCallback
  split
  · exact ⟨h.socketCallback, rfl⟩
  · exact ⟨_, rfl⟩

end Heap

/-! ## Ownership -/

def DeviceRepository.reader (r : DeviceRepository) : ReaderClass → Option Id
  | .deviceReader => r.deviceReader
  | .ipReader => r.ipReader

namespace DeviceRepository

variable {r r' : DeviceRepository}

theorem reader_none (hdevice : r.deviceReader = none) (hip : r.ipReader = none) (c : ReaderClass) :
    r.reader c = none := by
  cases c with
  | deviceReader => exact hdevice
  | ipReader => exact hip

theorem reader_congr (hdevice : r.deviceReader = r'.deviceReader) (hip : r.ipReader = r'.ipReader) :
    r.reader = r'.reader := by
  funext c
  cases c with
  | deviceReader => exact hdevice
  | ipReader => exact hip

end DeviceRepository

namespace Heap

/-- The reader of a class that each device repository owns. -/
def heldReader (h : Heap) (c : ReaderClass) : Id → Option Id :=
  fun d => (h.deviceRepositories d).bind (·.reader c)

/-- The device repository that each LLDP repository owns. -/
def heldRepository (h : Heap) : Id → Option Id :=
  fun l => (h.lldpRepositories l).bind (·.deviceRepository)

/-- What the `unique_ptr`s of the two repositories promise. -/
structure Owned (h : Heap) : Prop where
  readers : ∀ c, Sole (h.heldReader c) fun i => (h.readers c i).isSome
  repositories : Sole h.heldRepository fun d => (h.deviceRepositories d).isSome

/-- Whether there is an object. -/
def Live (h : Heap) : Class → Id → Prop
  | .deviceReader, id => (h.readers .deviceReader id).isSome
  | .ipReader, id => (h.readers .ipReader id).isSome
  | .deviceRepository, id => (h.deviceRepositories id).isSome
  | .lldpRepository, id => (h.lldpRepositories id).isSome

/-- A move between two different objects, where a constructor makes a new one. -/
structure Possible (h : Heap) (m : Move) : Prop where
  distinct : m.target ≠ m.source
  source : h.Live m.objects m.source
  target : h.Live m.objects m.target ↔ m.construct = false

instance Live.decidable (h : Heap) : ∀ (objects : Class) (id : Id), Decidable (h.Live objects id)
  | .deviceReader, id => inferInstanceAs (Decidable ((h.readers .deviceReader id).isSome = true))
  | .ipReader, id => inferInstanceAs (Decidable ((h.readers .ipReader id).isSome = true))
  | .deviceRepository, id => inferInstanceAs (Decidable ((h.deviceRepositories id).isSome = true))
  | .lldpRepository, id => inferInstanceAs (Decidable ((h.lldpRepositories id).isSome = true))

instance Possible.decidable (h : Heap) (m : Move) : Decidable (h.Possible m) :=
  decidable_of_iff (m.target ≠ m.source ∧ h.Live m.objects m.source ∧
      (h.Live m.objects m.target ↔ m.construct = false))
    ⟨fun ⟨hne, hs, ht⟩ => ⟨hne, hs, ht⟩, fun ⟨hne, hs, ht⟩ => ⟨hne, hs, ht⟩⟩

end Heap

/-- A state of the objects: no object has two owners, and no pointer dangles. -/
structure Objects extends Heap where
  owned : toHeap.Owned

/-! ## What a move promises -/

/-- A callback that is installed refers to this object. -/
def Refers (callback : Option Callback) (object : Object) : Prop :=
  ∀ cb ∈ callback, cb.this = some object

/-- The target of a move holds what the source held, and its socket calls it. -/
def ReaderMoved (c : ReaderClass) (h : Heap) (target source : Id) (h' : Heap) : Prop :=
  ∃ reader, h.readers c source = some reader ∧ h'.readers c target = some reader ∧
    ∀ k ∈ reader.readerSocket, Refers (h'.socketCallback k) (.reader c target)

/-- The target holds what the source held, its monitor calls it, and so do its readers, which
still have their sockets and requests. -/
def DeviceRepositoryMoved (h : Heap) (target source : Id) (h' : Heap) : Prop :=
  ∃ r, h.deviceRepositories source = some r ∧ h'.deviceRepositories target = some r ∧
    (∀ k ∈ r.monitor, Refers (h'.socketCallback k) (.deviceRepository target)) ∧
    ∀ c, ∀ i ∈ r.reader c, ∃ before update endOfDump dumpErrored,
      h.readers c i = some before ∧
      h'.readers c i = some (before.withCallbacks update endOfDump dumpErrored) ∧
      Refers update (.deviceRepository target) ∧ Refers endOfDump (.deviceRepository target) ∧
      Refers dumpErrored (.deviceRepository target)

/-- The target holds what the source held, and its device repository, which still has all it
had, calls it. -/
def LldpRepositoryMoved (h : Heap) (target source : Id) (h' : Heap) : Prop :=
  ∃ r, h.lldpRepositories source = some r ∧ h'.lldpRepositories target = some r ∧
    ∀ d ∈ r.deviceRepository, ∃ before callback, h.deviceRepositories d = some before ∧
      h'.deviceRepositories d = some { before with synchronizationCallback := callback } ∧
      Refers callback (.lldpRepository target)

def TakenOver (h : Heap) (m : Move) (h' : Heap) : Prop :=
  match m.objects with
  | .deviceReader => ReaderMoved .deviceReader h m.target m.source h'
  | .ipReader => ReaderMoved .ipReader h m.target m.source h'
  | .deviceRepository => DeviceRepositoryMoved h m.target m.source h'
  | .lldpRepository => LldpRepositoryMoved h m.target m.source h'

/-- The behaviour is defined, and the target has taken over from the source. -/
def Moved (h : Heap) (m : Move) : Prop := ∃ h', h.move m = some h' ∧ TakenOver h m h'

/-- What the operations leave out makes no difference: the socket that an assigned `IpReader`
does not bind, the synchronisation callback and the senders that are not handed over, and
the pointer of an LLDP repository that is not checked. -/
def Complete (h : Heap) (m : Move) : Prop :=
  match m.objects, m.construct with
  | .deviceReader, _ => True
  | .ipReader, true => True
  | .ipReader, false => ∀ other ∈ h.readers .ipReader m.source, ∀ k ∈ other.readerSocket,
      Refers (h.socketCallback k) (.reader .ipReader m.target)
  | .deviceRepository, true => ∀ other ∈ h.deviceRepositories m.source,
      other.synchronizationCallback = none
  | .deviceRepository, false => ∀ other ∈ h.deviceRepositories m.source,
      ∀ this ∈ h.deviceRepositories m.target,
        other.synchronizationCallback = this.synchronizationCallback
  | .lldpRepository, true => ∀ other ∈ h.lldpRepositories m.source,
      other.deviceRepository ≠ none ∧ other.currentState = ∅
  | .lldpRepository, false => ∀ other ∈ h.lldpRepositories m.source,
      ∀ this ∈ h.lldpRepositories m.target,
        other.deviceRepository ≠ none ∧ other.currentState = this.currentState

theorem refers_member (this : Object) (function : Member) :
    Refers (some (.member this function)) this := by
  intro cb hcb
  cases hcb
  rfl

/-! ## Readers -/

namespace Heap

theorem moveReader_eq {other : Reader} (hs : h.readers c source = some other) :
    h.moveReader c target source =
      some ((h.setReader c target (some other)).setReader c source (some .movedFrom)) := by
  rw [moveReader, hs]
  rfl

/-- The callback that a reader with a socket binds. -/
theorem bindReaderSocketCallback_self {reader : Reader} (hr : h.readers c i = some reader) {k : Id}
    (hk : reader.readerSocket = some k) :
    (h.bindReaderSocketCallback c i).socketCallback k =
      some (.member (.reader c i) .handleNetlinkPacket) := by
  rw [bindReaderSocketCallback, hr]
  simp only [hk]
  exact setCallback_self _ _ _

/-- **A move that binds the socket's callback is complete.** -/
theorem readerMoved_bind {other : Reader} (hs : h.readers c source = some other)
    (hne : target ≠ source) : ReaderMoved c h target source
      (((h.setReader c target (some other)).setReader c source (some .movedFrom)).bindReaderSocketCallback
        c target) := by
  have htarget : ((h.setReader c target (some other)).setReader c source (some .movedFrom)).readers c
      target = some other := by simp [hne]
  refine ⟨other, hs, ?_, ?_⟩
  · obtain ⟨callbacks, hframe⟩ := bindReaderSocketCallback_frame
      ((h.setReader c target (some other)).setReader c source (some .movedFrom)) c target
    rw [hframe, htarget]
  · intro k hk
    rw [bindReaderSocketCallback_self htarget hk]
    exact refers_member _ _

/-- Without that, the callback is the one that the socket had. -/
theorem readerMoved_unbound_iff {other : Reader} (hs : h.readers c source = some other)
    (hne : target ≠ source) : ReaderMoved c h target source
      ((h.setReader c target (some other)).setReader c source (some .movedFrom)) ↔
      ∀ k ∈ other.readerSocket, Refers (h.socketCallback k) (.reader c target) := by
  constructor
  · rintro ⟨reader, hreader, -, hcallback⟩
    rw [hs] at hreader
    cases hreader
    exact hcallback
  · intro hcallback
    exact ⟨other, hs, by simp [hne], hcallback⟩

/-- Readers may change as long as all that were there are there. -/
theorem Owned.of_live {h' : Heap} (hown : h.Owned) (hrepos : h'.deviceRepositories = h.deviceRepositories)
    (hlldp : h'.lldpRepositories = h.lldpRepositories)
    (hlive : ∀ c i, (h.readers c i).isSome → (h'.readers c i).isSome) : h'.Owned where
  readers c := by
    have hheld : h'.heldReader c = h.heldReader c := by
      unfold heldReader
      rw [hrepos]
    rw [hheld]
    exact (hown.readers c).mono (hlive c)
  repositories := by
    have hheld : h'.heldRepository = h.heldRepository := by
      unfold heldRepository
      rw [hlldp]
    rw [hheld, hrepos]
    exact hown.repositories

/-- Both objects of a move of readers are there afterwards. -/
theorem readerMove_live (h : Heap) (c : ReaderClass) (target source : Id) (other : Reader)
    (c' : ReaderClass) (i : Id) (hi : (h.readers c' i).isSome) :
    ((((h.setReader c target (some other)).setReader c source (some .movedFrom))).readers c' i).isSome := by
  simp only [setReader_readers]
  split_ifs
  · rfl
  · rfl
  · exact hi

/-- **A move of readers that binds the socket's callback.** -/
theorem readerMove_bind_spec (hown : h.Owned) {other : Reader} (hs : h.readers c source = some other)
    (hne : target ≠ source) :
    ∃ h', (h.moveReader c target source).bind (fun h => some (h.bindReaderSocketCallback c target)) =
      some h' ∧ h'.Owned ∧ ReaderMoved c h target source h' := by
  obtain ⟨callbacks, hframe⟩ := bindReaderSocketCallback_frame
    ((h.setReader c target (some other)).setReader c source (some .movedFrom)) c target
  refine ⟨_, by rw [moveReader_eq hs]; rfl, ?_, readerMoved_bind hs hne⟩
  rw [hframe]
  exact hown.of_live rfl rfl (readerMove_live h c target source other)

/-- **Move assignment of IP readers**: the socket goes on to call whom it called. -/
theorem ipReaderMoveAssign_spec (hown : h.Owned) {other : Reader}
    (hs : h.readers .ipReader source = some other) (hne : target ≠ source) :
    ∃ h', h.ipReaderMoveAssign target source = some h' ∧ h'.Owned ∧
      (ReaderMoved .ipReader h target source h' ↔
        ∀ k ∈ other.readerSocket, Refers (h.socketCallback k) (.reader .ipReader target)) := by
  refine ⟨_, moveReader_eq hs, ?_, readerMoved_unbound_iff hs hne⟩
  exact hown.of_live rfl rfl (readerMove_live h .ipReader target source other)

/-! ## Device repositories -/

@[simp] theorem clearCallbacks_deviceRepositories (h : Heap) (r : DeviceRepository) :
    (h.clearCallbacks r).deviceRepositories = h.deviceRepositories := rfl

@[simp] theorem clearCallbacks_lldpRepositories (h : Heap) (r : DeviceRepository) :
    (h.clearCallbacks r).lldpRepositories = h.lldpRepositories := rfl

@[simp] theorem bindCallbacks_deviceRepositories (h : Heap) (id : Id) (r : DeviceRepository) :
    (h.bindCallbacks id r).deviceRepositories = h.deviceRepositories := rfl

@[simp] theorem bindCallbacks_lldpRepositories (h : Heap) (id : Id) (r : DeviceRepository) :
    (h.bindCallbacks id r).lldpRepositories = h.lldpRepositories := rfl

theorem clearCallbacks_readers (h : Heap) (r : DeviceRepository) (c : ReaderClass) (i : Id) :
    (h.clearCallbacks r).readers c i =
      if r.reader c = some i then (h.readers c i).map (·.withCallbacks none none none)
      else h.readers c i := by
  cases c with
  | deviceReader =>
    simp only [clearCallbacks, DeviceRepository.reader, setCallback_readers,
      setReaderCallbacks_readers, reduceCtorEq, false_and, if_false, true_and]
    rfl
  | ipReader =>
    simp only [clearCallbacks, DeviceRepository.reader, setCallback_readers,
      setReaderCallbacks_readers, reduceCtorEq, false_and, if_false, true_and]
    rfl

/-- The readers of a repository call it, and the other readers are as they were. -/
theorem bindCallbacks_readers (h : Heap) (id : Id) (r : DeviceRepository) (c : ReaderClass) :
    ∃ update endOfDump dumpErrored, Refers update (.deviceRepository id) ∧
      Refers endOfDump (.deviceRepository id) ∧ Refers dumpErrored (.deviceRepository id) ∧
      ∀ i, (h.bindCallbacks id r).readers c i = if r.reader c = some i then
        (h.readers c i).map (·.withCallbacks update endOfDump dumpErrored) else h.readers c i := by
  cases c with
  | deviceReader =>
    refine ⟨_, _, _, refers_member _ .handleLinkPacket, refers_member _ .deviceReaderFinished,
      refers_member _ .deviceReaderErrored, fun i => ?_⟩
    simp only [bindCallbacks, DeviceRepository.reader, setCallback_readers,
      setReaderCallbacks_readers, reduceCtorEq, false_and, if_false, true_and]
    rfl
  | ipReader =>
    refine ⟨_, _, _, refers_member _ .handleAddressPacket, refers_member _ .ipReaderFinished,
      refers_member _ .ipReaderErrored, fun i => ?_⟩
    simp only [bindCallbacks, DeviceRepository.reader, setCallback_readers,
      setReaderCallbacks_readers, reduceCtorEq, false_and, if_false, true_and]
    rfl

theorem bindCallbacks_monitor (h : Heap) (id : Id) (r : DeviceRepository) {k : Id}
    (hk : r.monitor = some k) : (h.bindCallbacks id r).socketCallback k =
      some (.member (.deviceRepository id) .handleMonitorPackets) := by
  rw [bindCallbacks, hk]
  exact setCallback_self _ _ _

theorem clearCallbacks_isSome (h : Heap) (r : DeviceRepository) (c : ReaderClass) (i : Id) :
    ((h.clearCallbacks r).readers c i).isSome = (h.readers c i).isSome := by
  rw [clearCallbacks_readers]
  split
  · rw [Option.isSome_map]
  · rfl

theorem bindCallbacks_isSome (h : Heap) (id : Id) (r : DeviceRepository) (c : ReaderClass) (i : Id) :
    ((h.bindCallbacks id r).readers c i).isSome = (h.readers c i).isSome := by
  obtain ⟨_, _, _, -, -, -, hreaders⟩ := bindCallbacks_readers h id r c
  rw [hreaders]
  split
  · rw [Option.isSome_map]
  · rfl

/-- The readers of a repository are destroyed, in either order, and only they. -/
theorem destroyReaders_readers (h : Heap) (r : DeviceRepository) (c : ReaderClass) (i : Id) :
    ((h.destroyReader .deviceReader r.deviceReader).destroyReader .ipReader r.ipReader).readers c i =
        (if r.reader c = some i then none else h.readers c i) ∧
      ((h.destroyReader .ipReader r.ipReader).destroyReader .deviceReader r.deviceReader).readers c i =
        if r.reader c = some i then none else h.readers c i := by
  cases c with
  | deviceReader =>
    simp only [destroyReader_readers, reduceCtorEq, false_and, if_false, true_and]
    exact ⟨rfl, rfl⟩
  | ipReader =>
    simp only [destroyReader_readers, reduceCtorEq, false_and, if_false, true_and]
    exact ⟨rfl, rfl⟩

/-- How both moves of device repositories end: the members are in place, and the target
binds its callbacks. -/
def settle (h : Heap) (target source : Id) (this other : DeviceRepository) : Heap :=
  ((h.setDeviceRepository target (some this)).setDeviceRepository source (some other)).bindCallbacks
    target this

section

variable {this other left : DeviceRepository} {hmid : Heap}

/-- **The target has taken over exactly if it holds all that the source held.** -/
theorem deviceRepositoryMoved_iff (hs : h.deviceRepositories source = some other)
    (hne : target ≠ source)
    (hkept : ∀ c, ∀ i ∈ other.reader c, ∃ reader update endOfDump dumpErrored,
      h.readers c i = some reader ∧
      hmid.readers c i = some (reader.withCallbacks update endOfDump dumpErrored)) :
    DeviceRepositoryMoved h target source (hmid.settle target source this left) ↔ this = other := by
  have htarget : (hmid.settle target source this left).deviceRepositories target = some this := by
    simp [settle, Function.update_of_ne hne]
  constructor
  · rintro ⟨r, hr, hr', -⟩
    rw [hs] at hr
    rw [htarget] at hr'
    exact Option.some.inj (hr'.trans hr.symm)
  · rintro rfl
    refine ⟨this, hs, htarget, ?_, ?_⟩
    · intro k hk
      rw [settle, bindCallbacks_monitor _ _ _ hk]
      exact refers_member _ _
    · intro c i hi
      obtain ⟨reader, _, _, _, hbefore, hafter⟩ := hkept c i hi
      obtain ⟨update, endOfDump, dumpErrored, h₁, h₂, h₃, hreaders⟩ := bindCallbacks_readers
        ((Heap.setDeviceRepository _ target (some this)).setDeviceRepository source (some left)) target
        this c
      refine ⟨reader, update, endOfDump, dumpErrored, hbefore, ?_, h₁, h₂, h₃⟩
      rw [settle, hreaders, if_pos (show this.reader c = some i from hi)]
      simp only [setDeviceRepository_readers, hafter, Option.map_some]
      rfl

/-- **The ownership of the readers is handed over.** -/
theorem Owned.settle (hown : h.Owned) (hs : h.deviceRepositories source = some other)
    (hne : target ≠ source) (hreader : this.reader = other.reader) (hleft : ∀ c, left.reader c = none)
    (hrepos : hmid.deviceRepositories = h.deviceRepositories)
    (hlldp : hmid.lldpRepositories = h.lldpRepositories)
    (hlive : ∀ c i, (h.readers c i).isSome → h.heldReader c target ≠ some i →
      (hmid.readers c i).isSome) :
    (hmid.settle target source this left).Owned where
  readers c := by
    have hheld : (hmid.settle target source this left).heldReader c =
        handOver (h.heldReader c) target source := by
      funext d
      rcases eq_or_ne d source with rfl | hsource
      · rw [handOver_source]
        simp [heldReader, Heap.settle, hleft]
      · rcases eq_or_ne d target with rfl | htarget
        · rw [handOver_target hne]
          simp [heldReader, Heap.settle, Function.update_of_ne hsource, hs, hreader]
        · rw [handOver_other htarget hsource]
          simp [heldReader, Heap.settle, Function.update_of_ne hsource,
            Function.update_of_ne htarget, hrepos]
    rw [hheld]
    refine (hown.readers c).handOver hne fun i hi hnot => ?_
    rw [Heap.settle, bindCallbacks_isSome]
    exact hlive c i hi hnot
  repositories := by
    have hheld : (hmid.settle target source this left).heldRepository = h.heldRepository := by
      funext l
      simp [heldRepository, Heap.settle, hlldp]
    rw [hheld]
    refine hown.repositories.mono fun d hd => ?_
    simp only [Heap.settle, bindCallbacks_deviceRepositories,
      setDeviceRepository_deviceRepositories, hrepos]
    rcases eq_or_ne d source with rfl | hsource
    · rw [Function.update_self]
      rfl
    · rw [Function.update_of_ne hsource]
      rcases eq_or_ne d target with rfl | htarget
      · rw [Function.update_self]
        rfl
      · rwa [Function.update_of_ne htarget]

end

/-- What a reader owned by the source has to keep. -/
theorem Owned.reader_isSome (hown : h.Owned) {d : Id} {r : DeviceRepository}
    (hd : h.deviceRepositories d = some r) (hi : r.reader c = some i) : (h.readers c i).isSome := by
  refine (hown.readers c).alive d i ?_
  rw [heldReader, hd]
  exact hi

/-- **Move construction of device repositories**: the synchronisation callback is lost. -/
theorem deviceRepositoryMoveConstruct_spec (hown : h.Owned) {other : DeviceRepository}
    (hs : h.deviceRepositories source = some other) (hne : target ≠ source) :
    ∃ h', h.deviceRepositoryMoveConstruct target source = some h' ∧ h'.Owned ∧
      (DeviceRepositoryMoved h target source h' ↔ other.synchronizationCallback = none) := by
  -- the pointers are null when `ClearCallbacks` is called
  have hsame : ∀ c i, (h.clearCallbacks { other with
      monitor := none, deviceReader := none, ipReader := none, devices := ∅ }).readers c i =
      h.readers c i := by
    intro c i
    rw [clearCallbacks_readers, DeviceRepository.reader_none rfl rfl,
      if_neg (fun hnone => by cases hnone)]
  refine ⟨(h.clearCallbacks { other with
      monitor := none, deviceReader := none, ipReader := none, devices := ∅ }).settle target source
      { other with synchronizationCallback := none }
      { other with
        syncTimeout := -1, monitor := none, deviceReader := none, ipReader := none, devices := ∅
        verbose := false }, ?_, ?_, ?_⟩
  · rw [deviceRepositoryMoveConstruct, hs]
    rfl
  · refine hown.settle hs hne (DeviceRepository.reader_congr rfl rfl)
      (DeviceRepository.reader_none rfl rfl) rfl rfl fun c i hi _ => ?_
    rw [hsame]
    exact hi
  · rw [deviceRepositoryMoved_iff hs hne]
    · constructor
      · intro heq
        exact (congrArg DeviceRepository.synchronizationCallback heq).symm
      · intro hnone
        rw [← hnone]
    · intro c i hi
      obtain ⟨reader, hreader⟩ := Option.isSome_iff_exists.1 (hown.reader_isSome hs hi)
      exact ⟨reader, _, _, _, hreader, by rw [hsame, hreader]; rfl⟩

/-- **Move assignment of device repositories**: the target keeps its own synchronisation
callback. -/
theorem deviceRepositoryMoveAssign_spec (hown : h.Owned) {this other : DeviceRepository}
    (hs : h.deviceRepositories source = some other) (ht : h.deviceRepositories target = some this)
    (hne : target ≠ source) :
    ∃ h', h.deviceRepositoryMoveAssign target source = some h' ∧ h'.Owned ∧
      (DeviceRepositoryMoved h target source h' ↔
        other.synchronizationCallback = this.synchronizationCallback) := by
  have hmid := fun c i =>
    (destroyReaders_readers ((h.clearCallbacks this).clearCallbacks other) this c i).1
  refine ⟨((((h.clearCallbacks this).clearCallbacks other).destroyReader .deviceReader
      this.deviceReader).destroyReader .ipReader this.ipReader).settle target source
      { other with synchronizationCallback := this.synchronizationCallback }
      { other with
        syncTimeout := -1, monitor := none, deviceReader := none, ipReader := none, devices := ∅
        verbose := false }, ?_, ?_, ?_⟩
  · rw [deviceRepositoryMoveAssign, ht, hs]
    rfl
  · refine hown.settle hs hne (DeviceRepository.reader_congr rfl rfl)
      (DeviceRepository.reader_none rfl rfl) ?_ ?_ fun c i hi hnot => ?_
    · rw [destroyReader_deviceRepositories, destroyReader_deviceRepositories]
      rfl
    · rw [destroyReader_lldpRepositories, destroyReader_lldpRepositories]
      rfl
    · have hforeign : this.reader c ≠ some i := by
        rw [heldReader, ht] at hnot
        exact hnot
      rw [hmid, if_neg hforeign, clearCallbacks_isSome, clearCallbacks_isSome]
      exact hi
  · rw [deviceRepositoryMoved_iff hs hne]
    · constructor
      · intro heq
        exact (congrArg DeviceRepository.synchronizationCallback heq).symm
      · intro hsame
        rw [← hsame]
    · intro c i hi
      obtain ⟨reader, hreader⟩ := Option.isSome_iff_exists.1 (hown.reader_isSome hs hi)
      -- a reader has one owner
      have hforeign : this.reader c ≠ some i := by
        intro hthis
        refine hne ((hown.readers c).once target source i ?_ ?_)
        · rw [heldReader, ht]
          exact hthis
        · rw [heldReader, hs]
          exact hi
      refine ⟨reader, none, none, none, hreader, ?_⟩
      rw [hmid, if_neg hforeign, clearCallbacks_readers, if_pos (show other.reader c = some i from hi),
        clearCallbacks_readers, if_neg hforeign, hreader]
      rfl

/-! ## LLDP repositories -/

@[simp] theorem destroyDeviceRepository_lldpRepositories (h : Heap) (id : Option Id) :
    (h.destroyDeviceRepository id).lldpRepositories = h.lldpRepositories := by
  unfold destroyDeviceRepository
  split
  · rfl
  · split
    · rfl
    · simp

theorem destroyDeviceRepository_deviceRepositories (h : Heap) (id : Option Id) (d : Id) :
    (h.destroyDeviceRepository id).deviceRepositories d =
      if id = some d then none else h.deviceRepositories d := by
  unfold destroyDeviceRepository
  split
  · simp
  · rename_i id
    split
    · rename_i hgone
      split
      · rename_i hsame
        cases hsame
        exact hgone
      · rfl
    · simp only [setDeviceRepository_deviceRepositories, destroyReader_deviceRepositories,
        clearCallbacks_deviceRepositories]
      rcases eq_or_ne id d with rfl | hne
      · rw [Function.update_self, if_pos rfl]
      · rw [Function.update_of_ne hne.symm, if_neg fun heq => hne (Option.some.inj heq)]

/-- The readers of a repository that is destroyed go with it, and no others. -/
theorem destroyDeviceRepository_isSome {id : Option Id} (hi : (h.readers c i).isSome)
    (hforeign : ∀ d ∈ id, h.heldReader c d ≠ some i) :
    ((h.destroyDeviceRepository id).readers c i).isSome := by
  unfold destroyDeviceRepository
  split
  · exact hi
  · rename_i d
    split
    · exact hi
    · rename_i r hr
      have hnot : r.reader c ≠ some i := by
        have hheld := hforeign d rfl
        rw [heldReader, hr] at hheld
        exact hheld
      rw [setDeviceRepository_readers, (destroyReaders_readers (h.clearCallbacks r) r c i).2,
        if_neg hnot, clearCallbacks_isSome]
      exact hi

theorem destroyDeviceRepository_heldReader (h : Heap) (c : ReaderClass) (d : Id) :
    (h.destroyDeviceRepository (some d)).heldReader c = Function.update (h.heldReader c) d none := by
  funext d'
  rw [heldReader, destroyDeviceRepository_deviceRepositories]
  rcases eq_or_ne d' d with rfl | hne
  · rw [if_pos rfl, Function.update_self]
    rfl
  · rw [if_neg fun heq => hne (Option.some.inj heq).symm, Function.update_of_ne hne]
    rfl

/-- A repository that is destroyed leaves the readers of the others alone. -/
theorem Owned.destroyDeviceRepository (hown : h.Owned) (id : Option Id) (c : ReaderClass) :
    Sole ((h.destroyDeviceRepository id).heldReader c) fun i =>
      ((h.destroyDeviceRepository id).readers c i).isSome := by
  cases id with
  | none => exact hown.readers c
  | some d =>
    rw [destroyDeviceRepository_heldReader]
    refine (hown.readers c).drop fun i hi hforeign => destroyDeviceRepository_isSome hi ?_
    intro d' hd'
    cases hd'
    exact hforeign

/-- How both moves of LLDP repositories end, where there is a device repository: the members
are in place, and the target sets its callback. -/
def settleLldp (h : Heap) (target source : Id) (this left : LldpRepository) (d : Id)
    (repository : DeviceRepository) : Heap :=
  ((h.setLldpRepository target this).setLldpRepository source left).setDeviceRepository d
    (some { repository with
      synchronizationCallback := some (.member (.lldpRepository target) .updateState) })

section

variable {this other left : LldpRepository} {hmid : Heap} {d : Id} {repository : DeviceRepository}

theorem setSyncCallback_eq (hd : this.deviceRepository = some d)
    (hrepo : hmid.deviceRepositories d = some repository) :
    ((hmid.setLldpRepository target this).setLldpRepository source left).setSyncCallback target this =
      some (hmid.settleLldp target source this left d repository) := by
  simp only [setSyncCallback, hd, setLldpRepository_deviceRepositories]
  show (hmid.deviceRepositories d).bind _ = _
  rw [hrepo]
  rfl

/-- A null pointer is not checked. -/
theorem setSyncCallback_null (hd : this.deviceRepository = none) :
    h.setSyncCallback target this = none := by
  rw [setSyncCallback, hd]
  rfl

/-- **The target has taken over exactly if it holds all that the source held.** -/
theorem lldpRepositoryMoved_iff (hs : h.lldpRepositories source = some other)
    (hne : target ≠ source) (hd : other.deviceRepository = some d)
    (hrepo : h.deviceRepositories d = some repository) :
    LldpRepositoryMoved h target source (hmid.settleLldp target source this left d repository) ↔
      this = other := by
  have htarget : (hmid.settleLldp target source this left d repository).lldpRepositories target =
      some this := by
    simp [settleLldp, Function.update_of_ne hne]
  constructor
  · rintro ⟨r, hr, hr', -⟩
    rw [hs] at hr
    rw [htarget] at hr'
    exact Option.some.inj (hr'.trans hr.symm)
  · rintro rfl
    refine ⟨this, hs, htarget, fun d' hd' => ?_⟩
    obtain rfl : d = d' := Option.some.inj (hd.symm.trans hd')
    exact ⟨repository, _, hrepo, Function.update_self .., refers_member _ _⟩

/-- **The ownership of the device repository is handed over.** -/
theorem Owned.settleLldp (hown : h.Owned) (hs : h.lldpRepositories source = some other)
    (hne : target ≠ source) (hsame : this.deviceRepository = other.deviceRepository)
    (hleft : left.deviceRepository = none) (hlldp : hmid.lldpRepositories = h.lldpRepositories)
    (hrepo : hmid.deviceRepositories d = some repository)
    (hreaders : ∀ c, Sole (hmid.heldReader c) fun i => (hmid.readers c i).isSome)
    (hlive : ∀ d, (h.deviceRepositories d).isSome → h.heldRepository target ≠ some d →
      (hmid.deviceRepositories d).isSome) :
    (hmid.settleLldp target source this left d repository).Owned where
  readers c := by
    have hheld : (hmid.settleLldp target source this left d repository).heldReader c =
        hmid.heldReader c := by
      funext d'
      rcases eq_or_ne d' d with rfl | hd
      · cases c with
        | deviceReader => simp [heldReader, Heap.settleLldp, hrepo, DeviceRepository.reader]
        | ipReader => simp [heldReader, Heap.settleLldp, hrepo, DeviceRepository.reader]
      · simp [heldReader, Heap.settleLldp, Function.update_of_ne hd]
    rw [hheld]
    exact hreaders c
  repositories := by
    have hheld : (hmid.settleLldp target source this left d repository).heldRepository =
        handOver h.heldRepository target source := by
      funext l
      rcases eq_or_ne l source with rfl | hsource
      · rw [handOver_source]
        simp [heldRepository, Heap.settleLldp, hleft]
      · rcases eq_or_ne l target with rfl | htarget
        · rw [handOver_target hne]
          simp [heldRepository, Heap.settleLldp, Function.update_of_ne hsource, hs, hsame]
        · rw [handOver_other htarget hsource]
          simp [heldRepository, Heap.settleLldp, Function.update_of_ne hsource,
            Function.update_of_ne htarget, hlldp]
    rw [hheld]
    refine hown.repositories.handOver hne fun d' hd' hnot => ?_
    simp only [Heap.settleLldp, setDeviceRepository_deviceRepositories,
      setLldpRepository_deviceRepositories]
    rcases eq_or_ne d' d with rfl | hne'
    · rw [Function.update_self]
      rfl
    · rw [Function.update_of_ne hne']
      exact hlive d' hd' hnot

end

theorem Owned.repository_isSome (hown : h.Owned) {l d : Id} {r : LldpRepository}
    (hl : h.lldpRepositories l = some r) (hd : r.deviceRepository = some d) :
    (h.deviceRepositories d).isSome := by
  refine hown.repositories.alive l d ?_
  rw [heldRepository, hl]
  exact hd

/-- **Move construction of LLDP repositories**: the senders are lost. -/
theorem lldpRepositoryMoveConstruct_spec (hown : h.Owned) {other : LldpRepository}
    (hs : h.lldpRepositories source = some other) (hne : target ≠ source) {d : Id}
    (hd : other.deviceRepository = some d) :
    ∃ h', h.lldpRepositoryMoveConstruct target source = some h' ∧ h'.Owned ∧
      (LldpRepositoryMoved h target source h' ↔ other.currentState = ∅) := by
  obtain ⟨repository, hrepo⟩ := Option.isSome_iff_exists.1 (hown.repository_isSome hs hd)
  refine ⟨h.settleLldp target source ⟨other.ethernetBroadcastSocket, ∅, other.deviceRepository⟩
    { other with ethernetBroadcastSocket := -1, deviceRepository := none } d repository, ?_, ?_, ?_⟩
  · rw [lldpRepositoryMoveConstruct, hs]
    exact setSyncCallback_eq hd hrepo
  · exact hown.settleLldp hs hne rfl rfl rfl hrepo hown.readers fun _ hd' _ => hd'
  · rw [lldpRepositoryMoved_iff hs hne hd hrepo]
    constructor
    · intro heq
      exact (congrArg LldpRepository.currentState heq).symm
    · intro hempty
      rw [← hempty]

/-- **Move assignment of LLDP repositories**: the target keeps its own senders. -/
theorem lldpRepositoryMoveAssign_spec (hown : h.Owned) {this other : LldpRepository}
    (hs : h.lldpRepositories source = some other) (ht : h.lldpRepositories target = some this)
    (hne : target ≠ source) {d : Id} (hd : other.deviceRepository = some d) :
    ∃ h', h.lldpRepositoryMoveAssign target source = some h' ∧ h'.Owned ∧
      (LldpRepositoryMoved h target source h' ↔ other.currentState = this.currentState) := by
  obtain ⟨repository, hrepo⟩ := Option.isSome_iff_exists.1 (hown.repository_isSome hs hd)
  have htarget : h.heldRepository target = this.deviceRepository := by
    rw [heldRepository, ht]
    rfl
  -- the repository that is destroyed is not the one that is handed over
  have hforeign : this.deviceRepository ≠ some d := by
    intro hthis
    refine hne (hown.repositories.once target source d (htarget.trans hthis) ?_)
    rw [heldRepository, hs]
    exact hd
  have hmid : (h.destroyDeviceRepository this.deviceRepository).deviceRepositories d =
      some repository := by
    rw [destroyDeviceRepository_deviceRepositories, if_neg hforeign, hrepo]
  refine ⟨(h.destroyDeviceRepository this.deviceRepository).settleLldp target source
    { this with
      ethernetBroadcastSocket := other.ethernetBroadcastSocket
      deviceRepository := other.deviceRepository }
    { other with ethernetBroadcastSocket := -1, deviceRepository := none } d repository, ?_, ?_, ?_⟩
  · rw [lldpRepositoryMoveAssign, ht, hs]
    exact setSyncCallback_eq hd hmid
  · refine hown.settleLldp hs hne rfl rfl (destroyDeviceRepository_lldpRepositories _ _) hmid
      (hown.destroyDeviceRepository _) fun d' hd' hnot => ?_
    rw [destroyDeviceRepository_deviceRepositories, if_neg (htarget ▸ hnot)]
    exact hd'
  · rw [lldpRepositoryMoved_iff hs hne hd hrepo]
    constructor
    · intro heq
      exact (congrArg LldpRepository.currentState heq).symm
    · intro hsame
      rw [← hsame]

end Heap

/-! ## One move -/

variable {m : Move}

/-- A move keeps the ownership, and hands over all there is exactly if it is complete. -/
structure Resolved (h : Heap) (m : Move) : Prop where
  owned : (h.step m).Owned
  moved_iff : Moved h m ↔ Complete h m

/-- What is known of a move that has a result. -/
theorem Resolved.of_move {h' : Heap} (hmove : h.move m = some h') (hown : h'.Owned)
    (hiff : TakenOver h m h' ↔ Complete h m) : Resolved h m := by
  constructor
  · rw [Heap.step, hmove]
    exact hown
  · rw [← hiff]
    constructor
    · rintro ⟨h'', hmove', htaken⟩
      obtain rfl : h' = h'' := Option.some.inj (hmove.symm.trans hmove')
      exact htaken
    · exact fun htaken => ⟨h', hmove, htaken⟩

/-- And of one that has none. -/
theorem Resolved.of_undefined (hmove : h.move m = none) (hown : h.Owned)
    (hincomplete : ¬ Complete h m) : Resolved h m := by
  constructor
  · rw [Heap.step, hmove]
    exact hown
  · refine iff_of_false ?_ hincomplete
    rintro ⟨h', hmove', -⟩
    rw [hmove] at hmove'
    cases hmove'

theorem deviceReader_resolved {construct : Bool} (hown : h.Owned) (hne : target ≠ source)
    (hs : (h.readers .deviceReader source).isSome) :
    Resolved h ⟨.deviceReader, construct, target, source⟩ := by
  obtain ⟨other, hother⟩ := Option.isSome_iff_exists.1 hs
  obtain ⟨h', hmove, hown', hmoved⟩ := Heap.readerMove_bind_spec hown hother hne
  -- both operations are the same
  cases construct with
  | true => exact Resolved.of_move hmove hown' (iff_of_true hmoved trivial)
  | false => exact Resolved.of_move hmove hown' (iff_of_true hmoved trivial)

theorem ipReader_resolved {construct : Bool} (hown : h.Owned) (hne : target ≠ source)
    (hs : (h.readers .ipReader source).isSome) :
    Resolved h ⟨.ipReader, construct, target, source⟩ := by
  obtain ⟨other, hother⟩ := Option.isSome_iff_exists.1 hs
  cases construct with
  | true =>
    obtain ⟨h', hmove, hown', hmoved⟩ := Heap.readerMove_bind_spec hown hother hne
    exact Resolved.of_move hmove hown' (iff_of_true hmoved trivial)
  | false =>
    obtain ⟨h', hmove, hown', hmoved⟩ := Heap.ipReaderMoveAssign_spec hown hother hne
    refine Resolved.of_move hmove hown' (hmoved.trans ?_)
    simp only [Complete, hother, Option.mem_some_iff, forall_eq']

theorem deviceRepository_resolved {construct : Bool} (hown : h.Owned) (hne : target ≠ source)
    (hs : (h.deviceRepositories source).isSome)
    (ht : (h.deviceRepositories target).isSome ↔ construct = false) :
    Resolved h ⟨.deviceRepository, construct, target, source⟩ := by
  obtain ⟨other, hother⟩ := Option.isSome_iff_exists.1 hs
  cases construct with
  | true =>
    obtain ⟨h', hmove, hown', hmoved⟩ := Heap.deviceRepositoryMoveConstruct_spec hown hother hne
    refine Resolved.of_move hmove hown' (hmoved.trans ?_)
    simp only [Complete, hother, Option.mem_some_iff, forall_eq']
  | false =>
    obtain ⟨this, hthis⟩ := Option.isSome_iff_exists.1 (ht.2 rfl)
    obtain ⟨h', hmove, hown', hmoved⟩ := Heap.deviceRepositoryMoveAssign_spec hown hother hthis hne
    refine Resolved.of_move hmove hown' (hmoved.trans ?_)
    simp only [Complete, hother, hthis, Option.mem_some_iff, forall_eq']

theorem lldpRepository_resolved {construct : Bool} (hown : h.Owned) (hne : target ≠ source)
    (hs : (h.lldpRepositories source).isSome)
    (ht : (h.lldpRepositories target).isSome ↔ construct = false) :
    Resolved h ⟨.lldpRepository, construct, target, source⟩ := by
  obtain ⟨other, hother⟩ := Option.isSome_iff_exists.1 hs
  cases construct with
  | true =>
    have hcomplete : Complete h ⟨.lldpRepository, true, target, source⟩ ↔
        other.deviceRepository ≠ none ∧ other.currentState = ∅ := by
      simp only [Complete, hother, Option.mem_some_iff, forall_eq']
    cases hd : other.deviceRepository with
    | none =>
      refine Resolved.of_undefined ?_ hown fun hcontra => (hcomplete.1 hcontra).1 hd
      show h.lldpRepositoryMoveConstruct target source = none
      rw [Heap.lldpRepositoryMoveConstruct, hother]
      exact Heap.setSyncCallback_null hd
    | some d =>
      obtain ⟨h', hmove, hown', hmoved⟩ := Heap.lldpRepositoryMoveConstruct_spec hown hother hne hd
      refine Resolved.of_move hmove hown' (hmoved.trans ?_)
      rw [hcomplete, hd]
      simp only [ne_eq, reduceCtorEq, not_false_eq_true, true_and]
  | false =>
    obtain ⟨this, hthis⟩ := Option.isSome_iff_exists.1 (ht.2 rfl)
    have hcomplete : Complete h ⟨.lldpRepository, false, target, source⟩ ↔
        other.deviceRepository ≠ none ∧ other.currentState = this.currentState := by
      simp only [Complete, hother, hthis, Option.mem_some_iff, forall_eq']
    cases hd : other.deviceRepository with
    | none =>
      refine Resolved.of_undefined ?_ hown fun hcontra => (hcomplete.1 hcontra).1 hd
      show h.lldpRepositoryMoveAssign target source = none
      rw [Heap.lldpRepositoryMoveAssign, hthis, hother]
      exact Heap.setSyncCallback_null hd
    | some d =>
      obtain ⟨h', hmove, hown', hmoved⟩ :=
        Heap.lldpRepositoryMoveAssign_spec hown hother hthis hne hd
      refine Resolved.of_move hmove hown' (hmoved.trans ?_)
      rw [hcomplete, hd]
      simp only [ne_eq, reduceCtorEq, not_false_eq_true, true_and]

/-- **Every move**, in one case for each class. -/
theorem move_resolved (hown : h.Owned) (hpossible : h.Possible m) : Resolved h m := by
  obtain ⟨objects, construct, target, source⟩ := m
  obtain ⟨hne, hs, ht⟩ := hpossible
  cases objects with
  | deviceReader => exact deviceReader_resolved hown hne hs
  | ipReader => exact ipReader_resolved hown hne hs
  | deviceRepository => exact deviceRepository_resolved hown hne hs ht
  | lldpRepository => exact lldpRepository_resolved hown hne hs ht

/-! ## Runs -/

/-- **Along a run of moves, each target takes over exactly if each move is complete.** -/
theorem moves_complete_iff (s : Objects) {moves : List Move}
    (hpossible : Run.Along Heap.step Heap.Possible s.toHeap moves) :
    Run.Along Heap.step Moved s.toHeap moves ↔ Run.Along Heap.step Complete s.toHeap moves := by
  -- the ownership is the invariant that carries both directions
  have hstep : ∀ {P Q : Heap → Move → Prop},
      (∀ h m, Resolved h m → P h m → Q h m) →
      Run.Along Heap.step P s.toHeap moves → Run.Along Heap.step Q s.toHeap moves := by
    intro P Q himp hP
    refine Run.Along.imp (I := Heap.Owned) (fun h m hown hm => ?_) s.owned (hpossible.and hP)
    have hresolved := move_resolved hown hm.1
    exact ⟨hresolved.owned, himp h m hresolved hm.2⟩
  constructor
  · exact hstep fun h m hresolved => hresolved.moved_iff.1
  · exact hstep fun h m hresolved => hresolved.moved_iff.2

/-- One object of each class, and an `IpReader` that was moved from. The LLDP repository owns
the device repository, which owns both readers, and has a sender for the device 3. -/
def running : Heap where
  socketCallback
    | 0 => some (.member (.reader .deviceReader 0) .handleNetlinkPacket)
    | 1 => some (.member (.reader .ipReader 0) .handleNetlinkPacket)
    | 2 => some (.member (.deviceRepository 0) .handleMonitorPackets)
    | _ => none
  readers
    | .deviceReader, 0 => some {
        readerSocket := some 0
        dumpRequestSequenceNumber := some 7
        dumpReadTimeout := 300
        updateCallback := some (.member (.deviceRepository 0) .handleLinkPacket)
        endOfDumpCallback := some (.member (.deviceRepository 0) .deviceReaderFinished)
        dumpErroredCallback := some (.member (.deviceRepository 0) .deviceReaderErrored) }
    | .ipReader, 0 => some {
        readerSocket := some 1
        dumpRequestSequenceNumber := none
        dumpReadTimeout := -1
        updateCallback := some (.member (.deviceRepository 0) .handleAddressPacket)
        endOfDumpCallback := some (.member (.deviceRepository 0) .ipReaderFinished)
        dumpErroredCallback := some (.member (.deviceRepository 0) .ipReaderErrored) }
    | .ipReader, 1 => some .movedFrom
    | _, _ => none
  deviceRepositories
    | 0 => some {
        syncTimeout := -1
        monitor := some 2
        deviceReader := some 0
        ipReader := some 0
        devices := ∅
        synchronizationCallback := some (.member (.lldpRepository 0) .updateState)
        verbose := false }
    | _ => none
  lldpRepositories
    | 0 => some ⟨5, (∅ : ExtTreeMap UInt32 LldpSender).insert 3 ⟨.empty, 0, 5, 0, false⟩, some 0⟩
    | _ => none

theorem running_owned : running.Owned where
  readers c := by
    refine .one 0 fun d i hi => ?_
    cases d with
    | zero =>
      have hzero : running.heldReader c 0 = some 0 := by cases c <;> rfl
      obtain rfl : 0 = i := Option.some.inj (hzero.symm.trans hi)
      refine ⟨rfl, ?_⟩
      cases c <;> rfl
    | succ d => cases hi
  repositories := by
    refine .one 0 fun l d hd => ?_
    cases l with
    | zero =>
      obtain rfl : 0 = d := Option.some.inj hd
      exact ⟨rfl, rfl⟩
    | succ l => cases hd

/-- The same before the first synchronisation: there are no senders. -/
def started : Heap :=
  { running with
    lldpRepositories
      | 0 => some ⟨5, ∅, some 0⟩
      | _ => none }

theorem started_owned : started.Owned where
  readers := running_owned.readers
  repositories := by
    refine .one 0 fun l d hd => ?_
    cases l with
    | zero =>
      obtain rfl : 0 = d := Option.some.inj hd
      exact ⟨rfl, rfl⟩
    | succ l => cases hd

/-- And before the device repository is given to an LLDP repository. -/
def created : Heap :=
  { running with
    deviceRepositories := fun id =>
      (running.deviceRepositories id).map ({ · with synchronizationCallback := none })
    lldpRepositories := fun _ => none }

theorem created_owned : created.Owned where
  readers c := by
    have hheld : created.heldReader c = running.heldReader c := by
      funext d
      cases d with
      | zero => cases c <;> rfl
      | succ d => rfl
    rw [hheld]
    exact running_owned.readers c
  repositories := .one 0 fun l d hd => by cases hd

/-- Before there are senders, the LLDP repository goes to a new place and back. Before it has
its callback, the device repository goes to a new place, after each of the readers. -/
theorem moves_complete_first :
    Run.Along Heap.step Moved started [⟨.lldpRepository, true, 1, 0⟩, ⟨.lldpRepository, false, 0, 1⟩] ∧
    Run.Along Heap.step Moved created [⟨.deviceReader, true, 1, 0⟩, ⟨.deviceReader, false, 0, 1⟩,
      ⟨.ipReader, true, 2, 0⟩, ⟨.deviceRepository, true, 1, 0⟩] := by
  constructor
  · refine (moves_complete_iff ⟨started, started_owned⟩ (by decide)).2 ⟨?_, ?_, trivial⟩
    · intro other hother
      cases hother
      exact ⟨Option.some_ne_none _, rfl⟩
    · intro other hother this hthis
      cases hother
      cases hthis
      exact ⟨Option.some_ne_none _, rfl⟩
  · refine (moves_complete_iff ⟨created, created_owned⟩ (by decide)).2
      ⟨trivial, trivial, trivial, fun other hother => ?_, trivial⟩
    cases hother
    rfl

/-- An `IpReader` is assigned the one with a socket, a new device repository takes over the
old one, and a new LLDP repository the old one: something is left behind each time. -/
theorem moves_incomplete : running.Owned ∧
    ∀ m ∈ ([⟨.ipReader, false, 1, 0⟩, ⟨.deviceRepository, true, 1, 0⟩,
      ⟨.lldpRepository, true, 1, 0⟩] : List Move), running.Possible m ∧ ¬ Moved running m := by
  have hincomplete : ∀ {m}, running.Possible m → ¬ Complete running m →
      running.Possible m ∧ ¬ Moved running m := fun hpossible hnot =>
    ⟨hpossible, fun hmoved => hnot ((move_resolved running_owned hpossible).moved_iff.1 hmoved)⟩
  refine ⟨running_owned, ?_⟩
  simp only [List.forall_mem_cons, List.not_mem_nil, false_imp_iff, implies_true, and_true]
  refine ⟨hincomplete (by decide) fun hcomplete => ?_,
    hincomplete (by decide) fun hcomplete => ?_,
    hincomplete (by decide) fun hcomplete => ?_⟩
  · -- the socket still calls the reader that was moved from
    have hcallback := hcomplete _ rfl 1 rfl _ rfl
    cases hcallback
  · have hnone := hcomplete _ rfl
    cases hnone
  · have hempty := (hcomplete _ rfl).2
    exact ExtTreeMap.insert_ne_empty hempty

end Ndisc.Moves
