import Mathlib.Data.Vector.Basic
import Mathlib.Tactic

/-!
# Bytes on the wire

Byte strings with *partial* access: an index or a slice outside the string is a
`Fault`, so that "this code never reads out of bounds" is a statement about the
result. The writer side is a cursor into a buffer.

* `copyTo_copyTo`: two writes in a row are one write of the joined bytes.
* `beValue_be16`, `be16_beValue`: a 16-bit number and its two bytes.
* `overwrite_middle`: a write over the middle of three parts replaces that part.
-/

namespace Wire

abbrev Bytes := List UInt8

/-- A byte array whose length is fixed by its type. -/
abbrev Octets (n : ℕ) := List.Vector UInt8 n

/-- What can go wrong inside a reader: an access outside the bytes it was given,
or a loop that did not end within its fuel. -/
inductive Fault
  | outOfRange
  | outOfFuel
  deriving DecidableEq, Repr

variable {ε α β : Type}

@[simp] theorem ok_bind (a : α) (f : α → Except ε β) : (Except.ok a >>= f) = f a := rfl

@[simp] theorem error_bind (e : ε) (f : α → Except ε β) :
    ((Except.error e : Except ε α) >>= f) = .error e := rfl

@[simp] theorem pure_eq_ok (a : α) : (pure a : Except ε α) = .ok a := rfl

/-- A result of two steps that can fail comes from a result of each. -/
theorem bind_eq_ok {x : Except ε α} {f : α → Except ε β} {b : β} :
    (x >>= f) = .ok b ↔ ∃ a, x = .ok a ∧ f a = .ok b := by
  cases x with
  | ok a => simp
  | error e => simp

theorem bind_isOk {x : Except ε α} {f : α → Except ε β} :
    (∃ b, (x >>= f) = .ok b) ↔ ∃ a, x = .ok a ∧ ∃ b, f a = .ok b := by
  simp only [bind_eq_ok]
  constructor
  · rintro ⟨b, a, hx, hf⟩
    exact ⟨a, hx, b, hf⟩
  · rintro ⟨a, hx, b, hf⟩
    exact ⟨b, a, hx, hf⟩

/-- What follows without a fault does not matter. -/
theorem bind_ok_isOk {x : Except ε α} (f : α → β) :
    (∃ b, (x >>= fun a => .ok (f a)) = .ok b) ↔ ∃ a, x = .ok a := by
  rw [bind_isOk]
  exact exists_congr fun a => and_iff_left ⟨f a, rfl⟩

/-- A result of two steps stays if each step keeps its own. -/
theorem bind_extend {x x' : Except ε α} {f f' : α → Except ε β}
    (hx : ∀ a, x = .ok a → x' = .ok a) (hf : ∀ a b, f a = .ok b → f' a = .ok b) (b : β)
    (h : (x >>= f) = .ok b) : (x' >>= f') = .ok b := by
  obtain ⟨a, ha, hb⟩ := bind_eq_ok.1 h
  exact bind_eq_ok.2 ⟨a, hx a ha, hf a b hb⟩

/-! ## Reading -/

/-- One byte. -/
def byteAt (bs : Bytes) (i : ℕ) : Except Fault UInt8 :=
  match bs[i]? with
  | some b => .ok b
  | none => .error .outOfRange

/-- The slice of `len` bytes from `off`. -/
def subspan (bs : Bytes) (off len : ℕ) : Except Fault Bytes :=
  if off + len ≤ bs.length then .ok ((bs.drop off).take len) else .error .outOfRange

/-- Everything from `off` on. -/
def subspanFrom (bs : Bytes) (off : ℕ) : Except Fault Bytes :=
  if off ≤ bs.length then .ok (bs.drop off) else .error .outOfRange

/-- A slice of a length fixed by the type. -/
def fixedSpan (bs : Bytes) (off n : ℕ) : Except Fault (Octets n) :=
  if h : off + n ≤ bs.length then
    .ok ⟨(bs.drop off).take n, by rw [List.length_take, List.length_drop]; omega⟩
  else .error .outOfRange

@[simp] theorem byteAt_zero (a : UInt8) (bs : Bytes) : byteAt (a :: bs) 0 = .ok a := rfl

@[simp] theorem byteAt_succ (a : UInt8) (bs : Bytes) (i : ℕ) :
    byteAt (a :: bs) (i + 1) = byteAt bs i := by simp [byteAt]

theorem byteAt_ok {bs : Bytes} {i : ℕ} (h : i < bs.length) : byteAt bs i = .ok bs[i] := by
  simp [byteAt, List.getElem?_eq_getElem h]

theorem byteAt_error {bs : Bytes} {i : ℕ} (h : bs.length ≤ i) :
    byteAt bs i = .error .outOfRange := by
  simp [byteAt, List.getElem?_eq_none h]

theorem subspan_ok {bs : Bytes} {off len : ℕ} (h : off + len ≤ bs.length) :
    subspan bs off len = .ok ((bs.drop off).take len) := if_pos h

theorem subspanFrom_ok {bs : Bytes} {off : ℕ} (h : off ≤ bs.length) :
    subspanFrom bs off = .ok (bs.drop off) := if_pos h

theorem fixedSpan_ok {bs : Bytes} {off n : ℕ} (h : off + n ≤ bs.length) :
    ∃ o : Octets n, fixedSpan bs off n = .ok o ∧ o.toList = (bs.drop off).take n := by
  refine ⟨⟨(bs.drop off).take n, by rw [List.length_take, List.length_drop]; omega⟩, ?_, rfl⟩
  simp only [fixedSpan, dif_pos h]

theorem fixedSpan_error {bs : Bytes} {off n : ℕ} (h : bs.length < off + n) :
    fixedSpan bs off n = .error .outOfRange := dif_neg (Nat.not_le.2 h)

theorem fixedSpan_isOk {bs : Bytes} {off n : ℕ} :
    (∃ o, fixedSpan bs off n = .ok o) ↔ off + n ≤ bs.length := by
  constructor
  · rintro ⟨o, ho⟩
    by_contra hout
    rw [fixedSpan_error (Nat.not_le.1 hout)] at ho
    cases ho
  · intro hin
    obtain ⟨o, ho, -⟩ := fixedSpan_ok hin
    exact ⟨o, ho⟩

/-- A fixed slice that sits between two known parts. -/
theorem fixedSpan_append (pre post : Bytes) {n : ℕ} (o : Octets n) :
    fixedSpan (pre ++ o.toList ++ post) pre.length n = .ok o := by
  have hlen : pre.length + n ≤ (pre ++ o.toList ++ post).length := by simp
  obtain ⟨o', he, ho'⟩ := fixedSpan_ok hlen
  have ho : o'.toList = o.toList := by
    rw [ho', List.append_assoc, List.drop_left, List.take_left' o.toList_length]
  rw [he, List.Vector.eq o' o ho]

/-- A slice that sits between two known parts. -/
theorem subspan_append (pre mid post : Bytes) :
    subspan (pre ++ mid ++ post) pre.length mid.length = .ok mid := by
  have hlen : pre.length + mid.length ≤ (pre ++ mid ++ post).length := by
    rw [List.length_append, List.length_append]
    omega
  rw [subspan_ok hlen, List.append_assoc, List.drop_left, List.take_left]

/-- More bytes do not change a slice. -/
theorem fixedSpan_extend {bs rest : Bytes} {off n : ℕ} (o : Octets n) (h : fixedSpan bs off n = .ok o) :
    fixedSpan (bs ++ rest) off n = .ok o := by
  have hin := fixedSpan_isOk.1 ⟨o, h⟩
  obtain ⟨o₁, ho₁, hbytes₁⟩ := fixedSpan_ok hin
  obtain ⟨o₂, ho₂, hbytes₂⟩ := fixedSpan_ok
    (show off + n ≤ (bs ++ rest).length by rw [List.length_append]; omega)
  have hsame : o₂.toList = o₁.toList := by
    rw [hbytes₁, hbytes₂, List.drop_append_of_le_length (by omega),
      List.take_append_of_le_length (by rw [List.length_drop]; omega)]
  rw [ho₂, List.Vector.eq o₂ o₁ hsame, ← ho₁, h]

theorem subspan_extend {bs rest : Bytes} {off len : ℕ} (bytes : Bytes) (h : subspan bs off len = .ok bytes) :
    subspan (bs ++ rest) off len = .ok bytes := by
  unfold subspan at h
  split at h
  · rename_i hin
    rw [subspan_ok (by rw [List.length_append]; omega), ← h,
      List.drop_append_of_le_length (by omega),
      List.take_append_of_le_length (by rw [List.length_drop]; omega)]
  · cases h

/-! ## Writing -/

/-- A buffer and the place in it where the next byte goes. -/
structure Cursor where
  buf : Bytes
  pos : ℕ
  inBuf : pos ≤ buf.length

/-- The start of a buffer. -/
def Cursor.start (buf : Bytes) : Cursor := ⟨buf, 0, Nat.zero_le _⟩

/-- Copy `src` over the buffer from the cursor on, and move past it. A copy that
does not fit makes the buffer longer. -/
def Cursor.copyTo (c : Cursor) (src : Bytes) : Cursor where
  buf := c.buf.take c.pos ++ src ++ c.buf.drop (c.pos + src.length)
  pos := c.pos + src.length
  inBuf := by
    have := c.inBuf
    simp only [List.length_append, List.length_take, List.length_drop]
    omega

@[simp] theorem Cursor.copyTo_pos (c : Cursor) (src : Bytes) :
    (c.copyTo src).pos = c.pos + src.length := rfl

theorem Cursor.eq_of {c d : Cursor} (hb : c.buf = d.buf) (hp : c.pos = d.pos) : c = d := by
  cases c; cases d; cases hb; cases hp; rfl

/-- A copy that fits keeps the length of the buffer. -/
theorem Cursor.copyTo_length (c : Cursor) {src : Bytes} (h : c.pos + src.length ≤ c.buf.length) :
    (c.copyTo src).buf.length = c.buf.length := by
  simp only [copyTo, List.length_append, List.length_take, List.length_drop]
  omega

/-- **Two writes in a row are one write of the joined bytes.** -/
theorem Cursor.copyTo_copyTo (c : Cursor) (a b : Bytes) :
    (c.copyTo a).copyTo b = c.copyTo (a ++ b) := by
  have hpos := c.inBuf
  have hp : (c.buf.take c.pos ++ a).length = c.pos + a.length := by
    simp only [List.length_append, List.length_take]; omega
  have htake : (c.buf.take c.pos ++ a ++ c.buf.drop (c.pos + a.length)).take (c.pos + a.length) =
      c.buf.take c.pos ++ a := List.take_left' hp
  have hdrop : (c.buf.take c.pos ++ a ++ c.buf.drop (c.pos + a.length)).drop
      (c.pos + (a.length + b.length)) = c.buf.drop (c.pos + (a.length + b.length)) := by
    rw [← Nat.add_assoc, ← List.drop_drop, List.drop_left' hp, List.drop_drop]
  apply Cursor.eq_of
  · simp only [copyTo, htake, hdrop, List.length_append, Nat.add_assoc]
    simp only [List.append_assoc]
  · simp only [copyTo, List.length_append, Nat.add_assoc]

/-- A loop of writes is one write of everything. -/
theorem Cursor.foldl_copyTo {α : Type*} (enc : α → Bytes) (xs : List α) (c : Cursor) :
    xs.foldl (fun c x => c.copyTo (enc x)) c = c.copyTo (xs.flatMap enc) := by
  induction xs generalizing c with
  | nil =>
    apply Cursor.eq_of
    · simp [copyTo]
    · simp
  | cons x xs ih => rw [List.foldl_cons, ih, copyTo_copyTo, List.flatMap_cons]

/-- A write that fills the whole buffer leaves nothing of what it held. -/
theorem Cursor.copyTo_full (buf src : Bytes) (h : src.length = buf.length) :
    ((Cursor.start buf).copyTo src).buf = src := by
  simp [copyTo, start, h]

/-- `std::vector::resize`: cut at the end, or filled up with zeros. -/
def resize (buf : Bytes) (n : ℕ) : Bytes := buf.take n ++ List.replicate (n - buf.length) 0

@[simp] theorem resize_length (buf : Bytes) (n : ℕ) : (resize buf n).length = n := by
  simp only [resize, List.length_append, List.length_take, List.length_replicate]; omega

/-! ## Arrays -/

/-- Copy `src` into an array from `off` on. -/
def overwrite (dst : Bytes) (off : ℕ) (src : Bytes) : Bytes :=
  dst.take off ++ src ++ dst.drop (off + src.length)

/-- **A write over the middle of three parts replaces that part.** -/
theorem overwrite_middle (pre mid post src : Bytes) (h : src.length = mid.length) :
    overwrite (pre ++ mid ++ post) pre.length src = pre ++ src ++ post := by
  have htake : (pre ++ mid ++ post).take pre.length = pre := by
    rw [List.append_assoc]; exact List.take_left' rfl
  have hdrop : (pre ++ mid ++ post).drop (pre.length + src.length) = post :=
    List.drop_left' (by rw [List.length_append, h])
  rw [overwrite, htake, hdrop]

/-- Two arrays, one after the other. -/
def join {m n : ℕ} (a : Octets m) (b : Octets n) : Octets (m + n) :=
  ⟨a.toList ++ b.toList, by rw [List.length_append, a.toList_length, b.toList_length]⟩

@[simp] theorem toList_join {m n : ℕ} (a : Octets m) (b : Octets n) :
    (join a b).toList = a.toList ++ b.toList := rfl

/-- A slice of an array. -/
def slice {m : ℕ} (d : Octets m) (off n : ℕ) (h : off + n ≤ m := by decide) : Octets n :=
  ⟨(d.toList.drop off).take n, by rw [List.length_take, List.length_drop, d.toList_length]; omega⟩

/-- The slice that sits between two known parts. -/
theorem slice_eq {m off n : ℕ} {d : Octets m} {h : off + n ≤ m} {o : Octets n} (pre post : Bytes)
    (hd : d.toList = pre ++ o.toList ++ post) (hpre : pre.length = off) : slice d off n h = o := by
  apply List.Vector.eq
  show (d.toList.drop off).take n = o.toList
  rw [hd, List.append_assoc, List.drop_left' hpre, List.take_left' o.toList_length]

/-- Copy `src` to the front of an array of zeros, if it fits. -/
def copyFront (n : ℕ) (src : Bytes) : Option (Octets n) :=
  if h : src.length ≤ n then
    some ⟨src ++ List.replicate (n - src.length) 0, by
      rw [List.length_append, List.length_replicate]; omega⟩
  else none

theorem copyFront_some {n : ℕ} {src : Bytes} (h : src.length ≤ n) :
    ∃ o : Octets n, copyFront n src = some o ∧
      o.toList = src ++ List.replicate (n - src.length) 0 := by
  refine ⟨⟨src ++ List.replicate (n - src.length) 0, ?_⟩, dif_pos h, rfl⟩
  rw [List.length_append, List.length_replicate]; omega

theorem copyFront_none {n : ℕ} {src : Bytes} (h : n < src.length) : copyFront n src = none :=
  dif_neg (Nat.not_le.2 h)

/-! ## Little-endian numbers -/

/-- The `k` bytes of a number, the least significant one first. -/
def leBytes : ℕ → ℕ → Bytes
  | 0, _ => []
  | k + 1, n => UInt8.ofNat n :: leBytes k (n / 256)

/-- The number bytes spell, the least significant one first. -/
def leValue : Bytes → ℕ
  | [] => 0
  | b :: bs => b.toNat + 256 * leValue bs

@[simp] theorem leBytes_length (k n : ℕ) : (leBytes k n).length = k := by
  induction k generalizing n with
  | zero => rfl
  | succ k ih => rw [leBytes, List.length_cons, ih]

/-- **Spelling a number and reading it back**, as far as the bytes go. -/
theorem leValue_leBytes (k n : ℕ) : leValue (leBytes k n) = n % 256 ^ k := by
  induction k generalizing n with
  | zero => rw [leBytes, leValue, pow_zero, Nat.mod_one]
  | succ k ih =>
    have hb : (UInt8.ofNat n).toNat = n % 256 := UInt8.toNat_ofNat'
    rw [leBytes, leValue, ih, hb, pow_succ, Nat.mul_comm (256 ^ k) 256, Nat.mod_mul]

/-- A number as an array of its bytes. -/
def leOctets (k n : ℕ) : Octets k := ⟨leBytes k n, leBytes_length k n⟩

theorem leValue_leOctets {k n : ℕ} (h : n < 256 ^ k) : leValue (leOctets k n).toList = n := by
  rw [show (leOctets k n).toList = leBytes k n from rfl, leValue_leBytes, Nat.mod_eq_of_lt h]

/-! ## Big-endian numbers -/

/-- The number two bytes spell, the most significant one first. -/
def beValue (hi lo : UInt8) : ℕ := hi.toNat * 256 + lo.toNat

/-- The two bytes of a 16-bit number, the most significant one first. -/
def be16 (n : ℕ) : Bytes := [UInt8.ofNat (n / 256), UInt8.ofNat n]

/-- The four bytes of a 32-bit number, the most significant one first. -/
def be32 (n : UInt32) : Bytes :=
  [UInt8.ofNat (n.toNat / 16777216), UInt8.ofNat (n.toNat / 65536), UInt8.ofNat (n.toNat / 256),
    UInt8.ofNat n.toNat]

@[simp] theorem be16_length (n : ℕ) : (be16 n).length = 2 := rfl

@[simp] theorem be32_length (n : UInt32) : (be32 n).length = 4 := rfl

theorem beValue_lt (hi lo : UInt8) : beValue hi lo < 65536 := by
  have h1 := hi.toNat_lt
  have h2 := lo.toNat_lt
  unfold beValue; omega

/-- Spelling a 16-bit number and reading it back. -/
theorem beValue_be16 {n : ℕ} (h : n < 65536) :
    beValue (UInt8.ofNat (n / 256)) (UInt8.ofNat n) = n := by
  simp only [beValue, UInt8.toNat_ofNat']
  omega

/-- Reading two bytes and spelling them again. -/
theorem be16_beValue (hi lo : UInt8) : be16 (beValue hi lo) = [hi, lo] := by
  have h1 := hi.toNat_lt
  have h2 := lo.toNat_lt
  have hd : beValue hi lo / 256 = hi.toNat := by unfold beValue; omega
  have hm : UInt8.ofNat (beValue hi lo) = lo := by
    apply UInt8.toNat_inj.1
    simp only [UInt8.toNat_ofNat', beValue]; omega
  rw [be16, hd, hm, UInt8.ofNat_toNat]

end Wire
