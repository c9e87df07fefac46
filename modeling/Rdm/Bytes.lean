/-! `Bytes.ofNat` writes a number into a fixed count of bytes, most significant first,
and `Bytes.toNat` reads a byte string back. The two undo each other: for numbers that
fit the width, and for byte strings of that width. -/
namespace Rdm

abbrev Bytes := List UInt8

namespace Bytes

def capacity : (width : Nat) → Nat
  | 0 => 1
  | width + 1 => 256 * capacity width

/-- The low `width` bytes of a number, most significant first. -/
def ofNat : (width n : Nat) → Bytes
  | 0, _ => []
  | width + 1, n => UInt8.ofNat (n / capacity width) :: ofNat width n

/-- The big-endian value of a byte string; the empty one is worth zero. -/
def toNat : Bytes → Nat
  | [] => 0
  | byte :: rest => byte.toNat * capacity rest.length + toNat rest

/-- The `width` bytes from `offset` on, fewer where the string ends before that. -/
def slice (bytes : Bytes) (offset width : Nat) : Bytes :=
  (bytes.drop offset).take width

def numberAt (bytes : Bytes) (offset width : Nat) : Nat :=
  toNat (bytes.slice offset width)

/-- The byte at `offset`; zero behind the end. -/
def byteAt (bytes : Bytes) (offset : Nat) : UInt8 :=
  bytes.getD offset 0

/-- The number that has these bits, the first one lowest. -/
def valueOfBits : List Bool → Nat
  | [] => 0
  | bit :: rest => bit.toNat + 2 * valueOfBits rest

/-- Bits packed eight to a byte, from the lowest bit of the first byte upwards. -/
def ofBits : (width : Nat) → List Bool → Bytes
  | 0, _ => []
  | width + 1, bits => UInt8.ofNat (valueOfBits (bits.take 8)) :: ofBits width (bits.drop 8)

theorem capacity_pos (width : Nat) : 0 < capacity width := by
  induction width with
  | zero => exact Nat.one_pos
  | succ width ih => exact Nat.mul_pos (by decide) ih

theorem capacity_add (m n : Nat) : capacity (m + n) = capacity m * capacity n := by
  induction m with
  | zero => simp [capacity]
  | succ m ih => rw [Nat.succ_add, capacity, ih, capacity, Nat.mul_assoc]

@[simp] theorem length_ofNat (width n : Nat) : (ofNat width n).length = width := by
  induction width with
  | zero => rfl
  | succ width ih => simp [ofNat, ih]

@[simp] theorem length_ofBits (width : Nat) (bits : List Bool) :
    (ofBits width bits).length = width := by
  induction width generalizing bits with
  | zero => rfl
  | succ width ih => simp [ofBits, ih]

theorem length_slice (bytes : Bytes) (offset width : Nat) :
    (bytes.slice offset width).length = min width (bytes.length - offset) := by
  simp [slice]

theorem toNat_lt (bytes : Bytes) : toNat bytes < capacity bytes.length := by
  induction bytes with
  | nil => exact Nat.one_pos
  | cons byte rest ih =>
    have hb : byte.toNat < 256 := byte.toNat_lt
    calc toNat (byte :: rest)
        < byte.toNat * capacity rest.length + capacity rest.length := Nat.add_lt_add_left ih _
      _ = (byte.toNat + 1) * capacity rest.length := (Nat.succ_mul _ _).symm
      _ ≤ 256 * capacity rest.length := Nat.mul_le_mul_right _ hb

theorem toNat_append (front back : Bytes) :
    toNat (front ++ back) = toNat front * capacity back.length + toNat back := by
  induction front with
  | nil => simp [toNat]
  | cons byte rest ih =>
    simp only [List.cons_append, toNat, ih, List.length_append, capacity_add, Nat.add_mul,
      Nat.mul_assoc, Nat.add_assoc]

/-- Writing keeps a number modulo what the width can hold. -/
theorem toNat_ofNat (width n : Nat) : toNat (ofNat width n) = n % capacity width := by
  induction width with
  | zero => simp [ofNat, toNat, capacity, Nat.mod_one]
  | succ width ih =>
    have hmod : n % capacity (width + 1) =
        n % capacity width + capacity width * (n / capacity width % 256) := by
      rw [capacity, Nat.mul_comm, Nat.mod_mul]
    simp only [ofNat, toNat, length_ofNat, ih, UInt8.toNat_ofNat']
    rw [hmod, Nat.mul_comm, Nat.add_comm]

theorem toNat_ofNat_of_lt {width n : Nat} (h : n < capacity width) :
    toNat (ofNat width n) = n := by
  rw [toNat_ofNat, Nat.mod_eq_of_lt h]

@[simp] theorem toNat_ofNat_word (word : UInt16) : toNat (ofNat 2 word.toNat) = word.toNat :=
  toNat_ofNat_of_lt word.toNat_lt

@[simp] theorem toNat_ofNat_long (long : UInt32) : toNat (ofNat 4 long.toNat) = long.toNat :=
  toNat_ofNat_of_lt long.toNat_lt

theorem numberAt_lt (bytes : Bytes) (offset width : Nat) :
    bytes.numberAt offset width < capacity width := by
  have short : (bytes.slice offset width).length ≤ width := by
    rw [length_slice]
    exact Nat.min_le_left _ _
  obtain ⟨missing, hmissing⟩ := Nat.exists_eq_add_of_le short
  calc bytes.numberAt offset width
      < capacity (bytes.slice offset width).length := toNat_lt _
    _ ≤ capacity (bytes.slice offset width).length * capacity missing :=
        Nat.le_mul_of_pos_right _ (capacity_pos missing)
    _ = capacity width := by rw [← capacity_add, ← hmissing]

theorem ofNat_congr {width m n : Nat} (h : m % capacity width = n % capacity width) :
    ofNat width m = ofNat width n := by
  induction width with
  | zero => rfl
  | succ width ih =>
    rw [capacity, Nat.mul_comm] at h
    have low : m % capacity width = n % capacity width := by
      have := congrArg (· % capacity width) h
      simpa [Nat.mod_mul_right_mod] using this
    have high : m / capacity width % 256 = n / capacity width % 256 := by
      rw [← Nat.mod_mul_right_div_self, ← Nat.mod_mul_right_div_self, h]
    simp only [ofNat, ih low]
    congr 1
    exact UInt8.toNat_inj.1 (by simpa using high)

/-- A byte string is what writing its value over its own length gives. -/
theorem ofNat_toNat (bytes : Bytes) : ofNat bytes.length (toNat bytes) = bytes := by
  induction bytes with
  | nil => rfl
  | cons byte rest ih =>
    have hlt := toNat_lt rest
    have hpos := capacity_pos rest.length
    have head : (byte.toNat * capacity rest.length + toNat rest) / capacity rest.length =
        byte.toNat := by
      rw [Nat.mul_comm, Nat.mul_add_div hpos, Nat.div_eq_of_lt hlt, Nat.add_zero]
    have tail : ofNat rest.length (byte.toNat * capacity rest.length + toNat rest) = rest := by
      conv => rhs; rw [← ih]
      exact ofNat_congr (by rw [Nat.mul_comm, Nat.mul_add_mod])
    simp [ofNat, toNat, head, tail]

theorem toNat_inj {first second : Bytes} (size : first.length = second.length)
    (h : toNat first = toNat second) : first = second := by
  rw [← ofNat_toNat first, ← ofNat_toNat second, size, h]

theorem ofNat_numberAt {bytes : Bytes} {offset width : Nat} (h : offset + width ≤ bytes.length) :
    ofNat width (bytes.numberAt offset width) = bytes.slice offset width := by
  have size : (bytes.slice offset width).length = width := by
    rw [length_slice]
    omega
  have written := ofNat_toNat (bytes.slice offset width)
  rwa [size] at written

theorem slice_append_slice (bytes : Bytes) (offset first second : Nat) :
    bytes.slice offset first ++ bytes.slice (offset + first) second =
      bytes.slice offset (first + second) := by
  rw [slice, slice, slice, ← List.drop_drop, List.take_add]

theorem slice_all {bytes : Bytes} {width : Nat} (h : bytes.length = width) :
    bytes.slice 0 width = bytes :=
  List.take_of_length_le (Nat.le_of_eq h)

theorem slice_append_left {front : Bytes} {width : Nat} (h : front.length = width)
    (back : Bytes) : (front ++ back).slice 0 width = front := by
  simp [slice, ← h]

theorem slice_append_right {front back : Bytes} {offset width : Nat}
    (hfront : front.length = offset) (hback : back.length = width) :
    (front ++ back).slice offset width = back := by
  simp [slice, ← hfront, ← hback]

theorem slice_one {bytes : Bytes} {offset : Nat} (h : offset < bytes.length) :
    bytes.slice offset 1 = [bytes.byteAt offset] := by
  have read : bytes.byteAt offset = bytes[offset] := by simp [byteAt, h]
  rw [slice, List.drop_eq_getElem_cons h, read]
  rfl

theorem byteAt_drop (bytes : Bytes) (offset index : Nat) :
    byteAt (bytes.drop offset) index = bytes.byteAt (offset + index) := by
  simp [byteAt]

theorem slice_slice {bytes : Bytes} {outer outerWidth inner width : Nat}
    (h : inner + width ≤ outerWidth) :
    (bytes.slice outer outerWidth).slice inner width = bytes.slice (outer + inner) width := by
  have within : min width (outerWidth - inner) = width := by omega
  rw [slice, slice, slice, List.drop_take, List.take_take, List.drop_drop, within]

end Bytes

end Rdm
