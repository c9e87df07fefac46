import Rdm.Packet.Basic

/-! Every packet ends in the sum of the bytes before it, modulo 2^16. A sender sums the
spans of a packet one by one, a receiver sums the packet in one piece. -/
namespace Rdm.Checksum

def sum (bytes : Bytes) : UInt16 :=
  bytes.foldl (fun total byte => total + byte.toUInt16) 0

def sumSpans (spans : List Bytes) : UInt16 :=
  spans.foldl (fun total span => total + sum span) 0

def exactSum : Bytes → Nat
  | [] => 0
  | byte :: rest => byte.toNat + exactSum rest

def toBytes (total : UInt16) : Bytes :=
  Bytes.ofNat Packet.checksumSize total.toNat

/-- The last two bytes are the big-endian sum of those before them.
Nothing shorter than the smallest packet verifies. -/
def verify (packet : Bytes) : Bool :=
  let bodySize := packet.length - Packet.checksumSize
  decide (Packet.minSize ≤ packet.length) &&
    (sum (packet.take bodySize)).toNat == Bytes.toNat (packet.drop bodySize)

@[simp] theorem length_toBytes (total : UInt16) :
    (toBytes total).length = Packet.checksumSize := by
  simp [toBytes]

theorem foldl_eq_add_sum (total : UInt16) (bytes : Bytes) :
    bytes.foldl (fun total byte => total + byte.toUInt16) total = total + sum bytes := by
  induction bytes generalizing total with
  | nil => simp [sum]
  | cons byte rest ih =>
    rw [sum, List.foldl_cons, List.foldl_cons, ih, ih (0 + byte.toUInt16), UInt16.zero_add,
      UInt16.add_assoc]

theorem sum_append (front back : Bytes) : sum (front ++ back) = sum front + sum back := by
  rw [sum, List.foldl_append, foldl_eq_add_sum, ← sum]

/-- Summing span by span comes to the same as summing the whole. -/
theorem sumSpans_eq_sum_flatten (spans : List Bytes) : sumSpans spans = sum spans.flatten := by
  have general : ∀ total, spans.foldl (fun total span => total + sum span) total =
      total + sum spans.flatten := by
    induction spans with
    | nil => intro total; simp [sum]
    | cons span rest ih =>
      intro total
      rw [List.foldl_cons, ih, List.flatten_cons, sum_append, UInt16.add_assoc]
  rw [sumSpans, general, UInt16.zero_add]

theorem verify_append_toBytes {body : Bytes} (h : Packet.headerSize ≤ body.length) :
    verify (body ++ toBytes (sum body)) = true := by
  have size : Packet.minSize ≤ body.length + Packet.checksumSize :=
    Nat.add_le_add_right h _
  simpa [verify, toBytes, Packet.checksumSize] using size

/-- What verifies closes with its own sum. -/
theorem append_toBytes_of_verify {packet : Bytes} (verified : verify packet = true) :
    packet.take (packet.length - Packet.checksumSize) ++
      toBytes (sum (packet.take (packet.length - Packet.checksumSize))) = packet := by
  simp only [verify, Bool.and_eq_true, decide_eq_true_eq, beq_iff_eq] at verified
  obtain ⟨minSize, closes⟩ := verified
  have size : (packet.drop (packet.length - Packet.checksumSize)).length =
      Packet.checksumSize := by
    simp only [Packet.minSize, Packet.headerSize, Packet.checksumSize] at minSize
    simp only [List.length_drop, Packet.checksumSize]
    omega
  have written := Bytes.ofNat_toNat (packet.drop (packet.length - Packet.checksumSize))
  rw [size] at written
  rw [toBytes, closes, written, List.take_append_drop]

/-- The wrapping sum is the exact one modulo 2^16. -/
theorem toNat_sum (bytes : Bytes) : (sum bytes).toNat = exactSum bytes % 65536 := by
  induction bytes with
  | nil => rfl
  | cons byte rest ih =>
    rw [sum, List.foldl_cons, foldl_eq_add_sum, UInt16.zero_add, UInt16.toNat_add, ih, exactSum,
      UInt8.toNat_toUInt16, Nat.add_mod_mod]

theorem exactSum_le (bytes : Bytes) : exactSum bytes ≤ 255 * bytes.length := by
  induction bytes with
  | nil => exact Nat.le_refl 0
  | cons byte rest ih =>
    have largest : byte.toNat < 256 := byte.toNat_lt
    simp only [exactSum, List.length_cons]
    omega

/-- In front of the checksum of a packet no sum is large enough to wrap. -/
theorem exactSum_lt {packet : Bytes} (maxSize : packet.length ≤ Packet.maxSize) :
    exactSum (packet.take (packet.length - Packet.checksumSize)) < 65536 := by
  have largest := exactSum_le (packet.take (packet.length - Packet.checksumSize))
  simp only [List.length_take, Packet.checksumSize, Packet.maxSize] at *
  omega

theorem verify_iff_exactSum {packet : Bytes} (minSize : Packet.minSize ≤ packet.length)
    (maxSize : packet.length ≤ Packet.maxSize) :
    verify packet = true ↔
      exactSum (packet.take (packet.length - Packet.checksumSize)) =
        Bytes.toNat (packet.drop (packet.length - Packet.checksumSize)) := by
  simp [verify, minSize, toNat_sum, Nat.mod_eq_of_lt (exactSum_lt maxSize)]

theorem verify_eq_false_of_length_lt {packet : Bytes} (h : packet.length < Packet.minSize) :
    verify packet = false := by
  simp [verify, Nat.not_le.2 h]

end Rdm.Checksum
