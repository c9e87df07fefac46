import Rdm.Discovery.Frame

/-! A byte goes out as a pair, with the bits of one mask forced in its first half and
those of the other mask in the second; pairs and bytes are one to one (`isPair_iff`).
`Frame.Spells` says by offsets what a controller finds in a sound frame. Only one byte
string has it (`Frame.spells_iff`), so a controller reads a device out of a frame
exactly where the frame is that of the device (`Frame.uid?_eq_some_iff`). -/
namespace Rdm.Discovery

theorem or_and_distrib (byte first second : UInt8) :
    byte ||| first &&& second = (byte ||| first) &&& (byte ||| second) := by
  apply UInt8.toNat_inj.1
  simp [Nat.or_and_distrib_left]

theorem or_and_mask (byte mask : UInt8) : (byte ||| mask) &&& mask = mask := by
  apply UInt8.toNat_inj.1
  apply Nat.eq_of_testBit_eq
  intro bit
  rw [UInt8.toNat_and, UInt8.toNat_or, Nat.testBit_and, Nat.testBit_or]
  cases mask.toNat.testBit bit <;> simp

theorem or_of_forced {byte mask : UInt8} (forced : byte &&& mask = mask) :
    byte ||| mask = byte := by
  have set : byte.toNat &&& mask.toNat = mask.toNat := by rw [← UInt8.toNat_and, forced]
  apply UInt8.toNat_inj.1
  apply Nat.eq_of_testBit_eq
  intro bit
  rw [UInt8.toNat_or, ← set, Nat.testBit_or, Nat.testBit_and]
  cases byte.toNat.testBit bit <;> rfl

theorem and_or_mask {half other mask rest : UInt8} (complete : rest ||| mask = -1)
    (forced : half &&& mask = mask) (otherForced : other &&& rest = rest) :
    half &&& other ||| mask = half := by
  calc half &&& other ||| mask
      = (half ||| mask) &&& (other ||| mask) := by
        rw [UInt8.or_comm, or_and_distrib, UInt8.or_comm mask, UInt8.or_comm mask]
    _ = half &&& (other ||| rest ||| mask) := by
        rw [or_of_forced forced, or_of_forced otherForced]
    _ = half := by
        rw [UInt8.or_assoc, complete, UInt8.or_neg_one, UInt8.and_neg_one]

/-- Two bytes of a frame that stand for one: the forced bits are set, and of the others both
have in common what the byte has. -/
structure IsPair (high low byte : UInt8) : Prop where
  forcedHigh : high &&& 0xAA = 0xAA
  forcedLow : low &&& 0x55 = 0x55
  value : high &&& low = byte

theorem isPair_iff {high low byte : UInt8} :
    IsPair high low byte ↔ high = byte ||| highMask ∧ low = byte ||| lowMask := by
  constructor
  · rintro ⟨forcedHigh, forcedLow, rfl⟩
    constructor
    · exact (and_or_mask (by decide) forcedHigh forcedLow).symm
    · -- the other half, with the masks exchanged
      rw [UInt8.and_comm]
      exact (and_or_mask (by decide) forcedLow forcedHigh).symm
  · rintro ⟨rfl, rfl⟩
    refine ⟨or_and_mask _ _, or_and_mask _ _, ?_⟩
    have disjoint : highMask &&& lowMask = 0 := by decide
    rw [← or_and_distrib, disjoint, UInt8.or_zero]

theorem encodePairs_cons (byte : UInt8) (rest : Bytes) :
    encodePairs (byte :: rest) = (byte ||| highMask) :: (byte ||| lowMask) :: encodePairs rest :=
  rfl

theorem encodePairs_append (front back : Bytes) :
    encodePairs (front ++ back) = encodePairs front ++ encodePairs back :=
  List.flatMap_append

theorem length_of_eq_encodePairs {encoded bytes : Bytes} {count : Nat}
    (pairs : encoded = encodePairs bytes) (size : encoded.length = 2 * count) :
    bytes.length = count := by
  rw [pairs, length_encodePairs] at size
  omega

theorem decodePairs_encodePairs (bytes : Bytes) : decodePairs (encodePairs bytes) = some bytes := by
  induction bytes with
  | nil => rfl
  | cons byte rest ih =>
    have pair : IsPair (byte ||| highMask) (byte ||| lowMask) byte := isPair_iff.2 ⟨rfl, rfl⟩
    rw [encodePairs_cons, decodePairs, if_pos ⟨pair.forcedHigh, pair.forcedLow⟩, ih, pair.value]
    rfl

/-- What is decoded is what was encoded, bit for bit. -/
theorem decodePairs_eq_some_iff {encoded bytes : Bytes} :
    decodePairs encoded = some bytes ↔ encoded = encodePairs bytes := by
  constructor
  · intro decoded
    fun_induction decodePairs encoded generalizing bytes with
    | case1 =>
      cases decoded
      rfl
    | case2 high low rest forced ih =>
      obtain ⟨word, read, rfl⟩ := Option.map_eq_some_iff.1 decoded
      obtain ⟨first, second⟩ := isPair_iff.1 ⟨forced.1, forced.2, rfl⟩
      rw [encodePairs_cons, ← first, ← second, ih read]
    | case3 | case4 => contradiction
  · rintro rfl
    exact decodePairs_encodePairs bytes

theorem eq_encodePairs_iff {encoded bytes : Bytes} :
    encoded = encodePairs bytes ↔
      encoded.length = 2 * bytes.length ∧
        ∀ index < bytes.length, IsPair (encoded.byteAt (2 * index))
          (encoded.byteAt (2 * index + 1)) (bytes.byteAt index) := by
  induction bytes generalizing encoded with
  | nil => simp [encodePairs]
  | cons byte rest ih =>
    match encoded with
    | [] => simp [encodePairs_cons]
    | [half] =>
      simp only [encodePairs_cons, List.length_cons, List.length_nil]
      simp
      omega
    | high :: low :: tail =>
      have size : (high :: low :: tail).length = 2 * (byte :: rest).length ↔
          tail.length = 2 * rest.length := by
        simp only [List.length_cons]
        omega
      have first : IsPair high low byte ↔ high = byte ||| highMask ∧ low = byte ||| lowMask :=
        isPair_iff
      rw [encodePairs_cons, List.cons.injEq, List.cons.injEq, ih, size, List.length_cons,
        Nat.forall_lt_succ_left, ← and_assoc, ← first]
      exact and_left_comm

theorem take_encodePairs (bytes : Bytes) (count : Nat) :
    (encodePairs bytes).take (2 * count) = encodePairs (bytes.take count) := by
  induction bytes generalizing count with
  | nil => simp [encodePairs]
  | cons byte rest ih =>
    cases count with
    | zero => rfl
    | succ count =>
      rw [List.take_succ_cons, encodePairs_cons, encodePairs_cons, ← ih]
      rfl

/-- Each pair sums up to its byte and all bits once. -/
theorem toNat_or_masks (byte : UInt8) :
    (byte ||| highMask).toNat + (byte ||| lowMask).toNat = 255 + byte.toNat := by
  have each : ∀ value < 256, (UInt8.ofNat value ||| highMask).toNat +
      (UInt8.ofNat value ||| lowMask).toNat = 255 + value := by decide +kernel
  simpa using each byte.toNat byte.toNat_lt

theorem exactSum_encodePairs (bytes : Bytes) :
    Checksum.exactSum (encodePairs bytes) = 255 * bytes.length + Checksum.exactSum bytes := by
  induction bytes with
  | nil => rfl
  | cons byte rest ih =>
    have pair := toNat_or_masks byte
    simp only [encodePairs_cons, Checksum.exactSum, ih, List.length_cons]
    omega

theorem exactSum_encodePairs_uid (uid : Uid) :
    Checksum.exactSum (encodePairs uid.toBytes) = 1530 + Checksum.exactSum uid.toBytes := by
  rw [exactSum_encodePairs, Uid.length_toBytes]

theorem toNat_sum_encodePairs_uid (uid : Uid) :
    (Checksum.sum (encodePairs uid.toBytes)).toNat = 1530 + Checksum.exactSum uid.toBytes := by
  have largest := Checksum.exactSum_le uid.toBytes
  rw [Uid.length_toBytes] at largest
  rw [Checksum.toNat_sum, exactSum_encodePairs_uid, Nat.mod_eq_of_lt (by omega)]

namespace Frame

/-- What a controller finds in a frame that it believes: the preamble, and eight pairs for a
word of six bytes and the big-endian sum of their twelve halves. -/
structure Spells (bytes word : Bytes) : Prop where
  size : bytes.length = 24
  wordSize : word.length = 8
  preamble : bytes.slice 0 7 = List.replicate 7 0xFE
  separator : bytes.byteAt 7 = 0xAA
  pairs : ∀ index < 8,
    IsPair (bytes.byteAt (8 + 2 * index)) (bytes.byteAt (8 + 2 * index + 1)) (word.byteAt index)
  checksum : word.numberAt 6 2 = (Checksum.sum (bytes.slice 8 12)).toNat

def wordOf (uid : Uid) : Bytes :=
  uid.toBytes ++ Checksum.toBytes (Checksum.sum (encodePairs uid.toBytes))

theorem slice_wordOf (uid : Uid) : (wordOf uid).slice 0 6 = uid.toBytes :=
  Bytes.slice_append_left uid.length_toBytes _

variable {bytes word : Bytes} {uid : Uid}

theorem Spells.bytes_eq (spells : Spells bytes word) :
    bytes = Discovery.preamble ++ encodePairs word := by
  have front : bytes.take 8 = Discovery.preamble := by
    have separated : 7 < bytes.length := by
      rw [spells.size]
      decide
    calc bytes.take 8
        = bytes.slice 0 7 ++ bytes.slice 7 1 := (bytes.slice_append_slice 0 7 1).symm
      _ = List.replicate 7 0xFE ++ [0xAA] := by
          rw [spells.preamble, Bytes.slice_one separated, spells.separator]
  have back : bytes.drop 8 = encodePairs word := by
    apply eq_encodePairs_iff.2
    rw [List.length_drop, spells.size, spells.wordSize]
    refine ⟨rfl, ?_⟩
    intro index within
    rw [Bytes.byteAt_drop, Bytes.byteAt_drop]
    exact spells.pairs index within
  rw [← front, ← back, List.take_append_drop]

theorem slice_payload (word : Bytes) :
    Bytes.slice (Discovery.preamble ++ encodePairs word) 8 12 = encodePairs (word.slice 0 6) :=
  take_encodePairs word 6

/-- One byte string spells a word, if its last two bytes are the sum of what the others are
written as. -/
theorem spells_iff :
    Spells bytes word ↔
      word.length = 8 ∧ bytes = Discovery.preamble ++ encodePairs word ∧
        word.numberAt 6 2 = (Checksum.sum (encodePairs (word.slice 0 6))).toNat := by
  constructor
  · intro spells
    have bytes_eq := spells.bytes_eq
    have checksum := spells.checksum
    rw [bytes_eq, slice_payload] at checksum
    exact ⟨spells.wordSize, bytes_eq, checksum⟩
  · rintro ⟨wordSize, rfl, checksum⟩
    have pairs := (eq_encodePairs_iff.1 (rfl : encodePairs word = encodePairs word)).2
    refine ⟨?_, wordSize, rfl, rfl, ?_, ?_⟩
    · simp [length_encodePairs, wordSize, Discovery.preamble]
    · intro index within
      have pair := pairs index (by rwa [wordSize])
      have payload : (Discovery.preamble ++ encodePairs word).drop 8 = encodePairs word := rfl
      rwa [← payload, Bytes.byteAt_drop, Bytes.byteAt_drop] at pair
    · rw [checksum, slice_payload]

theorem spells_ofUid (uid : Uid) : Spells (ofUid uid).bytes (wordOf uid) := by
  have sum : (wordOf uid).slice 6 2 =
      Checksum.toBytes (Checksum.sum (encodePairs uid.toBytes)) :=
    Bytes.slice_append_right uid.length_toBytes (Checksum.length_toBytes _)
  refine spells_iff.2 ⟨?_, ?_, ?_⟩
  · rw [wordOf, List.length_append, uid.length_toBytes, Checksum.length_toBytes]
    rfl
  · rw [wordOf, encodePairs_append, ← List.append_assoc]
    rfl
  · rw [slice_wordOf, Bytes.numberAt, sum]
    exact Bytes.toNat_ofNat_word _

theorem slice_ofUid (uid : Uid) : (ofUid uid).bytes.slice 8 12 = encodePairs uid.toBytes := by
  rw [(spells_ofUid uid).bytes_eq, slice_payload, slice_wordOf]

/-- A sound frame whose word begins with a device is the frame of that device. -/
theorem Spells.eq_ofUid (spells : Spells bytes word) (device : word.slice 0 6 = uid.toBytes) :
    bytes = (ofUid uid).bytes := by
  obtain ⟨wordSize, bytes_eq, checksum⟩ := spells_iff.1 spells
  have sum : word.slice 6 2 = Checksum.toBytes (Checksum.sum (encodePairs uid.toBytes)) := by
    have size : (word.slice 6 2).length = 2 := by simp [Bytes.length_slice, wordSize]
    apply Bytes.toNat_inj (size.trans (Checksum.length_toBytes _).symm)
    rw [Checksum.toBytes, Packet.checksumSize, Bytes.toNat_ofNat_word, ← device]
    exact checksum
  have word_eq : word = wordOf uid := by
    calc word
        = word.slice 0 (6 + 2) := (Bytes.slice_all wordSize).symm
      _ = word.slice 0 6 ++ word.slice 6 2 := (word.slice_append_slice 0 6 2).symm
      _ = wordOf uid := by rw [device, sum, wordOf]
  rw [bytes_eq, word_eq]
  exact (spells_ofUid uid).bytes_eq.symm

/-- The parts in which a controller reads a frame spell a word between them. -/
theorem spells_of_parts {frame : Frame} {uidBytes sumBytes : Bytes}
    (front : frame.bytes.take 8 = Discovery.preamble)
    (uidPairs : frame.bytes.slice 8 12 = encodePairs uidBytes)
    (sumPairs : frame.bytes.slice 20 4 = encodePairs sumBytes)
    (checksum : Bytes.toNat sumBytes = (Checksum.sum (frame.bytes.slice 8 12)).toNat) :
    Spells frame.bytes (uidBytes ++ sumBytes) ∧ uidBytes.length = 6 := by
  have size : frame.bytes.length = 24 := frame.length_eq
  have uidSize : uidBytes.length = 6 :=
    length_of_eq_encodePairs uidPairs (by rw [Bytes.length_slice, size]; rfl)
  have sumSize : sumBytes.length = 2 :=
    length_of_eq_encodePairs sumPairs (by rw [Bytes.length_slice, size]; rfl)
  have device := Bytes.slice_append_left uidSize sumBytes
  have sum := Bytes.slice_append_right uidSize sumSize
  refine ⟨spells_iff.2 ⟨?_, ?_, ?_⟩, uidSize⟩
  · rw [List.length_append, uidSize, sumSize]
  · calc frame.bytes
        = frame.bytes.slice 0 (8 + 16) := (Bytes.slice_all size).symm
      _ = frame.bytes.take 8 ++ frame.bytes.slice 8 (12 + 4) :=
          (frame.bytes.slice_append_slice 0 8 16).symm
      _ = frame.bytes.take 8 ++ (frame.bytes.slice 8 12 ++ frame.bytes.slice 20 4) := by
          rw [frame.bytes.slice_append_slice 8 12 4]
      _ = Discovery.preamble ++ encodePairs (uidBytes ++ sumBytes) := by
          rw [front, uidPairs, sumPairs, encodePairs_append]
  · rw [Bytes.numberAt, sum, device, checksum, uidPairs]

theorem eq_of_bytes {first second : Frame} (same : first.bytes = second.bytes) :
    first = second := by
  cases first
  cases second
  simpa using same

theorem uid?_ofUid (uid : Uid) : (ofUid uid).uid? = some uid := by
  have front : (ofUid uid).bytes.take 8 = Discovery.preamble := rfl
  have uidPairs := slice_ofUid uid
  have sumPairs : (ofUid uid).bytes.slice 20 4 =
      encodePairs (Checksum.toBytes (Checksum.sum (encodePairs uid.toBytes))) := by
    apply Bytes.slice_append_right
    · simp [length_encodePairs, Discovery.preamble]
    · rw [length_encodePairs, Checksum.length_toBytes]
      rfl
  have closes : Bytes.toNat (Checksum.toBytes (Checksum.sum (encodePairs uid.toBytes))) =
      (Checksum.sum (encodePairs uid.toBytes)).toNat := Bytes.toNat_ofNat_word _
  simp only [uid?, front, uidPairs, sumPairs, decodePairs_encodePairs, closes, and_self, if_true,
    Address.ofBytes_toBytes_device]

/-- A controller reads a device out of the frame of that device, and out of no other frame. -/
theorem uid?_eq_some_iff {frame : Frame} : frame.uid? = some uid ↔ frame = ofUid uid := by
  constructor
  · intro read
    simp only [uid?] at read
    split at read
    next uidBytes sumBytes uidRead sumRead =>
      split at read
      next checks =>
        split at read
        next device found =>
          cases read
          obtain ⟨spells, uidSize⟩ := spells_of_parts checks.1
            (decodePairs_eq_some_iff.1 uidRead) (decodePairs_eq_some_iff.1 sumRead) checks.2
          have uidBytes_eq : uid.toBytes = uidBytes := by
            rw [← Address.toBytes_ofBytes uidSize, found]
            rfl
          apply eq_of_bytes
          apply spells.eq_ofUid
          rw [Bytes.slice_append_left uidSize, uidBytes_eq]
        next => contradiction
      next => contradiction
    next => contradiction
  · rintro rfl
    exact uid?_ofUid uid

/-- The frame of a device is sound and spells its identifier; the sum it ends in never wraps. Any
sound frame that spells the identifier of a device is the frame of that device, so no two devices
share a frame. -/
theorem spelling_exact :
    (∀ uid : Uid, ∃ word, Spells (ofUid uid).bytes word ∧ word.slice 0 6 = uid.toBytes ∧
      Checksum.exactSum ((ofUid uid).bytes.slice 8 12) = 1530 + Checksum.exactSum uid.toBytes ∧
      (Checksum.sum ((ofUid uid).bytes.slice 8 12)).toNat =
        1530 + Checksum.exactSum uid.toBytes) ∧
    (∀ bytes word, Spells bytes word → word.slice 2 4 ≠ List.replicate 4 0xFF →
      ∃ uid : Uid, uid.toBytes = word.slice 0 6 ∧ bytes = (ofUid uid).bytes) ∧
    ∀ first second : Uid, (ofUid first).bytes = (ofUid second).bytes → first = second := by
  refine ⟨?_, ?_, ?_⟩
  · intro uid
    refine ⟨wordOf uid, spells_ofUid uid, slice_wordOf uid, ?_, ?_⟩
    · rw [slice_ofUid, exactSum_encodePairs_uid]
    · rw [slice_ofUid, toNat_sum_encodePairs_uid]
  · intro bytes word spells reserved
    have size : (word.slice 0 6).length = 6 := by simp [Bytes.length_slice, spells.wordSize]
    have device : (word.slice 0 6).slice 2 4 = word.slice 2 4 := Bytes.slice_slice (by decide)
    obtain ⟨uid, found⟩ := (Address.exists_device_iff size).2 (device ▸ reserved)
    have uidBytes : uid.toBytes = word.slice 0 6 := by
      rw [← Address.toBytes_ofBytes size, found]
      rfl
    exact ⟨uid, uidBytes, spells.eq_ofUid uidBytes.symm⟩
  · intro first second same
    have read : (ofUid first).uid? = some second := uid?_eq_some_iff.2 (eq_of_bytes same)
    rw [uid?_ofUid first] at read
    exact Option.some.inj read

/-- A frame that is checked by its offsets alone, and the device it is then known to be of. -/
theorem spelling_exact_read_back :
    let bytes : Bytes := [0xFE, 0xFE, 0xFE, 0xFE, 0xFE, 0xFE, 0xFE, 0xAA, 0xFA, 0x7F, 0xFA, 0x75,
      0xAB, 0x55, 0xAA, 0x57, 0xAB, 0x57, 0xAE, 0x55, 0xAE, 0x57, 0xEE, 0xFF]
    let word : Bytes := [0x7A, 0x70, 1, 2, 3, 4, 0x06, 0xEE]
    Spells bytes word ∧ word.slice 2 4 ≠ List.replicate 4 0xFF ∧
      ∃ uid : Uid, uid.toBytes = [0x7A, 0x70, 1, 2, 3, 4] ∧ bytes = (ofUid uid).bytes := by
  intro bytes word
  have pairs : ∀ index < 8, bytes.byteAt (8 + 2 * index) = word.byteAt index ||| highMask ∧
      bytes.byteAt (8 + 2 * index + 1) = word.byteAt index ||| lowMask := by decide
  have spells : Spells bytes word :=
    ⟨rfl, rfl, rfl, rfl, fun index within => isPair_iff.2 (pairs index within), by decide⟩
  have device : word.slice 2 4 ≠ List.replicate 4 0xFF := by decide
  exact ⟨spells, device, spelling_exact.2.1 bytes word spells device⟩

end Frame

end Rdm.Discovery
