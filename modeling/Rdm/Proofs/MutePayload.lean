import Rdm.Discovery.Mute

/-! Flags are packed from the lowest bit of the first byte upwards, but go on the wire
as a big-endian word. Bit by bit both are one number (`Bytes.packs_iff`).
`MuteReply.Tells` is what a controller reads in a payload: one payload tells a reply
(`MuteReply.Tells.bytes_eq`), and it tells no other (`MuteReply.Tells.unique`). -/
namespace Rdm

namespace Bytes

/-- The bits fill the bytes, from the lowest bit of the first byte upwards. -/
structure Packs (bytes : Bytes) (bits : List Bool) : Prop where
  size : 8 * bytes.length = bits.length
  bit : ∀ index < bits.length,
    (bytes.byteAt (index / 8)).toNat.testBit (index % 8) = bits.getD index false

variable {bytes : Bytes} {bits : List Bool}

theorem testBit_valueOfBits (bits : List Bool) (index : Nat) :
    (valueOfBits bits).testBit index = bits.getD index false := by
  induction bits generalizing index with
  | nil => exact Nat.zero_testBit index
  | cons bit rest ih =>
    cases index with
    | zero => cases bit <;> simp [valueOfBits]
    | succ index =>
      have half : (bit.toNat + 2 * valueOfBits rest) / 2 = valueOfBits rest := by
        have := bit.toNat_lt
        omega
      rw [valueOfBits, Nat.testBit_add_one, half, ih, List.getD_cons_succ]

/-- The bits of the little-endian value of a byte string are those of its bytes, in their order. -/
theorem testBit_toNat_reverse (bytes : Bytes) (index : Nat) :
    (toNat bytes.reverse).testBit index =
      (bytes.byteAt (index / 8)).toNat.testBit (index % 8) := by
  induction bytes generalizing index with
  | nil => simp [toNat, byteAt]
  | cons byte rest ih =>
    have value : toNat (byte :: rest).reverse = 256 * toNat rest.reverse + byte.toNat := by
      simp [toNat_append, toNat, capacity, Nat.mul_comm]
    have parts := Nat.testBit_two_pow_mul_add (i := 8) (toNat rest.reverse) byte.toNat_lt index
    rw [value]
    refine parts.trans ?_
    by_cases low : index < 8
    · rw [if_pos low, Nat.div_eq_of_lt low, Nat.mod_eq_of_lt low]
      rfl
    · obtain ⟨above, rfl⟩ := Nat.exists_eq_add_of_le' (Nat.le_of_not_lt low)
      rw [if_neg low, Nat.add_sub_cancel, ih, Nat.add_div_right _ (by decide), Nat.add_mod_right]
      rfl

theorem packs_iff :
    Packs bytes bits ↔
      8 * bytes.length = bits.length ∧ toNat bytes.reverse = valueOfBits bits := by
  constructor
  · rintro ⟨size, bit⟩
    refine ⟨size, ?_⟩
    apply Nat.eq_of_testBit_eq
    intro index
    rw [testBit_toNat_reverse, testBit_valueOfBits]
    by_cases within : index < bits.length
    · exact bit index within
    · have behind : bytes.length ≤ index / 8 := by omega
      have noBit : bits.length ≤ index := Nat.le_of_not_lt within
      simp [byteAt, behind, noBit]
  · rintro ⟨size, value⟩
    refine ⟨size, ?_⟩
    intro index _
    rw [← testBit_toNat_reverse, value, testBit_valueOfBits]

theorem packs_ofBits {width : Nat} (whole : bits.length = 8 * width) :
    Packs (ofBits width bits) bits := by
  refine ⟨by rw [length_ofBits, whole], ?_⟩
  induction width generalizing bits with
  | zero =>
    intro index within
    rw [whole] at within
    contradiction
  | succ width ih =>
    intro index within
    by_cases low : index < 8
    · have first : ((ofBits (width + 1) bits).byteAt 0).toNat = valueOfBits (bits.take 8) % 2 ^ 8 :=
        UInt8.toNat_ofNat'
      rw [Nat.div_eq_of_lt low, Nat.mod_eq_of_lt low, first, Nat.testBit_mod_two_pow,
        testBit_valueOfBits]
      simp [low]
    · obtain ⟨above, rfl⟩ := Nat.exists_eq_add_of_le' (Nat.le_of_not_lt low)
      have rest : (bits.drop 8).length = 8 * width := by
        rw [List.length_drop, whole]
        omega
      have later := ih rest above (by rw [rest]; omega)
      rw [Nat.add_div_right _ (by decide), Nat.add_mod_right]
      refine later.trans ?_
      simp [Nat.add_comm]

end Bytes

namespace Discovery.MuteReply

/-- What a controller reads in a payload: the flags in the four lowest bits of a big-endian word,
nothing in the others, and behind the word the primary responder, if there is one. -/
structure Tells (bytes : Bytes) (reply : MuteReply) : Prop where
  size : bytes.length = if reply.bindingUid.isSome then 8 else 2
  managedProxy : (bytes.numberAt 0 2).testBit 0 = reply.managedProxy
  subDevice : (bytes.numberAt 0 2).testBit 1 = reply.subDevice
  bootLoader : (bytes.numberAt 0 2).testBit 2 = reply.bootLoader
  proxyDevice : (bytes.numberAt 0 2).testBit 3 = reply.proxyDevice
  reserved : ∀ bit, 4 ≤ bit → (bytes.numberAt 0 2).testBit bit = false
  bindingUid : ∀ uid, reply.bindingUid = some uid →
    Address.ofBytes (bytes.slice 2 6) = .device uid

variable {bytes packed : Bytes} {reply first second : MuteReply}

theorem controlField_eq_valueOfBits (reply : MuteReply) :
    reply.controlField = Bytes.valueOfBits reply.bits :=
  (Bytes.packs_iff.1 (Bytes.packs_ofBits rfl)).2

/-- The way through packed bytes comes to the flags at their weights. -/
theorem controlField_eq (reply : MuteReply) :
    reply.controlField =
      reply.managedProxy.toNat + 2 * reply.subDevice.toNat + 4 * reply.bootLoader.toNat +
        8 * reply.proxyDevice.toNat := by
  have reserved : Bytes.valueOfBits (List.replicate 12 false) = 0 := rfl
  rw [controlField_eq_valueOfBits]
  simp only [bits, List.cons_append, List.nil_append, Bytes.valueOfBits, reserved]
  omega

theorem controlField_lt (reply : MuteReply) : reply.controlField < 16 := by
  have := reply.managedProxy.toNat_lt
  have := reply.subDevice.toNat_lt
  have := reply.bootLoader.toNat_lt
  have := reply.proxyDevice.toNat_lt
  rw [controlField_eq]
  omega

theorem toNat_ofNat_controlField (reply : MuteReply) :
    Bytes.toNat (Bytes.ofNat 2 reply.controlField) = reply.controlField :=
  Bytes.toNat_ofNat_of_lt (Nat.lt_trans reply.controlField_lt (by decide))

theorem slice_encode (reply : MuteReply) :
    reply.encode.slice 0 2 = Bytes.ofNat 2 reply.controlField :=
  Bytes.slice_append_left (Bytes.length_ofNat 2 _) _

theorem numberAt_encode (reply : MuteReply) :
    reply.encode.numberAt 0 2 = reply.controlField := by
  rw [Bytes.numberAt, slice_encode, toNat_ofNat_controlField]

theorem testBit_controlField (reply : MuteReply) (index : Nat) :
    reply.controlField.testBit index = reply.bits.getD index false := by
  rw [controlField_eq_valueOfBits, Bytes.testBit_valueOfBits]

theorem testBit_controlField_of_reserved (reply : MuteReply) {index : Nat} (behind : 4 ≤ index) :
    reply.controlField.testBit index = false := by
  apply Nat.testBit_lt_two_pow
  calc reply.controlField
      < 2 ^ 4 := reply.controlField_lt
    _ ≤ 2 ^ index := Nat.pow_le_pow_right (by decide) behind

theorem tells_encode (reply : MuteReply) : Tells reply.encode reply := by
  have flag (index : Nat) :
      (reply.encode.numberAt 0 2).testBit index = reply.bits.getD index false := by
    rw [numberAt_encode, testBit_controlField]
  refine ⟨reply.length_encode, flag 0, flag 1, flag 2, flag 3, ?reserved, ?bindingUid⟩
  case reserved =>
    intro index behind
    rw [numberAt_encode, reply.testBit_controlField_of_reserved behind]
  case bindingUid =>
    intro uid bound
    have tail : reply.encode.slice 2 6 = uid.toBytes := by
      rw [encode, bound]
      exact Bytes.slice_append_right (Bytes.length_ofNat 2 _) uid.length_toBytes
    rw [tail, Address.ofBytes_toBytes_device]

theorem Tells.numberAt_eq (tells : Tells bytes reply) :
    bytes.numberAt 0 2 = reply.controlField := by
  apply Nat.eq_of_testBit_eq
  intro index
  rw [testBit_controlField]
  match index with
  | 0 => exact tells.managedProxy
  | 1 => exact tells.subDevice
  | 2 => exact tells.bootLoader
  | 3 => exact tells.proxyDevice
  | above + 4 =>
    have behind : 4 ≤ above + 4 := Nat.le_add_left 4 above
    rw [tells.reserved _ behind, ← testBit_controlField,
      reply.testBit_controlField_of_reserved behind]

/-- A reply is told by one payload. -/
theorem Tells.bytes_eq (tells : Tells bytes reply) : bytes = reply.encode := by
  have size := tells.size
  have within : 2 ≤ bytes.length := by
    rw [size]
    split <;> decide
  have front : bytes.slice 0 2 = Bytes.ofNat 2 reply.controlField := by
    rw [← Bytes.ofNat_numberAt within, tells.numberAt_eq]
  cases bound : reply.bindingUid with
  | none =>
    rw [bound] at size
    calc bytes
        = bytes.slice 0 2 := (Bytes.slice_all size).symm
      _ = reply.encode := by
        rw [front, encode, bound]
        exact (List.append_nil _).symm
  | some uid =>
    rw [bound] at size
    have tailSize : (bytes.slice 2 6).length = 6 := by
      rw [Bytes.length_slice, size]
      rfl
    have tail : bytes.slice 2 6 = uid.toBytes := by
      rw [← Address.toBytes_ofBytes tailSize, tells.bindingUid uid bound]
      rfl
    calc bytes
        = bytes.slice 0 (2 + 6) := (Bytes.slice_all size).symm
      _ = bytes.slice 0 2 ++ bytes.slice 2 6 := (bytes.slice_append_slice 0 2 6).symm
      _ = reply.encode := by
        rw [front, tail, encode, bound]
        rfl

theorem Tells.bindingUid_eq (tells : Tells bytes first) (tellsOther : Tells bytes second) :
    first.bindingUid = second.bindingUid := by
  have size := tells.size.symm.trans tellsOther.size
  cases bound : first.bindingUid with
  | none =>
    cases boundOther : second.bindingUid with
    | none => rfl
    | some other => simp [bound, boundOther] at size
  | some uid =>
    cases boundOther : second.bindingUid with
    | none => simp [bound, boundOther] at size
    | some other =>
      have same := (tells.bindingUid uid bound).symm.trans (tellsOther.bindingUid other boundOther)
      rw [Address.device.inj same]

/-- Of one payload a controller reads one reply. -/
theorem Tells.unique (tells : Tells bytes first) (tellsOther : Tells bytes second) :
    first = second := by
  have managedProxy := tells.managedProxy.symm.trans tellsOther.managedProxy
  have subDevice := tells.subDevice.symm.trans tellsOther.subDevice
  have bootLoader := tells.bootLoader.symm.trans tellsOther.bootLoader
  have proxyDevice := tells.proxyDevice.symm.trans tellsOther.proxyDevice
  have bindingUid := tells.bindingUid_eq tellsOther
  cases first
  cases second
  rw [mk.injEq]
  exact ⟨managedProxy, subDevice, bootLoader, proxyDevice, bindingUid⟩

/-- The flags in packed bytes are the control field, once its two bytes are exchanged. -/
theorem packs_bits_iff :
    Bytes.Packs packed reply.bits ↔
      packed.length = 2 ∧
        Bytes.ofNat 2 (Bytes.toNat packed.reverse) = reply.encode.slice 0 2 := by
  have width : reply.bits.length = 8 * 2 := rfl
  rw [Bytes.packs_iff, width, Nat.mul_right_inj (by decide), slice_encode,
    ← controlField_eq_valueOfBits]
  apply and_congr_right
  intro size
  have packedSize : packed.reverse.length = 2 := by rw [List.length_reverse, size]
  have small : Bytes.toNat packed.reverse < Bytes.capacity 2 := packedSize ▸ Bytes.toNat_lt _
  constructor
  · intro value
    rw [value]
  · intro written
    have value := congrArg Bytes.toNat written
    rwa [Bytes.toNat_ofNat_of_lt small, toNat_ofNat_controlField] at value

/-- A payload tells the four flags, that all other bits are reserved, and the primary responder
where there is one; no other bytes tell the same, and no two replies have one payload. Its control
field is what becomes of the flags, packed from the lowest bit up, where they are read as a
little-endian word and written as a big-endian one. -/
theorem payload_unambiguous :
    (∀ reply : MuteReply, Tells reply.parameterData.bytes reply) ∧
    (∀ (bytes : Bytes) (reply : MuteReply),
      Tells bytes reply → bytes = reply.parameterData.bytes) ∧
    (∀ first second : MuteReply, first.parameterData = second.parameterData ↔ first = second) ∧
    ∀ (packed : Bytes) (reply : MuteReply),
      Bytes.Packs packed reply.bits ↔
        packed.length = 2 ∧
          Bytes.ofNat 2 (Bytes.toNat packed.reverse) = reply.parameterData.bytes.slice 0 2 := by
  refine ⟨tells_encode, fun _ _ => Tells.bytes_eq, ?distinct, fun _ _ => packs_bits_iff⟩
  case distinct =>
    intro first second
    constructor
    · intro same
      have bytes : first.encode = second.encode := congrArg ParameterData.bytes same
      have tells := tells_encode second
      rw [← bytes] at tells
      exact (tells_encode first).unique tells
    · exact congrArg parameterData

/-- A managed proxy that waits for firmware, behind a primary responder. The payload is known from
what stands at its offsets. -/
theorem payload_unambiguous_bound :
    let primary : Uid := ⟨0x7A70, 0x01020304, by decide⟩
    let reply : MuteReply :=
      { managedProxy := true, bootLoader := true, bindingUid := some primary }
    let bytes : Bytes := [0x00, 0x05, 0x7A, 0x70, 0x01, 0x02, 0x03, 0x04]
    Tells bytes reply ∧ bytes = reply.parameterData.bytes ∧
      reply.parameterData ≠ parameterData {} ∧ Bytes.Packs [0x05, 0x00] reply.bits := by
  intro primary reply bytes
  obtain ⟨_, known, distinct, packs⟩ := payload_unambiguous
  have tells : Tells bytes reply := by
    refine ⟨rfl, by decide, by decide, by decide, by decide, ?reserved, ?bindingUid⟩
    case reserved =>
      intro index behind
      apply Nat.testBit_lt_two_pow
      calc bytes.numberAt 0 2
          < 2 ^ 4 := by decide
        _ ≤ 2 ^ index := Nat.pow_le_pow_right (by decide) behind
    case bindingUid =>
      rintro uid ⟨⟩
      decide
  refine ⟨tells, known bytes reply tells, ?_, (packs _ reply).2 ⟨rfl, by decide⟩⟩
  rw [ne_eq, distinct]
  decide

end Discovery.MuteReply

end Rdm
