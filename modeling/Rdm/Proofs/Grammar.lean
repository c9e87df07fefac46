import Rdm.Proofs.RoundTrip

/-! Seven rules make a byte string a packet. `Packet.Rule.Holds` states them on its
bytes, with exact sums and lengths. `Request.parse_by_rules` says that what keeps all of
them is read, and nothing else, and that the fault of any other byte string is that of
the first rule it breaks. -/
namespace Rdm

namespace Packet

inductive Rule where
  | minSize
  | maxSize
  | checksum
  | startCodes
  | messageLength
  | dataLength
  | source
  deriving DecidableEq, Repr

namespace Rule

def order : List Rule :=
  [minSize, maxSize, checksum, startCodes, messageLength, dataLength, source]

/-- The data length has no limit of its own: a packet of proper size keeps it. -/
def Holds (packet : Bytes) : Rule → Prop
  | minSize => 26 ≤ packet.length
  | maxSize => packet.length ≤ 257
  | checksum =>
    Checksum.exactSum (packet.take (packet.length - 2)) =
      Bytes.toNat (packet.drop (packet.length - 2))
  | startCodes => packet.byteAt 0 = 0xCC ∧ packet.byteAt 1 = 0x01
  | messageLength => (packet.byteAt 2).toNat + 2 = packet.length
  | dataLength => (packet.byteAt 23).toNat + 26 = packet.length
  | source => packet.slice 11 4 ≠ List.replicate 4 0xFF

def fault (packet : Bytes) : Rule → ParseError
  | minSize => .bufferTooSmall
  | maxSize => .bufferTooBig
  | checksum => .checksumInvalid
  | startCodes => .wrongStartCode
  | messageLength => .wrongMessageLength (packet.byteAt 2)
  | dataLength => .wrongDataLength (packet.byteAt 23)
  | source => .sourceIsBroadcast

inductive FirstBroken (packet : Bytes) : List Rule → Rule → Prop where
  | here {rule : Rule} {rest : List Rule} (broken : ¬ rule.Holds packet) :
      FirstBroken packet (rule :: rest) rule
  | later {first rule : Rule} {rest : List Rule} (holds : first.Holds packet)
      (broken : FirstBroken packet rest rule) : FirstBroken packet (first :: rest) rule

variable {packet : Bytes}

theorem mem_order (rule : Rule) : rule ∈ order := by
  cases rule <;> decide

theorem forall_holds_or_firstBroken (packet : Bytes) (rules : List Rule) :
    (∀ rule ∈ rules, rule.Holds packet) ∨ ∃ rule, FirstBroken packet rules rule := by
  induction rules with
  | nil => exact .inl (by simp)
  | cons first rest ih =>
    by_cases holds : first.Holds packet
    · rcases ih with all | ⟨rule, broken⟩
      · exact .inl (List.forall_mem_cons.2 ⟨holds, all⟩)
      · exact .inr ⟨rule, .later holds broken⟩
    · exact .inr ⟨first, .here holds⟩

/-- The checksum of a packet of proper size is a matter of the exact sum. -/
theorem checksum_holds_iff (minSize : Rule.minSize.Holds packet)
    (maxSize : Rule.maxSize.Holds packet) :
    Rule.checksum.Holds packet ↔ Checksum.verify packet = true :=
  (Checksum.verify_iff_exactSum minSize maxSize).symm

theorem source_holds_iff (minSize : Rule.minSize.Holds packet) :
    Rule.source.Holds packet ↔ ∃ source, (Header.decode packet).source = .device source := by
  have enough : 26 ≤ packet.length := minSize
  have size : (packet.slice 9 6).length = 6 := by
    rw [Bytes.length_slice]
    omega
  have device : (packet.slice 9 6).slice 2 4 = packet.slice 11 4 := Bytes.slice_slice (by decide)
  rw [Holds, ← device]
  exact (Address.exists_device_iff size).symm

end Rule

end Packet

namespace Request

open Packet (Rule)

variable {packet : Bytes} {request : Request}

theorem exists_sound_iff : (∃ source, Sound packet source) ↔ ∀ rule, Rule.Holds packet rule := by
  constructor
  · rintro ⟨source, sound⟩ rule
    cases rule with
    | minSize => exact sound.minSize
    | maxSize => exact sound.maxSize
    | checksum => exact (Rule.checksum_holds_iff sound.minSize sound.maxSize).2 sound.verified
    | startCodes => exact ⟨sound.startCode, sound.subStartCode⟩
    | messageLength => exact sound.messageLength_add
    | dataLength => exact sound.dataLength_add
    | source => exact (Rule.source_holds_iff sound.minSize).2 ⟨source, sound.source⟩
  · intro holds
    have minSize : 26 ≤ packet.length := holds .minSize
    have maxSize : packet.length ≤ 257 := holds .maxSize
    have messageLength : (packet.byteAt 2).toNat + 2 = packet.length := holds .messageLength
    have dataLength : (packet.byteAt 23).toNat + 26 = packet.length := holds .dataLength
    obtain ⟨startCode, subStartCode⟩ := holds .startCodes
    obtain ⟨source, read⟩ := (Rule.source_holds_iff minSize).1 (holds .source)
    refine ⟨source, minSize, maxSize, (Rule.checksum_holds_iff minSize maxSize).1 (holds .checksum),
      startCode, subStartCode, ?_, ?_, ?_, read⟩
    · simp only [Header.decode, Packet.checksumSize]
      omega
    · simp only [Header.decode, Packet.headerSize]
      omega
    · simp only [Header.decode, ParameterData.maxLength]
      omega

/-- The fields stand at their offsets, every number with the most significant byte first. An
address is the one with the value of its six bytes; a vendorcast to 0xFFFF is never read. -/
structure ReadFrom (request : Request) (packet : Bytes) : Prop where
  destination : request.destination.toNat = packet.numberAt 3 6
  destination_ne : request.destination ≠ .vendorcast 0xFFFF
  source : request.source.toNat = packet.numberAt 9 6
  transaction : request.transaction = packet.byteAt 15
  portId : request.portId = packet.byteAt 16
  messageCount : request.messageCount = packet.byteAt 17
  subDevice : request.subDevice.toNat = packet.numberAt 18 2
  commandClass : request.commandClass = CommandClass.ofCode (packet.byteAt 20)
  pid : request.pid.toNat = packet.numberAt 21 2
  parameterData : request.parameterData = packet.slice 24 (packet.length - 26)

theorem ReadFrom.unique {other : Request} (first : request.ReadFrom packet)
    (second : other.ReadFrom packet) : request = other := by
  have destination : request.destination = other.destination :=
    Address.toNat_inj first.destination_ne second.destination_ne
      (first.destination.trans second.destination.symm)
  have source : request.source = other.source :=
    Uid.toNat_inj (first.source.trans second.source.symm)
  have subDevice : request.subDevice = other.subDevice :=
    UInt16.toNat_inj.1 (first.subDevice.trans second.subDevice.symm)
  have pid : request.pid = other.pid := UInt16.toNat_inj.1 (first.pid.trans second.pid.symm)
  have transaction := first.transaction.trans second.transaction.symm
  have portId := first.portId.trans second.portId.symm
  have messageCount := first.messageCount.trans second.messageCount.symm
  have commandClass := first.commandClass.trans second.commandClass.symm
  have parameterData := first.parameterData.trans second.parameterData.symm
  cases request
  cases other
  simp only [Request.mk.injEq]
  exact ⟨destination, source, transaction, portId, messageCount, subDevice, commandClass, pid,
    parameterData⟩

theorem readFrom_of_parse (accepted : parse packet = .ok request) : request.ReadFrom packet := by
  obtain ⟨source, sound, rfl⟩ := parse_eq_ok_iff.1 accepted
  have minSize : 26 ≤ packet.length := sound.minSize
  have address (offset : Nat) (within : offset + 6 ≤ 24) :
      (Address.ofBytes (packet.slice offset 6)).toNat = packet.numberAt offset 6 := by
    apply Address.toNat_ofBytes
    rw [Bytes.length_slice]
    omega
  have word (offset : Nat) :
      (UInt16.ofNat (packet.numberAt offset 2)).toNat = packet.numberAt offset 2 := by
    have fits : packet.numberAt offset 2 < 65536 := Bytes.numberAt_lt packet offset 2
    rw [UInt16.toNat_ofNat', Nat.mod_eq_of_lt fits]
  have device : Address.ofBytes (packet.slice 9 6) = .device source := sound.source
  have dataLength : (packet.byteAt 23).toNat = packet.length - 26 := by
    have added : (packet.byteAt 23).toNat + 26 = packet.length := sound.dataLength_add
    omega
  exact {
    destination := address 3 (by decide)
    destination_ne := Address.ofParts_ne_vendorcast _ _
    source := (congrArg Address.toNat device).symm.trans (address 9 (by decide))
    transaction := rfl
    portId := rfl
    messageCount := rfl
    subDevice := word 18
    commandClass := rfl
    pid := word 21
    parameterData := congrArg (packet.slice 24) dataLength }

/-- The checks follow the rules, so the first rule that is broken ends the reading. -/
theorem parse_of_firstBroken {rule : Rule} (first : Rule.FirstBroken packet Rule.order rule) :
    parse packet = .error (rule.fault packet) := by
  rw [Rule.order] at first
  simp only [parse]
  cases first with
  | here broken => exact if_pos (Nat.not_le.1 broken)
  | later minSize first =>
  have enough : ¬ packet.length < Packet.minSize := Nat.not_lt.2 minSize
  rw [if_neg enough]
  cases first with
  | here broken => exact if_pos (Nat.not_le.1 broken)
  | later maxSize first =>
  have limited : ¬ packet.length > Packet.maxSize := Nat.not_lt.2 maxSize
  rw [if_neg limited]
  have verified := Rule.checksum_holds_iff minSize maxSize
  cases first with
  | here broken =>
    rw [verified] at broken
    exact if_pos (by simpa using broken)
  | later checksum first =>
  rw [if_neg (by simpa using verified.1 checksum)]
  cases first with
  | here broken => exact if_pos (Decidable.not_and_iff_not_or_not.1 broken)
  | later startCodes first =>
  have codes : ¬ ((Header.decode packet).startCode ≠ Packet.startCode ∨
      (Header.decode packet).subStartCode ≠ Packet.subStartCode) :=
    not_or.2 ⟨not_not_intro startCodes.1, not_not_intro startCodes.2⟩
  rw [if_neg codes]
  have atLeast : 26 ≤ packet.length := minSize
  have atMost : packet.length ≤ 257 := maxSize
  cases first with
  | here broken =>
    have differs : (packet.byteAt 2).toNat + 2 ≠ packet.length := broken
    apply if_pos
    simp only [Header.decode, Packet.checksumSize]
    omega
  | later messageLength first =>
  have message : (Header.decode packet).messageLength.toNat + 2 = packet.length := messageLength
  rw [if_neg (by simp only [Packet.checksumSize]; omega)]
  cases first with
  | here broken =>
    have differs : (Header.decode packet).dataLength.toNat + 26 ≠ packet.length := broken
    apply if_pos
    simp only [Packet.headerSize]
    omega
  | later dataLength first =>
  have data : (Header.decode packet).dataLength.toNat + 26 = packet.length := dataLength
  rw [if_neg (by simp only [Packet.headerSize, ParameterData.maxLength]; omega)]
  cases first with
  | here broken =>
    rw [Rule.source_holds_iff minSize] at broken
    split
    next source read => exact absurd ⟨source, read⟩ broken
    next => rfl
  | later _ first => contradiction

/-- What keeps all rules is read, as the one request whose fields stand at their offsets. Any
other byte string has the fault of the first rule that it breaks. -/
theorem parse_by_rules (packet : Bytes) :
    ((∃ request, parse packet = .ok request) ↔ ∀ rule, Rule.Holds packet rule) ∧
      (∀ request, parse packet = .ok request ↔
        (∀ rule, Rule.Holds packet rule) ∧ request.ReadFrom packet) ∧
      ∀ error, parse packet = .error error ↔
        ∃ rule, Rule.FirstBroken packet Rule.order rule ∧ error = rule.fault packet := by
  have accepted_iff : (∃ request, parse packet = .ok request) ↔
      ∀ rule, Rule.Holds packet rule := by
    rw [← exists_sound_iff]
    constructor
    · rintro ⟨request, accepted⟩
      obtain ⟨source, sound, _⟩ := parse_eq_ok_iff.1 accepted
      exact ⟨source, sound⟩
    · rintro ⟨source, sound⟩
      exact ⟨_, parse_eq_ok_iff.2 ⟨source, sound, rfl⟩⟩
  refine ⟨accepted_iff, ?_, ?_⟩
  · intro request
    constructor
    · intro accepted
      exact ⟨accepted_iff.1 ⟨request, accepted⟩, readFrom_of_parse accepted⟩
    · rintro ⟨holds, readFrom⟩
      obtain ⟨other, accepted⟩ := accepted_iff.2 holds
      rw [accepted, readFrom.unique (readFrom_of_parse accepted)]
  · intro error
    constructor
    · intro dropped
      rcases Rule.forall_holds_or_firstBroken packet Rule.order with all | ⟨rule, first⟩
      · obtain ⟨request, accepted⟩ := accepted_iff.2 fun rule => all rule rule.mem_order
        rw [accepted] at dropped
        contradiction
      · rw [parse_of_firstBroken first] at dropped
        exact ⟨rule, first, (Except.error.inj dropped).symm⟩
    · rintro ⟨rule, first, rfl⟩
      exact parse_of_firstBroken first

example : parse (List.replicate 26 0xFF) = .error .checksumInvalid := rfl

end Request

end Rdm
