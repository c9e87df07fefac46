import Rdm.Proofs.RoundTrip

/-! What is read as a request is the packet that it is written as, so reading loses
nothing (`Request.parse_eq_ok_iff_encode_eq`). The length of a packet stands in its
third byte, so none is the beginning of another. -/
namespace Rdm

namespace Request

variable {packet : Bytes} {request : Request}

namespace Sound

variable {source : Uid}

theorem length_data (sound : Sound packet source) :
    (packet.slice Packet.headerSize (Header.decode packet).dataLength.toNat).length =
      (Header.decode packet).dataLength.toNat := by
  have dataLength := sound.dataLength_add
  rw [Bytes.length_slice, Packet.headerSize]
  omega

/-- The two lengths and the start codes of a packet can be told from its request. -/
theorem header_eq (sound : Sound packet source) :
    (ofHeader (Header.decode packet) source
      (packet.slice Packet.headerSize (Header.decode packet).dataLength.toNat)).header =
        Header.decode packet := by
  have messageLength : (Header.decode packet).messageLength =
      UInt8.ofNat (Packet.headerSize + (Header.decode packet).dataLength.toNat) := by
    have byte := (Header.decode packet).messageLength.toNat_lt
    have message := sound.messageLength_add
    have data := sound.dataLength_add
    rw [← UInt8.toNat_inj, UInt8.toNat_ofNat', Packet.headerSize]
    omega
  simp only [header, ofHeader, sound.length_data, ← messageLength, ← sound.source,
    ← sound.startCode, ← sound.subStartCode, UInt8.ofNat_toNat]

theorem body_eq (sound : Sound packet source) :
    (Header.decode packet).encode ++
        packet.slice Packet.headerSize (Header.decode packet).dataLength.toNat =
      packet.take (packet.length - Packet.checksumSize) := by
  have dataLength := sound.dataLength_add
  calc (Header.decode packet).encode ++
          packet.slice Packet.headerSize (Header.decode packet).dataLength.toNat
      = packet.slice 0 24 ++ packet.slice (0 + 24) (Header.decode packet).dataLength.toNat := by
        rw [Header.encode_decode (Nat.le_trans (by decide) sound.minSize)]
        rfl
    _ = packet.slice 0 (24 + (Header.decode packet).dataLength.toNat) :=
        packet.slice_append_slice 0 24 _
    _ = packet.take (packet.length - Packet.checksumSize) := by
        rw [Bytes.slice, List.drop_zero, Packet.checksumSize]
        congr 1
        omega

end Sound

theorem encode_of_parse (accepted : parse packet = .ok request) : request.encode = packet := by
  obtain ⟨source, sound, rfl⟩ := parse_eq_ok_iff.1 accepted
  rw [encode, sound.header_eq]
  simp only [ofHeader, sound.body_eq]
  exact Checksum.append_toBytes_of_verify sound.verified

theorem carried_of_parse (accepted : parse packet = .ok request) : request.Carried := by
  have commandClass := commandClass_of_parse accepted
  obtain ⟨source, sound, rfl⟩ := parse_eq_ok_iff.1 accepted
  exact {
    destination := Address.ofParts_ne_vendorcast _ _
    commandClass := commandClass
    size := Nat.le_trans (List.length_take_le _ _) sound.dataLength_le }

/-- A request has one packet that is read as it, or none if no packet can carry it. -/
theorem parse_eq_ok_iff_encode_eq :
    parse packet = .ok request ↔ request.Carried ∧ request.encode = packet := by
  constructor
  · intro accepted
    exact ⟨carried_of_parse accepted, encode_of_parse accepted⟩
  · rintro ⟨carried, rfl⟩
    exact parse_encode carried

/-- No packet is the beginning of another: both have the length that the third byte tells. -/
theorem eq_of_beginning {other : Bytes} {otherRequest : Request}
    (accepted : parse packet = .ok request) (otherAccepted : parse other = .ok otherRequest)
    (beginning : packet <+: other) : packet = other := by
  obtain ⟨_, sound, _⟩ := parse_eq_ok_iff.1 accepted
  obtain ⟨_, otherSound, _⟩ := parse_eq_ok_iff.1 otherAccepted
  have within : 2 < packet.length := Nat.lt_of_lt_of_le (by decide) sound.minSize
  have sameByte : (Header.decode other).messageLength = (Header.decode packet).messageLength := by
    obtain ⟨rest, rfl⟩ := beginning
    simp [Header.decode, Bytes.byteAt, List.getElem?_append_left within]
  apply beginning.eq_of_length
  rw [← sound.messageLength_add, ← otherSound.messageLength_add, sameByte]

end Request

/-- The response has the fields of the request, its type in the place of the `portId`. -/
structure Response.Copies (response : Response) (request : Request) : Prop where
  destination : request.destination = .device response.destination
  source : response.source = request.source
  transaction : response.transaction = request.transaction
  responseType : response.responseType.code = request.portId
  messageCount : response.messageCount = request.messageCount
  subDevice : response.subDevice = request.subDevice
  commandClass : response.commandClass = request.commandClass
  pid : response.pid = request.pid
  parameterData : response.parameterData.bytes = request.parameterData

namespace Request

variable {packet : Bytes} {request : Request}

theorem received_of_copies {response : Response} (carried : request.Carried)
    (copies : response.Copies request) : response.received = request := by
  have commandClass : CommandClass.ofCode response.commandClass.code = request.commandClass := by
    rw [copies.commandClass, carried.commandClass]
  cases request
  simp only [Response.received, Request.mk.injEq]
  exact ⟨copies.destination.symm, copies.source, copies.transaction, copies.responseType,
    copies.messageCount, copies.subDevice, commandClass, copies.pid, copies.parameterData⟩

theorem exists_copies {own : Uid} (carried : request.Carried)
    (destination : request.destination = .device own)
    (portId : request.portId = 0x00 ∨ request.portId = 0x02) :
    ∃ response : Response, response.Copies request := by
  have responseType : ∃ responseType : ResponseType, responseType.code = request.portId := by
    rcases portId with ack | nack
    · exact ⟨.ack, ack.symm⟩
    · exact ⟨.nackReason, nack.symm⟩
  obtain ⟨responseType, code⟩ := responseType
  exact ⟨⟨own, request.source, request.transaction, responseType, request.messageCount,
    request.subDevice, request.commandClass, request.pid, ⟨request.parameterData, carried.size⟩⟩,
    destination, rfl, rfl, code, rfl, rfl, rfl, rfl, rfl⟩

/-- A packet is the only one that is read as its request. What it begins with, and what begins
with it, is no packet. To one device and with the code of a response type in it, it is what
the response with the same fields is written as. -/
theorem packet_determined_by_request (accepted : parse packet = .ok request) :
    (∀ other, parse other = .ok request → other = packet) ∧
      (∀ other, other <+: packet ∨ packet <+: other → other ≠ packet →
        ∃ error, parse other = .error error) ∧
      ∀ own, request.destination = .device own →
        request.portId = 0x00 ∨ request.portId = 0x02 →
        (∃ response : Response, response.Copies request) ∧
          ∀ response : Response, response.Copies request → response.spans.flatten = packet := by
  obtain ⟨carried, written⟩ := parse_eq_ok_iff_encode_eq.1 accepted
  refine ⟨?_, ?_, ?_⟩
  · intro other otherAccepted
    rw [← written, ← encode_of_parse otherAccepted]
  · intro other beginning apart
    cases parsed : parse other with
    | error error => exact ⟨error, rfl⟩
    | ok otherRequest =>
      rcases beginning with shorter | longer
      · exact absurd (eq_of_beginning parsed accepted shorter) apart
      · exact absurd (eq_of_beginning accepted parsed longer).symm apart
  · intro own destination portId
    refine ⟨exists_copies carried destination portId, ?_⟩
    intro response copies
    calc response.spans.flatten = response.received.encode := response.encode_received.symm
      _ = request.encode := by rw [received_of_copies carried copies]
      _ = packet := written

/-- The data is the sum of the header, so the packet without its last two bytes verifies. Yet
it is not read, and the whole is what a refusal of an unknown class is written as. -/
theorem packet_determined_by_request_verified_beginning :
    let packet : Bytes := [0xCC, 0x01, 0x1A, 0x7A, 0x70, 0, 0, 0, 1, 0x7A, 0x70, 0, 0, 0, 2,
      5, 2, 3, 0, 1, 0x40, 0, 0x60, 2, 0x03, 0x6B, 0x03, 0xD9]
    let destination : Uid := ⟨0x7A70, 1, by decide⟩
    let source : Uid := ⟨0x7A70, 2, by decide⟩
    let request : Request :=
      ⟨.device destination, source, 5, 2, 3, 1, .unknown 0x40, .deviceInfo, [0x03, 0x6B]⟩
    let response : Response := ⟨destination, source, 5, .nackReason, 3, 1, .unknown 0x40,
      .deviceInfo, ⟨[0x03, 0x6B], by decide⟩⟩
    parse packet = .ok request ∧ Checksum.verify (packet.take 26) = true ∧
      (∃ error, parse (packet.take 26) = .error error) ∧
      response.Copies request ∧ response.spans.flatten = packet := by
  intro packet destination source request response
  have accepted : parse packet = .ok request := rfl
  have copies : response.Copies request := ⟨rfl, rfl, rfl, rfl, rfl, rfl, rfl, rfl, rfl⟩
  obtain ⟨_, apart, written⟩ := packet_determined_by_request accepted
  refine ⟨accepted, by decide, ?_, copies, (written destination rfl (.inr rfl)).2 response copies⟩
  exact apart (packet.take 26) (.inl (List.take_prefix 26 packet)) (by decide)

end Request

end Rdm
