import Rdm.Discovery.Frame
import Rdm.Packet.Response

/-! `Request.parse_eq_ok_iff` says which packets are read and as what. A request that a
packet can carry is read back from it (`Request.parse_encode`), and a response is
written as such a request, whatever its fields are. A discovery frame is never read, it
is shorter than any packet. -/
namespace Rdm

namespace Request

/-- What the checks of a packet establish, in their order. -/
structure Sound (packet : Bytes) (source : Uid) : Prop where
  minSize : Packet.minSize ≤ packet.length
  maxSize : packet.length ≤ Packet.maxSize
  verified : Checksum.verify packet = true
  startCode : (Header.decode packet).startCode = Packet.startCode
  subStartCode : (Header.decode packet).subStartCode = Packet.subStartCode
  messageLength : (Header.decode packet).messageLength.toNat =
    packet.length - Packet.checksumSize
  dataLength : (Header.decode packet).dataLength.toNat =
    (Header.decode packet).messageLength.toNat - Packet.headerSize
  dataLength_le : (Header.decode packet).dataLength.toNat ≤ ParameterData.maxLength
  source : (Header.decode packet).source = .device source

theorem Sound.messageLength_add {packet : Bytes} {source : Uid} (sound : Sound packet source) :
    (Header.decode packet).messageLength.toNat + 2 = packet.length := by
  have minSize : 26 ≤ packet.length := sound.minSize
  have messageLength := sound.messageLength
  simp only [Packet.checksumSize] at messageLength
  omega

theorem Sound.dataLength_add {packet : Bytes} {source : Uid} (sound : Sound packet source) :
    (Header.decode packet).dataLength.toNat + 26 = packet.length := by
  have minSize : 26 ≤ packet.length := sound.minSize
  have messageLength := sound.messageLength_add
  have dataLength := sound.dataLength
  simp only [Packet.headerSize] at dataLength
  omega

theorem parse_eq_ok_iff {packet : Bytes} {request : Request} :
    parse packet = .ok request ↔
      ∃ source, Sound packet source ∧
        request = ofHeader (Header.decode packet) source
          (packet.slice Packet.headerSize (Header.decode packet).dataLength.toNat) := by
  constructor
  · intro accepted
    simp only [parse] at accepted
    split at accepted
    · contradiction
    next minSize =>
    split at accepted
    · contradiction
    next maxSize =>
    split at accepted
    · contradiction
    next verified =>
    split at accepted
    · contradiction
    next startCodes =>
    split at accepted
    · contradiction
    next messageLength =>
    split at accepted
    · contradiction
    next dataLengths =>
    split at accepted
    next source hsource =>
      obtain ⟨startCode, subStartCode⟩ := not_or.1 startCodes
      obtain ⟨dataLength, dataLength_le⟩ := not_or.1 dataLengths
      cases accepted
      exact ⟨source, ⟨Nat.not_lt.1 minSize, Nat.not_lt.1 maxSize, by simpa using verified,
        Decidable.not_not.1 startCode, Decidable.not_not.1 subStartCode,
        Decidable.not_not.1 messageLength, Decidable.not_not.1 dataLength,
        Nat.not_lt.1 dataLength_le, hsource⟩, rfl⟩
    next => contradiction
  · rintro ⟨source, sound, rfl⟩
    simp only [parse]
    rw [if_neg (Nat.not_lt.2 sound.minSize), if_neg (Nat.not_lt.2 sound.maxSize),
      if_neg (by simp [sound.verified]),
      if_neg (not_or.2 ⟨not_not_intro sound.startCode, not_not_intro sound.subStartCode⟩),
      if_neg (not_not_intro sound.messageLength),
      if_neg (not_or.2 ⟨not_not_intro sound.dataLength, Nat.not_lt.2 sound.dataLength_le⟩),
      sound.source]

theorem commandClass_of_parse {packet : Bytes} {request : Request}
    (accepted : parse packet = .ok request) :
    CommandClass.ofCode request.commandClass.code = request.commandClass := by
  obtain ⟨source, _, rfl⟩ := parse_eq_ok_iff.1 accepted
  simp [ofHeader, Header.decode]

theorem parse_of_length_lt {packet : Bytes} (h : packet.length < Packet.minSize) :
    parse packet = .error .bufferTooSmall := by
  simp only [parse]
  rw [if_pos h]

def header (request : Request) : Header where
  startCode := Packet.startCode
  subStartCode := Packet.subStartCode
  messageLength := UInt8.ofNat (Packet.headerSize + request.parameterData.length)
  destination := request.destination
  source := .device request.source
  transaction := request.transaction
  portId := request.portId
  messageCount := request.messageCount
  subDevice := request.subDevice
  commandClass := request.commandClass
  pid := request.pid
  dataLength := UInt8.ofNat request.parameterData.length

def encode (request : Request) : Bytes :=
  let body := request.header.encode ++ request.parameterData
  body ++ Checksum.toBytes (Checksum.sum body)

/-- A request that a packet can carry as it is: the data fits, and the bytes of address and
class stand for no other address or class. -/
structure Carried (request : Request) : Prop where
  destination : request.destination ≠ .vendorcast 0xFFFF
  commandClass : CommandClass.ofCode request.commandClass.code = request.commandClass
  size : request.parameterData.length ≤ ParameterData.maxLength

theorem encode_eq_header_append (request : Request) :
    ∃ rest, request.encode = request.header.encode ++ (request.parameterData ++ rest) := by
  rw [encode, List.append_assoc]
  exact ⟨_, rfl⟩

theorem length_encode (request : Request) :
    request.encode.length = request.parameterData.length + 26 := by
  simp [encode, Packet.headerSize, Packet.checksumSize]
  omega

namespace Carried

variable {request : Request}

theorem decode_encode (carried : request.Carried) :
    Header.decode request.encode = request.header := by
  obtain ⟨rest, split⟩ := request.encode_eq_header_append
  rw [split, Header.decode_encode_append]
  simp [header, Address.ofBytes_toBytes, carried.destination, carried.commandClass]

/-- Both lengths fit their byte, as the data is never longer than 231 bytes. -/
theorem messageLength (carried : request.Carried) :
    request.header.messageLength.toNat = 24 + request.parameterData.length := by
  have short : request.parameterData.length ≤ 231 := carried.size
  simp only [header, Packet.headerSize, UInt8.toNat_ofNat']
  omega

theorem dataLength (carried : request.Carried) :
    request.header.dataLength.toNat = request.parameterData.length := by
  have short : request.parameterData.length ≤ 231 := carried.size
  simp only [header, UInt8.toNat_ofNat']
  omega

theorem sound (carried : request.Carried) : Sound request.encode request.source where
  minSize := by
    rw [length_encode]
    exact Nat.le_add_left 26 _
  maxSize := by
    rw [length_encode]
    exact Nat.add_le_add_right carried.size 26
  verified := Checksum.verify_append_toBytes (by simp)
  startCode := by rw [carried.decode_encode, header]
  subStartCode := by rw [carried.decode_encode, header]
  messageLength := by
    rw [carried.decode_encode, carried.messageLength, length_encode, Packet.checksumSize]
    omega
  dataLength := by
    rw [carried.decode_encode, carried.messageLength, carried.dataLength, Packet.headerSize]
    omega
  dataLength_le := by
    rw [carried.decode_encode, carried.dataLength]
    exact carried.size
  source := by rw [carried.decode_encode, header]

end Carried

/-- What a packet can carry is read back from it. -/
theorem parse_encode {request : Request} (carried : request.Carried) :
    parse request.encode = .ok request := by
  have data : request.encode.slice Packet.headerSize request.parameterData.length =
      request.parameterData := by
    obtain ⟨rest, split⟩ := request.encode_eq_header_append
    rw [split, Bytes.slice, ← Header.length_encode request.header]
    simp
  apply parse_eq_ok_iff.2
  refine ⟨request.source, carried.sound, ?_⟩
  rw [carried.decode_encode, carried.dataLength, data]
  rfl

end Request

/-- The request that a response passes for where it is read as one. -/
def Response.received (response : Response) : Request where
  destination := .device response.destination
  source := response.source
  transaction := response.transaction
  portId := response.responseType.code
  messageCount := response.messageCount
  subDevice := response.subDevice
  commandClass := CommandClass.ofCode response.commandClass.code
  pid := response.pid
  parameterData := response.parameterData.bytes

theorem Response.carried_received (response : Response) : response.received.Carried where
  destination := nofun
  commandClass := by simp [received]
  size := response.parameterData.length_le

/-- A response is written as the request that it passes for. -/
theorem Response.encode_received (response : Response) :
    response.received.encode = response.encode := by
  have header : response.received.header.encode = response.header.encode := by
    simp [Request.header, Response.header, received, Header.encode]
  have data : response.received.parameterData = response.parameterData.bytes := rfl
  simp [Request.encode, header, data, encode, spans, checksum, Checksum.sumSpans_eq_sum_flatten]

/-- Every response is read back, whatever its fields are. -/
theorem Response.parse_encode (response : Response) :
    Request.parse response.encode = .ok response.received := by
  rw [← response.encode_received]
  exact Request.parse_encode response.carried_received

/-- The spans of a response make a packet of proper size, with its checksum, that is read back
as what it passes for. A class is the exception: it comes back as the one its code stands for. -/
theorem Response.written_is_read (response : Response) :
    response.spans.flatten.length = response.packetSize ∧
      26 ≤ response.packetSize ∧ response.packetSize ≤ 257 ∧
      Checksum.verify response.spans.flatten = true ∧
      Request.parse response.spans.flatten = .ok response.received := by
  have accepted : Request.parse response.spans.flatten = .ok response.received :=
    response.parse_encode
  have size : response.spans.flatten.length = response.packetSize := response.length_encode
  obtain ⟨_, sound, _⟩ := Request.parse_eq_ok_iff.1 accepted
  have minSize : 26 ≤ response.spans.flatten.length := sound.minSize
  have maxSize : response.spans.flatten.length ≤ 257 := sound.maxSize
  rw [size] at minSize maxSize
  exact ⟨size, minSize, maxSize, sound.verified, accepted⟩

/-- No device takes a discovery frame for a packet. -/
theorem Discovery.Frame.parse_bytes (frame : Discovery.Frame) :
    Request.parse frame.transmission.bytes = .error .bufferTooSmall := by
  apply Request.parse_of_length_lt
  simp [Transmission.bytes, transmission, frame.length_eq, frameSize, Packet.minSize,
    Packet.headerSize, Packet.checksumSize]

end Rdm
