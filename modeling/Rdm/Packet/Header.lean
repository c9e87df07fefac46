import Rdm.Address
import Rdm.Packet.Basic
import Rdm.Packet.CommandClass
import Rdm.Packet.Pid

/-! The 24 bytes from the start code to the parameter data length, with every number
big-endian at a fixed offset. Requests and responses share it; where a request has its
`portId`, a response has its type. -/
namespace Rdm

structure Header where
  startCode : UInt8
  subStartCode : UInt8
  messageLength : UInt8
  destination : Address
  source : Address
  transaction : UInt8
  portId : UInt8
  messageCount : UInt8
  subDevice : UInt16
  commandClass : CommandClass
  pid : Pid
  dataLength : UInt8
  deriving DecidableEq, Repr

namespace Header

def encode (header : Header) : Bytes :=
  [header.startCode, header.subStartCode, header.messageLength] ++
    header.destination.toBytes ++ header.source.toBytes ++
    [header.transaction, header.portId, header.messageCount] ++
    Bytes.ofNat 2 header.subDevice.toNat ++ [header.commandClass.code] ++
    Bytes.ofNat 2 header.pid.toNat ++ [header.dataLength]

/-- Reads the fields at their offsets; bytes behind the header do not matter. -/
def decode (bytes : Bytes) : Header where
  startCode := bytes.byteAt 0
  subStartCode := bytes.byteAt 1
  messageLength := bytes.byteAt 2
  destination := Address.ofBytes (bytes.slice 3 6)
  source := Address.ofBytes (bytes.slice 9 6)
  transaction := bytes.byteAt 15
  portId := bytes.byteAt 16
  messageCount := bytes.byteAt 17
  subDevice := UInt16.ofNat (bytes.numberAt 18 2)
  commandClass := CommandClass.ofCode (bytes.byteAt 20)
  pid := UInt16.ofNat (bytes.numberAt 21 2)
  dataLength := bytes.byteAt 23

@[simp] theorem length_encode (header : Header) :
    header.encode.length = Packet.headerSize := by
  simp [encode, Packet.headerSize]

/-- What is read back from a written header: addresses and class as their bytes tell. -/
theorem decode_encode_append (header : Header) (rest : Bytes) :
    decode (header.encode ++ rest) = { header with
      destination := Address.ofBytes header.destination.toBytes
      source := Address.ofBytes header.source.toBytes
      commandClass := CommandClass.ofCode header.commandClass.code } := by
  simp [encode, decode, Bytes.byteAt, Bytes.numberAt, Bytes.slice, List.drop_append,
    List.drop_of_length_le, List.getElem?_append]

/-- Writing what was read gives the bytes of the header back: no field loses any of them. -/
theorem encode_decode {bytes : Bytes} (h : Packet.headerSize ≤ bytes.length) :
    (decode bytes).encode = bytes.take Packet.headerSize := by
  have size : 24 ≤ bytes.length := h
  have byte (offset : Nat) (within : offset + 1 ≤ 24) :
      [bytes.byteAt offset] = bytes.slice offset 1 :=
    (Bytes.slice_one (by omega)).symm
  have triple (offset : Nat) (within : offset + 3 ≤ 24) :
      [bytes.byteAt offset, bytes.byteAt (offset + 1), bytes.byteAt (offset + 2)] =
        bytes.slice offset 3 :=
    calc [bytes.byteAt offset] ++ [bytes.byteAt (offset + 1)] ++ [bytes.byteAt (offset + 2)]
        = bytes.slice offset 1 ++ bytes.slice (offset + 1) 1 ++ bytes.slice (offset + 2) 1 := by
          rw [byte offset (by omega), byte (offset + 1) (by omega), byte (offset + 2) (by omega)]
      _ = bytes.slice offset 3 := by
          rw [bytes.slice_append_slice offset 1 1, bytes.slice_append_slice offset 2 1]
  have word (offset : Nat) (within : offset + 2 ≤ 24) :
      Bytes.ofNat 2 (UInt16.ofNat (bytes.numberAt offset 2)).toNat = bytes.slice offset 2 := by
    have fits : bytes.numberAt offset 2 < 65536 := Bytes.numberAt_lt bytes offset 2
    rw [UInt16.toNat_ofNat', Nat.mod_eq_of_lt fits]
    exact Bytes.ofNat_numberAt (by omega)
  have address (offset : Nat) (within : offset + 6 ≤ 24) :
      (Address.ofBytes (bytes.slice offset 6)).toBytes = bytes.slice offset 6 := by
    apply Address.toBytes_ofBytes
    rw [Bytes.length_slice]
    omega
  calc (decode bytes).encode
      = bytes.slice 0 3 ++ bytes.slice 3 6 ++ bytes.slice 9 6 ++ bytes.slice 15 3 ++
          bytes.slice 18 2 ++ bytes.slice 20 1 ++ bytes.slice 21 2 ++ bytes.slice 23 1 := by
        simp only [encode, decode, CommandClass.code_ofCode]
        rw [triple 0 (by decide), address 3 (by decide), address 9 (by decide),
          triple 15 (by decide), word 18 (by decide), byte 20 (by decide), word 21 (by decide),
          byte 23 (by decide)]
    _ = bytes.slice 0 24 := by
        rw [bytes.slice_append_slice 0 3 6, bytes.slice_append_slice 0 9 6,
          bytes.slice_append_slice 0 15 3, bytes.slice_append_slice 0 18 2,
          bytes.slice_append_slice 0 20 1, bytes.slice_append_slice 0 21 2,
          bytes.slice_append_slice 0 23 1]
    _ = bytes.take Packet.headerSize := rfl

end Header

end Rdm
