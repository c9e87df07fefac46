import Rdm.Packet.Checksum
import Rdm.Packet.Header
import Rdm.Packet.ParameterData

/-! A request is read from a whole packet. The checks stand in one order, and the first
that fails names the fault. Parsing never gives more parameter data than a packet holds,
but a `Request` that was put together otherwise may carry any amount. -/
namespace Rdm

inductive ParseError where
  | bufferTooSmall
  | bufferTooBig
  | checksumInvalid
  | wrongStartCode
  /-- Carries the message length field. -/
  | wrongMessageLength (field : UInt8)
  /-- Carries the parameter data length field. -/
  | wrongDataLength (field : UInt8)
  | sourceIsBroadcast
  deriving DecidableEq, Repr

def ParseError.message : ParseError → String
  | .bufferTooSmall => "buffer too small"
  | .bufferTooBig => "buffer too big"
  | .checksumInvalid => "checksum is incorrect"
  | .wrongStartCode => "start code is incorrect"
  | .wrongMessageLength field => "message length " ++ field.toNat.repr ++ " is incorrect"
  | .wrongDataLength field => "parameter data length " ++ field.toNat.repr ++ " is incorrect"
  | .sourceIsBroadcast => "source uid is a broadcast"

structure Request where
  destination : Address
  source : Uid
  transaction : UInt8
  portId : UInt8
  messageCount : UInt8
  subDevice : UInt16
  commandClass : CommandClass
  pid : Pid
  parameterData : Bytes
  deriving DecidableEq, Repr

namespace Request

def ofHeader (header : Header) (source : Uid) (parameterData : Bytes) : Request where
  destination := header.destination
  source := source
  transaction := header.transaction
  portId := header.portId
  messageCount := header.messageCount
  subDevice := header.subDevice
  commandClass := header.commandClass
  pid := header.pid
  parameterData := parameterData

def parse (packet : Bytes) : Except ParseError Request :=
  let header := Header.decode packet
  let messageLength := header.messageLength.toNat
  let dataLength := header.dataLength.toNat
  if packet.length < Packet.minSize then .error .bufferTooSmall
  else if packet.length > Packet.maxSize then .error .bufferTooBig
  else if !Checksum.verify packet then .error .checksumInvalid
  else if header.startCode ≠ Packet.startCode ∨ header.subStartCode ≠ Packet.subStartCode then
    .error .wrongStartCode
  else if messageLength ≠ packet.length - Packet.checksumSize then
    .error (.wrongMessageLength header.messageLength)
  else if dataLength ≠ messageLength - Packet.headerSize ∨
      dataLength > ParameterData.maxLength then
    .error (.wrongDataLength header.dataLength)
  else
    match header.source with
    | .device source => .ok (ofHeader header source (packet.slice Packet.headerSize dataLength))
    | _ => .error .sourceIsBroadcast

end Request

end Rdm
