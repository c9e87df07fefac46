import Rdm.Packet.Nack
import Rdm.Packet.Request
import Rdm.Transmission

/-! A response is written as three spans: header, parameter data and checksum. It
answers exactly one request and mirrors its fields, with source and destination
exchanged. -/
namespace Rdm

structure Response where
  destination : Uid
  source : Uid
  transaction : UInt8
  responseType : ResponseType
  messageCount : UInt8
  subDevice : UInt16
  commandClass : CommandClass
  pid : Pid
  parameterData : ParameterData
  deriving DecidableEq, Repr

namespace Response

def header (response : Response) : Header where
  startCode := Packet.startCode
  subStartCode := Packet.subStartCode
  messageLength := UInt8.ofNat (Packet.headerSize + response.parameterData.bytes.length)
  destination := .device response.destination
  source := .device response.source
  transaction := response.transaction
  portId := response.responseType.code
  messageCount := response.messageCount
  subDevice := response.subDevice
  commandClass := response.commandClass
  pid := response.pid
  dataLength := UInt8.ofNat response.parameterData.bytes.length

def checksum (response : Response) : UInt16 :=
  Checksum.sumSpans [response.header.encode, response.parameterData.bytes]

def spans (response : Response) : List Bytes :=
  [response.header.encode, response.parameterData.bytes, Checksum.toBytes response.checksum]

def encode (response : Response) : Bytes :=
  response.spans.flatten

def packetSize (response : Response) : Nat :=
  Packet.headerSize + response.parameterData.bytes.length + Packet.checksumSize

/-- A response follows a break. -/
def transmission (response : Response) : Transmission :=
  ⟨true, response.spans⟩

theorem length_encode (response : Response) :
    response.encode.length = response.packetSize := by
  simp [encode, spans, packetSize, Nat.add_assoc]

end Response

inductive RespondError where
  | isBroadcast
  deriving DecidableEq, Repr

def RespondError.message : RespondError → String
  | .isBroadcast => "tried to convert broadcast request to response"

/-- The response to a request for one device. It comes from the root device. -/
def Request.respond (request : Request) (responseType : ResponseType)
    (parameterData : ParameterData) : Except RespondError Response :=
  match request.destination with
  | .device own => .ok {
      destination := request.source
      source := own
      transaction := request.transaction
      responseType := responseType
      messageCount := 0
      subDevice := Packet.rootDevice
      commandClass := request.commandClass.response
      pid := request.pid
      parameterData := parameterData }
  | _ => .error .isBroadcast

end Rdm
