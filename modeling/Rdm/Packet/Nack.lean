import Rdm.Packet.ParameterData

/-! A response either acknowledges a request or refuses it with one of eleven reasons. -/
namespace Rdm

inductive ResponseType where
  | ack
  | nackReason
  deriving DecidableEq, Repr

/-- The code that a response carries in the place of a `portId`. -/
def ResponseType.code : ResponseType → UInt8
  | .ack => 0x00
  | .nackReason => 0x02

inductive NackReason where
  | unknownPid
  | formatError
  | hardwareFault
  | proxyReject
  | writeProtect
  | unsupportedCommandClass
  | dataOutOfRange
  | bufferFull
  | packetSizeUnsupported
  | subDeviceOutOfRange
  | proxyBufferFull
  deriving DecidableEq, Repr

namespace NackReason

def code : NackReason → UInt16
  | unknownPid => 0x0000
  | formatError => 0x0001
  | hardwareFault => 0x0002
  | proxyReject => 0x0003
  | writeProtect => 0x0004
  | unsupportedCommandClass => 0x0005
  | dataOutOfRange => 0x0006
  | bufferFull => 0x0007
  | packetSizeUnsupported => 0x0008
  | subDeviceOutOfRange => 0x0009
  | proxyBufferFull => 0x000A

def toBytes (reason : NackReason) : Bytes :=
  Bytes.ofNat 2 reason.code.toNat

def parameterData (reason : NackReason) : ParameterData :=
  ⟨reason.toBytes, by simp [toBytes, ParameterData.maxLength]⟩

end NackReason

inductive Outcome where
  | acknowledged (data : ParameterData)
  | refused (reason : NackReason)
  | silent
  deriving DecidableEq, Repr

end Rdm
