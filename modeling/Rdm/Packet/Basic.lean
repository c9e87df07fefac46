import Rdm.Bytes

/-! A packet is a header of 24 bytes, parameter data, and a checksum of two bytes. Its
message length field leaves the checksum out. -/
namespace Rdm.Packet

def startCode : UInt8 := 0xCC

def subStartCode : UInt8 := 0x01

def headerSize : Nat := 24

def checksumSize : Nat := 2

def minSize : Nat := headerSize + checksumSize

def maxSize : Nat := 257

/-- The sub device number that stands for the device itself. -/
def rootDevice : UInt16 := 0

end Rdm.Packet
