import Rdm.Device

/-! The payload that describes a device in 19 bytes, every number big-endian at a fixed
offset. A device without a start address writes 0xFFFF in its place. -/
namespace Rdm

structure DeviceInfo where
  deviceModel : UInt16
  productCategory : UInt16
  softwareVersion : UInt32
  dmxFootprint : UInt16
  currentPersonality : UInt8
  personalityCount : UInt8
  dmxStartAddress : Option UInt16
  subDeviceCount : UInt16
  sensorCount : UInt8
  deriving DecidableEq, Repr

namespace DeviceInfo

def protocolVersion : UInt16 := 0x0100

def noStartAddress : UInt16 := 0xFFFF

/-- A responder has neither sub devices nor sensors. -/
def ofMetadata (metadata : Metadata) : DeviceInfo where
  deviceModel := metadata.deviceModel
  productCategory := metadata.productCategory
  softwareVersion := metadata.softwareVersion
  dmxFootprint := metadata.dmxFootprint
  currentPersonality := metadata.currentPersonality
  personalityCount := metadata.personalityCount
  dmxStartAddress := metadata.dmxStartAddress
  subDeviceCount := 0
  sensorCount := 0

def encode (info : DeviceInfo) : Bytes :=
  Bytes.ofNat 2 protocolVersion.toNat ++
    Bytes.ofNat 2 info.deviceModel.toNat ++
    Bytes.ofNat 2 info.productCategory.toNat ++
    Bytes.ofNat 4 info.softwareVersion.toNat ++
    Bytes.ofNat 2 info.dmxFootprint.toNat ++
    [info.currentPersonality, info.personalityCount] ++
    Bytes.ofNat 2 (info.dmxStartAddress.getD noStartAddress).toNat ++
    Bytes.ofNat 2 info.subDeviceCount.toNat ++
    [info.sensorCount]

@[simp] theorem length_encode (info : DeviceInfo) : info.encode.length = 19 := by
  simp [encode]

end DeviceInfo

end Rdm
