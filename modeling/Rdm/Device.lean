import Rdm.Uid

/-! What is fixed about a device until it is configured anew, and the two flags that
requests change. Each flag is shown on an output pin. -/
namespace Rdm

structure Pin where
  channel : UInt8
  bit : UInt8
  deriving DecidableEq, Repr

/-- What a device tells about itself. A device with no start address takes no slots. -/
structure Metadata where
  deviceModel : UInt16 := 0
  productCategory : UInt16 := 0
  softwareVersion : UInt32 := 0
  dmxFootprint : UInt16 := 0
  currentPersonality : UInt8 := 0
  personalityCount : UInt8 := 0
  dmxStartAddress : Option UInt16 := none
  deviceModelDescription : String := "dmx-rdm-responder device"
  manufacturerLabel : String := ""
  softwareVersionLabel : String := "dmx-rdm-responder"
  deriving DecidableEq, Repr

structure Config where
  uid : Uid
  /-- High while the device identifies itself. -/
  identifyPin : Pin
  /-- High while the device takes part in discovery. -/
  mutePin : Pin
  metadata : Metadata
  deriving DecidableEq, Repr

structure State where
  muted : Bool := false
  identifying : Bool := false
  deriving DecidableEq, Repr

end Rdm
