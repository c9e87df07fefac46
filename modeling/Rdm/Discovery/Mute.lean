import Rdm.Event
import Rdm.Packet.Nack

/-! A device that has been found is muted, and drops out of later searches until it is
unmuted. Both requests are acknowledged by a control field and, for a device that is
several responders, the identifier of the primary one. -/
namespace Rdm.Discovery

structure MuteReply where
  /-- The responder is a proxy device. -/
  managedProxy : Bool := false
  /-- The responder supports sub devices. -/
  subDevice : Bool := false
  /-- The responder cannot work before it receives firmware. -/
  bootLoader : Bool := false
  /-- A proxy answers for the device. -/
  proxyDevice : Bool := false
  /-- The primary responder of a device that is several. -/
  bindingUid : Option Uid := none
  deriving DecidableEq, Repr

namespace MuteReply

/-- The bits of the control field, the lowest one first. Those behind the flags are reserved. -/
def bits (reply : MuteReply) : List Bool :=
  [reply.managedProxy, reply.subDevice, reply.bootLoader, reply.proxyDevice] ++
    List.replicate 12 false

def packed (reply : MuteReply) : Bytes :=
  Bytes.ofBits 2 reply.bits

/-- The packed bytes are a little-endian word. On the wire it is a big-endian one. -/
def controlField (reply : MuteReply) : Nat :=
  Bytes.toNat reply.packed.reverse

def encode (reply : MuteReply) : Bytes :=
  Bytes.ofNat 2 reply.controlField ++ (reply.bindingUid.map Uid.toBytes).getD []

theorem length_encode (reply : MuteReply) :
    reply.encode.length = if reply.bindingUid.isSome then 8 else 2 := by
  cases h : reply.bindingUid <;> simp [encode, h]

def parameterData (reply : MuteReply) : ParameterData :=
  ⟨reply.encode, by rw [length_encode]; split <;> decide⟩

end MuteReply

/-- Mutes or unmutes a device. The mute pin is low while it is muted. A request that
carries data is left alone. -/
def setMuted (muted : Bool) (config : Config) (state : State) (request : Request) :
    Reaction State Outcome :=
  if request.parameterData.isEmpty then
    { result := .acknowledged (MuteReply.parameterData {})
      next := { state with muted := muted }
      events := [.drive ⟨config.mutePin, Level.ofBool !muted⟩, .log (.discoveryState muted)] }
  else ⟨.silent, state, []⟩

theorem result_setMuted (muted : Bool) (config : Config) (state : State)
    (request : Request) :
    (setMuted muted config state request).result =
      if request.parameterData = [] then .acknowledged (MuteReply.parameterData {})
      else .silent := by
  unfold setMuted
  cases request.parameterData <;> rfl

end Rdm.Discovery
