import Rdm.Event
import Rdm.Packet.Nack
import Rdm.Parameter.DeviceInfo

/-! A request outside discovery is acknowledged or refused. Refusals stand in one order:
a sub device, a parameter without handler, a read with data, a write with data of the
wrong size. -/
namespace Rdm

def maxLabelLength : Nat := 32

/-- The first bytes of a label, without a terminator. The cut may fall into a character. -/
def labelBytes (label : String) : Bytes :=
  label.toUTF8.data.toList.take maxLabelLength

def Getter.payload (config : Config) (state : State) : Getter → Option ParameterData
  | .supportedParameters => ParameterData.ofPids? Parameter.listed
  | .deviceInfo => ParameterData.ofBytes? (DeviceInfo.ofMetadata config.metadata).encode
  | .deviceModelDescription => label config.metadata.deviceModelDescription
  | .manufacturerLabel => label config.metadata.manufacturerLabel
  | .softwareVersionLabel => label config.metadata.softwareVersionLabel
  | .identifyDevice => ParameterData.ofBytes? [if state.identifying then 1 else 0]
where
  label (text : String) : Option ParameterData := ParameterData.ofBytes? (labelBytes text)

/-- A payload that fits no response refuses the read. -/
def Getter.read (config : Config) (state : State) (getter : Getter) : Outcome :=
  match getter.payload config state with
  | some data => .acknowledged data
  | none => .refused .packetSizeUnsupported

/-- Carries out a write. Identifying is switched by one byte, off by zero. -/
def Setter.write (config : Config) (state : State) (data : Bytes) :
    Setter → Reaction State Outcome
  | .identifyDevice =>
    match data with
    | [value] =>
      let identifying := value != 0
      { result := .acknowledged .empty
        next := { state with identifying := identifying }
        events := [.drive ⟨config.identifyPin, Level.ofBool identifying⟩,
          .log (.identify identifying)] }
    | _ => ⟨.refused .formatError, state, []⟩

namespace Parameter

def dispatch (config : Config) (state : State) (request : Request) : Reaction State Outcome :=
  if request.subDevice ≠ Packet.rootDevice then
    ⟨.refused .subDeviceOutOfRange, state, [.log (.subDeviceOutOfRange request.subDevice)]⟩
  else
    match lookup? request.pid request.commandClass with
    | none =>
      ⟨.refused .unknownPid, state, [.log (.unsupportedPid request.pid request.commandClass)]⟩
    | some (.get getter) =>
      if request.parameterData.isEmpty then
        ⟨getter.read config state, state, [.log (.dispatching request.pid (.get getter))]⟩
      else ⟨.refused .formatError, state, []⟩
    | some (.set setter) =>
      (setter.write config state request.parameterData).after
        [.log (.dispatching request.pid (.set setter))]

/-- All that can become of a request outside discovery. Which of it does is settled before
the state is looked at. -/
inductive Dispatched (config : Config) (request : Request) : Prop where
  | subDevice (other : request.subDevice ≠ Packet.rootDevice)
      (handled : ∀ state, dispatch config state request = ⟨.refused .subDeviceOutOfRange, state,
        [.log (.subDeviceOutOfRange request.subDevice)]⟩)
  | unsupported (root : request.subDevice = Packet.rootDevice)
      (missing : lookup? request.pid request.commandClass = none)
      (handled : ∀ state, dispatch config state request = ⟨.refused .unknownPid, state,
        [.log (.unsupportedPid request.pid request.commandClass)]⟩)
  | read (root : request.subDevice = Packet.rootDevice) (getter : Getter)
      (found : lookup? request.pid request.commandClass = some (.get getter))
      (data : request.parameterData.isEmpty = true)
      (handled : ∀ state, dispatch config state request = ⟨getter.read config state, state,
        [.log (.dispatching request.pid (.get getter))]⟩)
  | readWithData (root : request.subDevice = Packet.rootDevice) (getter : Getter)
      (found : lookup? request.pid request.commandClass = some (.get getter))
      (data : request.parameterData.isEmpty = false)
      (handled : ∀ state, dispatch config state request = ⟨.refused .formatError, state, []⟩)
  | write (root : request.subDevice = Packet.rootDevice) (setter : Setter)
      (found : lookup? request.pid request.commandClass = some (.set setter))
      (handled : ∀ state, dispatch config state request =
        (setter.write config state request.parameterData).after
          [.log (.dispatching request.pid (.set setter))])

theorem dispatched (config : Config) (request : Request) : Dispatched config request := by
  by_cases root : request.subDevice = Packet.rootDevice
  · cases found : lookup? request.pid request.commandClass with
    | none => exact .unsupported root found fun _ => by simp [dispatch, root, found]
    | some handler =>
      cases handler with
      | get getter =>
        cases data : request.parameterData.isEmpty with
        | true => exact .read root getter found data fun _ => by simp [dispatch, root, found, data]
        | false =>
          exact .readWithData root getter found data fun _ => by
            simp [dispatch, root, found, data]
      | set setter => exact .write root setter found fun _ => by simp [dispatch, root, found]
  · exact .subDevice root fun _ => by simp [dispatch, root]

end Parameter

end Rdm
