import Rdm.Packet.CommandClass
import Rdm.Packet.ParameterData

/-! Every parameter of a responder, with what reads it and what writes it. The table
alone says which requests are supported and which identifiers are listed as supported. -/
namespace Rdm

/-- What answers a request to read. A getter sees the device and cannot change it. -/
inductive Getter where
  | supportedParameters
  | deviceInfo
  | deviceModelDescription
  | manufacturerLabel
  | softwareVersionLabel
  | identifyDevice
  deriving DecidableEq, Repr

inductive Setter where
  | identifyDevice
  deriving DecidableEq, Repr

inductive Handler where
  | get (getter : Getter)
  | set (setter : Setter)
  deriving DecidableEq, Repr

def Handler.name : Handler → String
  | .get .supportedParameters => "GetSupportedParameters"
  | .get .deviceInfo => "GetDeviceInfo"
  | .get .deviceModelDescription => "GetDeviceModelDescription"
  | .get .manufacturerLabel => "GetManufacturerLabel"
  | .get .softwareVersionLabel => "GetSoftwareVersionLabel"
  | .get .identifyDevice => "GetIdentifyDevice"
  | .set .identifyDevice => "SetIdentifyDevice"

def Handler.commandClass : Handler → CommandClass
  | .get _ => .get
  | .set _ => .set

structure Parameter where
  pid : Pid
  getter : Option Getter
  setter : Option Setter
  deriving DecidableEq, Repr

namespace Parameter

def table : List Parameter :=
  [⟨Pid.supportedParameters, some .supportedParameters, none⟩,
   ⟨Pid.deviceInfo, some .deviceInfo, none⟩,
   ⟨Pid.deviceModelDescription, some .deviceModelDescription, none⟩,
   ⟨Pid.manufacturerLabel, some .manufacturerLabel, none⟩,
   ⟨Pid.softwareVersionLabel, some .softwareVersionLabel, none⟩,
   ⟨Pid.identifyDevice, some .identifyDevice, some .identifyDevice⟩]

def find? (pid : Pid) : Option Parameter :=
  table.find? fun parameter => parameter.pid == pid

def supportsGet (parameter : Parameter) : Bool :=
  parameter.getter.isSome

def supportsSet (parameter : Parameter) : Bool :=
  parameter.setter.isSome

/-- The handler for a command class. Only the two known classes have any. -/
def handler? (parameter : Parameter) : CommandClass → Option Handler
  | .get => parameter.getter.map .get
  | .set => parameter.setter.map .set
  | _ => none

def lookup? (pid : Pid) (commandClass : CommandClass) : Option Handler :=
  (find? pid).bind (·.handler? commandClass)

def listed : List Pid :=
  ((table.map pid).filter fun pid => pid ∉ Pid.mandatory).mergeSort fun a b => decide (a ≤ b)

theorem pairwise_table : (table.map pid).Pairwise (· < ·) := by
  decide

/-- The table stands in the order of its identifiers, so there is nothing to sort. -/
theorem listed_eq_filter : listed = (table.map pid).filter fun pid => pid ∉ Pid.mandatory := by
  apply List.mergeSort_of_pairwise
  exact (pairwise_table.filter _).imp fun below => decide_eq_true (UInt16.le_of_lt below)

theorem pid_of_find? {pid : Pid} {parameter : Parameter} (h : find? pid = some parameter) :
    parameter.pid = pid := by
  simpa using List.find?_some h

/-- No two parameters share an identifier, so each of them is found by its own. -/
theorem find?_eq_some_iff {pid : Pid} {parameter : Parameter} :
    find? pid = some parameter ↔ parameter ∈ table ∧ parameter.pid = pid := by
  constructor
  · intro found
    exact ⟨List.mem_of_find?_eq_some found, pid_of_find? found⟩
  · rintro ⟨member, rfl⟩
    have found : ∀ parameter ∈ table, find? parameter.pid = some parameter := by decide
    exact found parameter member

theorem isSome_handler?_iff {parameter : Parameter} {commandClass : CommandClass} :
    (parameter.handler? commandClass).isSome = true ↔
      commandClass = .get ∧ parameter.supportsGet = true ∨
        commandClass = .set ∧ parameter.supportsSet = true := by
  cases commandClass <;> simp [handler?, supportsGet, supportsSet]

theorem class_of_lookup? {pid : Pid} {commandClass : CommandClass} {handler : Handler}
    (found : lookup? pid commandClass = some handler) : commandClass = handler.commandClass := by
  obtain ⟨parameter, _, handled⟩ := Option.bind_eq_some_iff.1 found
  cases commandClass with
  | get =>
    obtain ⟨getter, _, rfl⟩ := Option.map_eq_some_iff.1 handled
    rfl
  | set =>
    obtain ⟨setter, _, rfl⟩ := Option.map_eq_some_iff.1 handled
    rfl
  | _ => contradiction

end Parameter

end Rdm
