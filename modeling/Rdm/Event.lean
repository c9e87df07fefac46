import Rdm.Address
import Rdm.Device
import Rdm.Packet.Request
import Rdm.Parameter.Table
import Rdm.Transmission

/-! Everything a responder does to the world around it: it drives pins, sends, and logs.
A `Reaction` is one step of a responder with its result, the state it leaves and the
events in the order they happen. -/
namespace Rdm

inductive Level where
  | low
  | high
  deriving DecidableEq, Repr

def Level.ofBool : Bool → Level
  | true => .high
  | false => .low

structure PinCall where
  pin : Pin
  level : Level
  deriving DecidableEq, Repr

inductive Severity where
  | debug
  | trace
  deriving DecidableEq, Repr

inductive LogRecord where
  | droppingPacket (error : ParseError)
  | responderReset (uid : Uid)
  | discoveryState (muted : Bool)
  | identify (identifying : Bool)
  | ignoringSearch
  | ignoringResponse (commandClass : CommandClass) (source : Uid)
  | ignoringDiscoveryPid (pid : Pid)
  | subDeviceOutOfRange (subDevice : UInt16)
  | unsupportedPid (pid : Pid) (commandClass : CommandClass)
  | dispatching (pid : Pid) (handler : Handler)
  deriving DecidableEq, Repr

namespace LogRecord

/-- Changes of the responder are logged for debugging, decisions only for tracing. -/
def severity : LogRecord → Severity
  | droppingPacket _ | responderReset _ | discoveryState _ | identify _ => .debug
  | _ => .trace

def message : LogRecord → String
  | droppingPacket error => "dropping frame: " ++ error.message
  | responderReset uid => "responder " ++ uid.text ++ " reset"
  | discoveryState true => "discovery state is now Muted"
  | discoveryState false => "discovery state is now Unmuted"
  | identify true => "identify is now true"
  | identify false => "identify is now false"
  | ignoringSearch => "ignoring DISC_UNIQUE_BRANCH while muted"
  | ignoringResponse commandClass source =>
    "ignoring " ++ commandClass.name ++ " from " ++ source.text
  | ignoringDiscoveryPid pid => "ignoring discovery pid " ++ pid.text
  | subDeviceOutOfRange subDevice =>
    "sub device " ++ subDevice.toNat.repr ++ " is out of range"
  | unsupportedPid pid commandClass =>
    "pid " ++ pid.text ++ " not supported for " ++ commandClass.name
  | dispatching pid handler => "dispatching pid " ++ pid.text ++ " to " ++ handler.name

end LogRecord

inductive Event where
  | drive (call : PinCall)
  | send (transmission : Transmission)
  | log (record : LogRecord)
  deriving DecidableEq, Repr

namespace Event

def pinCall? : Event → Option PinCall
  | drive call => some call
  | _ => none

def transmission? : Event → Option Transmission
  | send transmission => some transmission
  | _ => none

def isLog : Event → Bool
  | log _ => true
  | _ => false

end Event

def pinCalls (events : List Event) : List PinCall :=
  events.filterMap Event.pinCall?

def transmissions (events : List Event) : List Transmission :=
  events.filterMap Event.transmission?

@[simp] theorem pinCalls_append (front back : List Event) :
    pinCalls (front ++ back) = pinCalls front ++ pinCalls back := by
  simp [pinCalls]

@[simp] theorem transmissions_append (front back : List Event) :
    transmissions (front ++ back) = transmissions front ++ transmissions back := by
  simp [transmissions]

@[simp] theorem pinCalls_map_send (sent : List Transmission) : pinCalls (sent.map .send) = [] := by
  induction sent with
  | nil => rfl
  | cons transmission rest ih => exact ih

@[simp] theorem transmissions_map_send (sent : List Transmission) :
    transmissions (sent.map .send) = sent := by
  induction sent with
  | nil => rfl
  | cons transmission rest ih => exact congrArg _ ih

/-- One step: what it gives, the state it leaves, and what it does meanwhile. -/
structure Reaction (σ α : Type) where
  result : α
  next : σ
  events : List Event := []
  deriving DecidableEq, Repr

namespace Reaction

def map {σ α β : Type} (f : α → β) (reaction : Reaction σ α) : Reaction σ β :=
  ⟨f reaction.result, reaction.next, reaction.events⟩

def mapState {σ τ α : Type} (f : σ → τ) (reaction : Reaction σ α) : Reaction τ α :=
  ⟨reaction.result, f reaction.next, reaction.events⟩

def after {σ α : Type} (reaction : Reaction σ α) (earlier : List Event) : Reaction σ α :=
  ⟨reaction.result, reaction.next, earlier ++ reaction.events⟩

/-- Hands a transmission to a transport. The attempt counts as an event even where it fails. -/
def transmit {ε σ : Type} (transport : Transport ε) (state : σ) (transmission : Transmission) :
    Reaction σ (Except ε Unit) :=
  ⟨transport transmission, state, [.send transmission]⟩

/-- Two reactions that differ in nothing but their results. -/
structure SameEffect {σ α β : Type} (first : Reaction σ α) (second : Reaction σ β) :
    Prop where
  next : first.next = second.next
  events : first.events = second.events

theorem SameEffect.map {σ α β γ δ : Type} {first : Reaction σ α} {second : Reaction σ β}
    (same : first.SameEffect second) (f : α → γ) (g : β → δ) :
    (first.map f).SameEffect (second.map g) :=
  ⟨same.next, same.events⟩

end Reaction

end Rdm
