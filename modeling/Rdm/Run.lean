import Rdm.Responder

/-! A run starts a responder and then performs operations one after another, each with
the transport of that moment. It keeps the report of every operation, the responder
after it, and all events. A conversation is made of requests alone, and of what a
responder does about them. -/
namespace Rdm

inductive Operation where
  | handlePacket (packet : Bytes)
  | handleRequest (request : Request)
  | sendAnswer (answer : Answer)
  | reset
  | reconfigure (config : Config)
  deriving DecidableEq, Repr

inductive Report (ε : Type) where
  | handled (result : Except (PacketError ε) Unit)
  | answered (answer : Answer)
  | sent (result : Except ε Unit)
  | done

/-- An operation with the transport that it meets. -/
structure Step (ε : Type) where
  operation : Operation
  transport : Transport ε

namespace Responder

variable {ε : Type}

def perform (responder : Responder) (step : Step ε) : Reaction Responder (Report ε) :=
  match step.operation with
  | .handlePacket packet => (responder.handlePacket step.transport packet).map .handled
  | .handleRequest request => (responder.handleRequest request).map .answered
  | .sendAnswer answer => (responder.sendAnswer step.transport answer).map .sent
  | .reset => responder.reset.map fun _ => .done
  | .reconfigure config => (responder.reconfigure config).map fun _ => .done

def trace (responder : Responder) : List (Step ε) → List (Reaction Responder (Report ε))
  | [] => []
  | step :: rest =>
    let reaction := responder.perform step
    reaction :: trace reaction.next rest

def afterSteps (responder : Responder) : List (Step ε) → Responder
  | [] => responder
  | step :: rest => afterSteps (responder.perform step).next rest

def eventsOf (responder : Responder) (steps : List (Step ε)) : List Event :=
  (responder.trace steps).flatMap Reaction.events

theorem eventsOf_cons (responder : Responder) (step : Step ε) (rest : List (Step ε)) :
    responder.eventsOf (step :: rest) =
      (responder.perform step).events ++ (responder.perform step).next.eventsOf rest :=
  rfl

theorem trace_append (responder : Responder) (front back : List (Step ε)) :
    responder.trace (front ++ back) =
      responder.trace front ++ (responder.afterSteps front).trace back := by
  induction front generalizing responder with
  | nil => rfl
  | cons step rest ih => simp [trace, afterSteps, ih]

end Responder

structure Turn where
  request : Request
  reaction : Reaction Responder Answer
  deriving DecidableEq

namespace Responder

def turn (responder : Responder) (request : Request) : Turn :=
  ⟨request, responder.handleRequest request⟩

/-- What becomes of requests that are handled one after the other. -/
def conversation (responder : Responder) : List Request → List Turn
  | [] => []
  | request :: rest =>
    let turn := responder.turn request
    turn :: conversation turn.reaction.next rest

end Responder

/-- A fresh responder and the steps it performs. -/
structure Run (ε : Type) where
  config : Config
  steps : List (Step ε)

namespace Run

variable {ε : Type}

def final (run : Run ε) : Responder :=
  (Responder.start run.config).next.afterSteps run.steps

def events (run : Run ε) : List Event :=
  (Responder.start run.config).events ++ (Responder.start run.config).next.eventsOf run.steps

def trace (run : Run ε) : List (Reaction Responder (Report ε)) :=
  ((Responder.start run.config).map fun _ => .done) ::
    (Responder.start run.config).next.trace run.steps

def andThen (run : Run ε) (later : List (Step ε)) : Run ε :=
  { run with steps := run.steps ++ later }

theorem events_eq_flatMap_trace (run : Run ε) :
    run.events = run.trace.flatMap Reaction.events :=
  rfl

theorem trace_andThen (run : Run ε) (later : List (Step ε)) :
    (run.andThen later).trace = run.trace ++ run.final.trace later := by
  rw [trace, andThen, Responder.trace_append]
  rfl

end Run

/-- The level that the last of some calls gave a pin; low before the first. -/
def pinLevel (calls : List PinCall) (pin : Pin) : Level :=
  match calls.reverse.find? fun call => call.pin == pin with
  | some call => call.level
  | none => .low

end Rdm
