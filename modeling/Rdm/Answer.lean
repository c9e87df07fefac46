import Rdm.Discovery.Frame
import Rdm.Event
import Rdm.Packet.Response

/-! What a responder says to one request: a response, a discovery frame, or nothing. -/
namespace Rdm

inductive Answer where
  | response (response : Response)
  | discovery (frame : Discovery.Frame)
  | nothing
  deriving DecidableEq, Repr

namespace Answer

def ofFrame? : Option Discovery.Frame → Answer
  | some frame => .discovery frame
  | none => .nothing

theorem ofFrame?_eq_discovery_iff {found : Option Discovery.Frame} {frame : Discovery.Frame} :
    ofFrame? found = .discovery frame ↔ found = some frame := by
  cases found <;> simp [ofFrame?]

theorem ofFrame?_ne_response {found : Option Discovery.Frame} {response : Response} :
    ofFrame? found ≠ .response response := by
  cases found <;> simp [ofFrame?]

/-- The answer that an outcome makes to a request. Only a request for exactly this
device is answered, whatever was done for it. -/
def ofOutcome (request : Request) (addressing : Addressing) : Outcome → Answer
  | .acknowledged data => reply .ack data
  | .refused reason => reply .nackReason reason.parameterData
  | .silent => .nothing
where
  reply (responseType : ResponseType) (data : ParameterData) : Answer :=
    match request.respond responseType data with
    | .ok r => if addressing.allowsResponse then .response r else .nothing
    | .error _ => .nothing

def transmission? : Answer → Option Transmission
  | .response r => some r.transmission
  | .discovery frame => some frame.transmission
  | .nothing => none

/-- Without an answer nothing is sent, so nothing can fail. -/
def send {ε σ : Type} (transport : Transport ε) (state : σ) :
    Answer → Reaction σ (Except ε Unit)
  | .response r => .transmit transport state r.transmission
  | .discovery frame => .transmit transport state frame.transmission
  | .nothing => ⟨.ok (), state, []⟩

/-- What a transport makes of the answer. -/
def deliver {ε : Type} (answer : Answer) (transport : Transport ε) : Except ε Unit :=
  (answer.send transport ()).result

variable {ε σ : Type} {transport : Transport ε} {state : σ} {answer : Answer}

@[simp] theorem result_send : (answer.send transport state).result = answer.deliver transport := by
  cases answer <;> rfl

@[simp] theorem next_send : (answer.send transport state).next = state := by
  cases answer <;> rfl

@[simp] theorem events_send :
    (answer.send transport state).events = answer.transmission?.toList.map .send := by
  cases answer <;> rfl

end Answer

end Rdm
