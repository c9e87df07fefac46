import Rdm.Proofs.Answering

/-! A request reaches a device under three addresses. What the device does reads nothing
of the address but that it is reached, so the three lead to the same state and the same
events (`Responder.handleRequest_sentTo`). The address decides only who is answered: a
search that finds the device under each of them, all else under its own. -/
namespace Rdm

def Request.sentTo (request : Request) (destination : Address) : Request :=
  { request with destination := destination }

/-- What is done for a request is settled before its address counts. -/
@[simp] theorem Parameter.dispatch_sentTo (config : Config) (state : State) (request : Request)
    (destination : Address) :
    dispatch config state (request.sentTo destination) = dispatch config state request :=
  rfl

@[simp] theorem Discovery.setMuted_sentTo (muted : Bool) (config : Config) (state : State)
    (request : Request) (destination : Address) :
    setMuted muted config state (request.sentTo destination) =
      setMuted muted config state request :=
  rfl

@[simp] theorem Discovery.search_sentTo (uid : Uid) (state : State) (request : Request)
    (destination : Address) :
    search uid state (request.sentTo destination) = search uid state request :=
  rfl

namespace Responder

variable {responder : Responder} {request : Request} {first second : Address}

theorem handleRequest_sentTo (hfirst : first ∈ Address.reaching responder.uid)
    (hsecond : second ∈ Address.reaching responder.uid) :
    (responder.handleRequest (request.sentTo first)).SameEffect
      (responder.handleRequest (request.sentTo second)) := by
  have act : (request.sentTo second).destination.requiresAction responder.uid = true :=
    Address.mem_reaching_iff.1 hsecond
  cases responder.handling (request.sentTo first) with
  | elsewhere elsewhere _ =>
    have reached := Address.mem_reaching_iff.1 hfirst
    exact absurd (elsewhere.symm.trans reached) (by decide)
  | response _ isResponse handled =>
    rw [handled, handleRequest_of_isResponse act isResponse]
    exact ⟨rfl, rfl⟩
  | search _ discovery pid handled =>
    have searched : responder.discover (request.sentTo second) = _ := discover_of_search pid
    rw [handled, handleRequest_of_discovery act discovery, searched]
    simp only [Discovery.search_sentTo]
    exact ⟨rfl, rfl⟩
  | muting _ discovery muted pid handled =>
    have set : responder.discover (request.sentTo second) = _ := discover_of_muting pid
    rw [handled, handleRequest_of_discovery act discovery, set]
    simp only [Discovery.setMuted_sentTo]
    exact ⟨rfl, rfl⟩
  | unknownDiscovery _ discovery search mute unMute handled =>
    have ignored : responder.discover (request.sentTo second) = _ :=
      discover_of_other search mute unMute
    rw [handled, handleRequest_of_discovery act discovery, ignored]
    exact ⟨rfl, rfl⟩
  | parameter _ isResponse other handled =>
    rw [handled, handleRequest_of_parameter act isResponse other]
    simp only [Parameter.dispatch_sentTo]
    exact ⟨rfl, rfl⟩

theorem FoundBy.sentTo (found : responder.FoundBy (request.sentTo first))
    (hsecond : second ∈ Address.reaching responder.uid) :
    responder.FoundBy (request.sentTo second) where
  destination := Address.requiresAction_iff.1 (Address.mem_reaching_iff.1 hsecond)
  commandClass := found.commandClass
  pid := found.pid
  unmuted := found.unmuted
  size := found.size
  lower := found.lower
  upper := found.upper

/-- Under each address that reaches it a device does the same for a request: it is left the
same and makes the same events in the same order, pin calls among them. A search is answered
with the same frame. Only a request to this one device gets a response. -/
theorem handled_alike_however_addressed (responder : Responder) (request : Request)
    (hfirst : first ∈ Address.reaching responder.uid)
    (hsecond : second ∈ Address.reaching responder.uid) :
    let one := responder.handleRequest (request.sentTo first)
    let other := responder.handleRequest (request.sentTo second)
    one.next = other.next ∧ one.events = other.events ∧
      pinCalls one.events = pinCalls other.events ∧
      (∀ frame, one.result = .discovery frame ↔ other.result = .discovery frame) ∧
      ∀ response, one.result = .response response → first = .device responder.uid := by
  intro one other
  have same : one.SameEffect other := handleRequest_sentTo hfirst hsecond
  refine ⟨same.next, same.events, congrArg pinCalls same.events, ?_, ?_⟩
  · intro frame
    constructor
    · intro answer
      obtain ⟨found, rfl⟩ := result_eq_discovery_iff.1 answer
      exact result_eq_discovery_iff.2 ⟨found.sentTo hsecond, rfl⟩
    · intro answer
      obtain ⟨found, rfl⟩ := result_eq_discovery_iff.1 answer
      exact result_eq_discovery_iff.2 ⟨found.sentTo hfirst, rfl⟩
  · intro response answer
    exact (result_eq_response_iff.1 answer).1.destination

/-- A broadcast identifies the device as its own address does, and gets no response. -/
theorem handled_alike_however_addressed_identify :
    let responder : Responder := ⟨⟨⟨0x7A70, 1, by decide⟩, ⟨0, 0⟩, ⟨0, 1⟩, {}⟩, {}⟩
    let request : Request := ⟨.device responder.uid, ⟨0x7A70, 2, by decide⟩, 5, 1, 0, 0, .set,
      .identifyDevice, [1]⟩
    let one := responder.handleRequest (request.sentTo (.device responder.uid))
    let other := responder.handleRequest (request.sentTo .broadcast)
    one.next = other.next ∧ other.next.state = ⟨false, true⟩ ∧
      pinCalls one.events = pinCalls other.events ∧
      pinCalls other.events = [⟨⟨0, 0⟩, .high⟩] ∧
      (∃ response, one.result = .response response) ∧ other.result = .nothing := by
  intro responder request one other
  have own : .device responder.uid ∈ Address.reaching responder.uid := by decide
  have broadcast : .broadcast ∈ Address.reaching responder.uid := by decide
  obtain ⟨next, _, calls, _⟩ :=
    handled_alike_however_addressed responder request own broadcast
  exact ⟨next, rfl, calls, rfl, ⟨_, rfl⟩, rfl⟩

end Responder

end Rdm
