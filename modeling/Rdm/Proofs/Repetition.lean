import Rdm.Proofs.Answering
import Rdm.Proofs.Command
import Rdm.Run

/-! A controller that hears no answer asks again. No request reads what it changes
itself: a read changes nothing, and a mute or a write leaves the flag as it demands,
however the flag was before. So whatever is handled twice has the second time the
reaction of the first time (`Responder.handleRequest_again`), and nothing later tells
that there was a second time. -/
namespace Rdm

theorem Discovery.setMuted_again (muted : Bool) (config : Config) (state : State)
    (request : Request) :
    setMuted muted config (setMuted muted config state request).next request =
      setMuted muted config state request := by
  cases data : request.parameterData.isEmpty <;> simp [setMuted, data]

theorem Setter.write_again (config : Config) (state : State) (data : Bytes) (setter : Setter) :
    setter.write config (setter.write config state data).next data =
      setter.write config state data := by
  cases setter
  match data with
  | [] | [_] | _ :: _ :: _ => rfl

theorem Parameter.dispatch_again (config : Config) (state : State) (request : Request) :
    dispatch config (dispatch config state request).next request =
      dispatch config state request := by
  cases dispatched config request with
  | subDevice _ handled | unsupported _ _ handled | read _ _ _ _ handled
  | readWithData _ _ _ _ handled =>
    have same : (dispatch config state request).next = state := by rw [handled]
    rw [same]
  | write _ setter _ handled =>
    rw [handled, handled]
    exact congrArg (Reaction.after · _) (setter.write_again config state request.parameterData)

theorem Answer.deliver_congr {ε : Type} {answer : Answer} {first second : Transport ε}
    (alike : ∀ transmission ∈ answer.transmission?.toList,
      second transmission = first transmission) :
    answer.deliver second = answer.deliver first := by
  cases answer with
  | response r => exact alike r.transmission (List.mem_singleton_self _)
  | discovery frame => exact alike frame.transmission (List.mem_singleton_self _)
  | nothing => rfl

namespace Responder

/-- The second time a request meets what it left the first time, and does the same. -/
theorem handleRequest_again (responder : Responder) (request : Request) :
    (responder.handleRequest request).next.handleRequest request =
      responder.handleRequest request := by
  have reached (act : request.destination.requiresAction responder.uid = true) :
      request.destination.requiresAction (responder.handleRequest request).next.uid = true := by
    rw [uid_next_handleRequest, act]
  cases responder.handling request with
  | elsewhere _ handled | response _ _ handled | unknownDiscovery _ _ _ _ _ handled =>
    have same : (responder.handleRequest request).next = responder := by rw [handled]
    rw [same]
  | search _ _ _ handled =>
    have same : (responder.handleRequest request).next = responder := by
      simp [handled, Reaction.mapState, Reaction.map]
    rw [same]
  | muting act discovery muted pid handled =>
    have once := Discovery.setMuted_again muted responder.config responder.state request
    rw [handleRequest_of_discovery (reached act) discovery, discover_of_muting pid, handled]
    simp only [Reaction.mapState, Reaction.map, once]
    rfl
  | parameter act isResponse other handled =>
    have once := Parameter.dispatch_again responder.config responder.state request
    rw [handleRequest_of_parameter (reached act) isResponse other, handled]
    simp only [Reaction.mapState, Reaction.map, once]
    rfl

variable {ε : Type} {packet : Bytes}

theorem handlePacket_again (first second : Transport ε) (responder : Responder)
    (packet : Bytes) :
    (responder.handlePacket first packet).next.handlePacket second packet =
      responder.handlePacket second packet := by
  cases parsed : Request.parse packet with
  | error error => simp only [handlePacket_of_error parsed]
  | ok request => simp only [handlePacket_of_ok parsed, handleRequest_again]

/-- Transports that make the same of what is sent make no difference at all. -/
theorem handlePacket_congr {first second : Transport ε} {responder : Responder}
    (alike : ∀ transmission ∈ transmissions (responder.handlePacket first packet).events,
      second transmission = first transmission) :
    responder.handlePacket second packet = responder.handlePacket first packet := by
  cases parsed : Request.parse packet with
  | error error => simp only [handlePacket_of_error parsed]
  | ok request =>
    rw [transmissions_handlePacket_of_ok parsed] at alike
    simp only [handlePacket_of_ok parsed, Answer.deliver_congr alike]

theorem repeated_handlePacket (first second : Transport ε) (responder : Responder)
    (packet : Bytes) :
    let handled := responder.handlePacket first packet
    let repeated := handled.next.handlePacket second packet
    repeated.SameEffect handled ∧
      ((∀ transmission ∈ transmissions handled.events,
        second transmission = first transmission) → repeated = handled) := by
  intro handled repeated
  have again : repeated = responder.handlePacket second packet :=
    handlePacket_again first second responder packet
  rw [again]
  exact ⟨handlePacket_sameEffect second first responder packet, handlePacket_congr⟩

theorem trace_repeated (first second : Transport ε) (responder : Responder) (packet : Bytes)
    (later : List (Step ε)) :
    let handled := responder.handlePacket first packet
    let repeated := handled.next.handlePacket second packet
    responder.trace (⟨.handlePacket packet, first⟩ :: later) =
        handled.map .handled :: handled.next.trace later ∧
      responder.trace (⟨.handlePacket packet, first⟩ :: ⟨.handlePacket packet, second⟩ :: later) =
        handled.map .handled :: repeated.map .handled :: handled.next.trace later := by
  intro handled repeated
  have effect := (repeated_handlePacket first second responder packet).1
  constructor
  · rfl
  · calc responder.trace
          (⟨.handlePacket packet, first⟩ :: ⟨.handlePacket packet, second⟩ :: later)
        = handled.map .handled :: repeated.map .handled :: repeated.next.trace later := rfl
      _ = handled.map .handled :: repeated.map .handled :: handled.next.trace later := by
          rw [effect.next]

end Responder

/-- A packet that comes twice in a row has the second time the effects that it had the first
time: the device is left as it was then, and the same pins are driven and the same bytes sent.
The result is the same where the transport makes the same of these bytes. In a run, all that
comes after the packet is as if it had come once. -/
theorem Run.repetition_harmless {ε : Type} (packet : Bytes) (first second : Transport ε) :
    (∀ responder : Responder,
      let handled := responder.handlePacket first packet
      let repeated := handled.next.handlePacket second packet
      repeated.SameEffect handled ∧
        ((∀ transmission ∈ transmissions handled.events,
          second transmission = first transmission) → repeated = handled)) ∧
    ∀ (run : Run ε) (later : List (Step ε)), ∃ handled repeated rest,
      (run.andThen (⟨.handlePacket packet, first⟩ :: later)).trace =
        run.trace ++ handled :: rest ∧
      (run.andThen
        (⟨.handlePacket packet, first⟩ :: ⟨.handlePacket packet, second⟩ :: later)).trace =
        run.trace ++ handled :: repeated :: rest ∧
      repeated.SameEffect handled := by
  constructor
  · intro responder
    exact responder.repeated_handlePacket first second packet
  · intro run later
    let handled := run.final.handlePacket first packet
    obtain ⟨once, twice⟩ := run.final.trace_repeated first second packet later
    have effect := (run.final.repeated_handlePacket first second packet).1
    refine ⟨_, _, handled.next.trace later, ?_, ?_, effect.map .handled .handled⟩
    · rw [trace_andThen, once]
    · rw [trace_andThen, twice]

/-- A mute that comes again over the same line. The pin is driven and the answer sent once
more, and the device is muted as before. -/
theorem Run.repetition_harmless_mute :
    let config : Config := ⟨⟨0x7A70, 1, by decide⟩, ⟨0, 0⟩, ⟨0, 1⟩, {}⟩
    let line : Transport Unit := fun _ => .ok ()
    let mute : Bytes := [0xCC, 0x01, 0x18, 0x7A, 0x70, 0, 0, 0, 1, 0x7A, 0x70, 0, 0, 0, 2,
      0, 1, 0, 0, 0, 0x10, 0, 0x02, 0, 0x02, 0xCF]
    let handled := Responder.handlePacket line ⟨config, {}⟩ mute
    let repeated := handled.next.handlePacket line mute
    repeated = handled ∧ repeated.next.state = ⟨true, false⟩ ∧
      pinCalls repeated.events = [⟨⟨0, 1⟩, .low⟩] ∧
      (transmissions repeated.events).length = 1 := by
  intro config line mute handled repeated
  obtain ⟨_, same⟩ := (repetition_harmless mute line line).1 ⟨config, {}⟩
  have again : repeated = handled := same fun _ _ => rfl
  rw [again]
  exact ⟨rfl, rfl, rfl, rfl⟩

end Rdm
