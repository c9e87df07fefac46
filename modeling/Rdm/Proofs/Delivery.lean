import Mathlib.Data.List.Forall2
import Rdm.Proofs.Repetition

/-! A transport may fail, and a responder reports that it did. Nothing else comes of it:
two runs of the same operations go through the same states and make the same events,
whatever their transports do (`Responder.trace_sameEffect`). What a responder reports of
a packet tells exactly whether it was dropped, or its answer did not get through. -/
namespace Rdm

theorem PacketError.mapError_eq_transport_iff {ε : Type} {result : Except ε Unit} {error : ε} :
    result.mapError PacketError.transport = .error (.transport error) ↔ result = .error error := by
  cases result <;> simp [Except.mapError]

theorem Reaction.flatMap_events_of_sameEffect {σ α β : Type} {reactions : List (Reaction σ α)}
    {others : List (Reaction σ β)} (effects : List.Forall₂ SameEffect reactions others) :
    reactions.flatMap events = others.flatMap events := by
  induction effects with
  | nil => rfl
  | cons effect _ ih => rw [List.flatMap_cons, List.flatMap_cons, effect.events, ih]

namespace Answer

variable {ε : Type} {answer : Answer} {transport : Transport ε}

theorem deliver_eq_error_iff {error : ε} :
    answer.deliver transport = .error error ↔
      ∃ transmission, answer.transmission? = some transmission ∧
        transport transmission = .error error := by
  cases answer <;> simp [deliver, send, Reaction.transmit, transmission?]

end Answer

namespace Responder

variable {ε δ : Type} {transport : Transport ε} {responder : Responder} {packet : Bytes}

theorem perform_sameEffect {first : Step ε} {second : Step δ}
    (same : first.operation = second.operation) (responder : Responder) :
    (responder.perform first).SameEffect (responder.perform second) := by
  rw [perform, perform, same]
  cases second.operation with
  | handlePacket packet =>
    exact (handlePacket_sameEffect first.transport second.transport responder packet).map _ _
  | handleRequest request => exact ⟨rfl, rfl⟩
  | sendAnswer answer =>
    exact (sendAnswer_sameEffect first.transport second.transport responder answer).map _ _
  | reset => exact ⟨rfl, rfl⟩
  | reconfigure config => exact ⟨rfl, rfl⟩

/-- The step is `perform_sameEffect`: it leaves both runs in the same state. -/
theorem trace_sameEffect {first : List (Step ε)} {second : List (Step δ)}
    (same : first.map Step.operation = second.map Step.operation) (responder : Responder) :
    List.Forall₂ Reaction.SameEffect (responder.trace first) (responder.trace second) := by
  induction first generalizing responder second with
  | nil =>
    cases List.map_eq_nil_iff.1 same.symm
    exact .nil
  | cons step rest ih =>
    obtain ⟨other, others, rfl, operation, operations⟩ := List.map_eq_cons_iff.1 same.symm
    have effect := responder.perform_sameEffect operation.symm
    refine .cons effect ?_
    rw [effect.next]
    exact ih operations.symm _

theorem result_handlePacket_eq_dropped_iff {error : ParseError} :
    (responder.handlePacket transport packet).result = .error (.dropped error) ↔
      Request.parse packet = .error error := by
  cases parsed : Request.parse packet with
  | error other => simp [handlePacket_of_error parsed]
  | ok request =>
    simp only [handlePacket_of_ok parsed]
    cases (responder.handleRequest request).result.deliver transport <;> simp [Except.mapError]

theorem result_handlePacket_eq_transport_iff {error : ε} :
    (responder.handlePacket transport packet).result = .error (.transport error) ↔
      ∃ transmission,
        transmissions (responder.handlePacket transport packet).events = [transmission] ∧
          transport transmission = .error error := by
  cases parsed : Request.parse packet with
  | error other =>
    rw [transmissions_handlePacket_of_error parsed]
    simp [handlePacket_of_error parsed]
  | ok request =>
    rw [transmissions_handlePacket_of_ok parsed, handlePacket_of_ok parsed,
      PacketError.mapError_eq_transport_iff, Answer.deliver_eq_error_iff]
    simp only [Option.toList_eq_singleton_iff]

/-- A packet that comes again is answered by the bytes of the first time, also if these did
not get through. -/
theorem transmissions_handlePacket_again (first second : Transport ε) :
    transmissions ((responder.handlePacket first packet).next.handlePacket second packet).events =
      transmissions (responder.handlePacket first packet).events := by
  have repeated := (responder.repeated_handlePacket first second packet).1
  rw [repeated.events]

end Responder

structure Run.SameOperations {ε δ : Type} (first : Run ε) (second : Run δ) : Prop where
  config : first.config = second.config
  operations : first.steps.map Step.operation = second.steps.map Step.operation

namespace Run

variable {ε δ : Type} {first : Run ε} {second : Run δ}

theorem SameOperations.trace (same : first.SameOperations second) :
    List.Forall₂ Reaction.SameEffect first.trace second.trace := by
  rw [Run.trace, Run.trace, same.config]
  exact .cons ⟨rfl, rfl⟩ (Responder.trace_sameEffect same.operations _)

theorem SameOperations.events (same : first.SameOperations second) :
    first.events = second.events := by
  rw [events_eq_flatMap_trace, events_eq_flatMap_trace]
  exact Reaction.flatMap_events_of_sameEffect same.trace

/-- What transports make of what is sent shows in the results and nowhere else: two runs of
the same operations go step by step through the same states, drive the same pins and send the
same bytes. Of a packet the result tells that its one transmission failed, and how, or that it
was dropped, in which case it had no effect. Given again after a failure, the packet makes the
device send the very same bytes. -/
theorem failures_show_in_results_only (same : first.SameOperations second) :
    List.Forall₂ Reaction.SameEffect first.trace second.trace ∧
    pinCalls first.events = pinCalls second.events ∧
    transmissions first.events = transmissions second.events ∧
    ∀ (responder : Responder) (transport : Transport ε) (packet : Bytes),
      let handled := responder.handlePacket transport packet
      (∀ error, handled.result = .error (.transport error) ↔
        ∃ transmission, transmissions handled.events = [transmission] ∧
          transport transmission = .error error) ∧
      (∀ error, handled.result = .error (.dropped error) ↔
        Request.parse packet = .error error) ∧
      (∀ error, Request.parse packet = .error error →
        handled.next = responder ∧ pinCalls handled.events = [] ∧
          transmissions handled.events = []) ∧
      ∀ again : Transport ε,
        transmissions (handled.next.handlePacket again packet).events =
          transmissions handled.events := by
  refine ⟨same.trace, congrArg pinCalls same.events, congrArg transmissions same.events, ?_⟩
  intro responder transport packet handled
  refine ⟨fun _ => Responder.result_handlePacket_eq_transport_iff,
    fun _ => Responder.result_handlePacket_eq_dropped_iff, ?_,
    Responder.transmissions_handlePacket_again transport⟩
  intro error dropped
  have untouched : handled = ⟨.error (.dropped error), responder, _⟩ :=
    Responder.handlePacket_of_error dropped
  rw [untouched]
  exact ⟨rfl, rfl, rfl⟩

/-- The answer to a mute does not get through. The device is muted all the same, and sends the
answer once more when it is told to mute again. -/
theorem failures_show_in_results_only_mute :
    let config : Config := ⟨⟨0x7A70, 1, by decide⟩, ⟨0, 0⟩, ⟨0, 1⟩, {}⟩
    let broken : Transport Unit := fun _ => .error ()
    let line : Transport Unit := fun _ => .ok ()
    let mute : Bytes := [0xCC, 0x01, 0x18, 0x7A, 0x70, 0, 0, 0, 1, 0x7A, 0x70, 0, 0, 0, 2,
      0, 1, 0, 0, 0, 0x10, 0, 0x02, 0, 0x02, 0xCF]
    let first : Run Unit := ⟨config, [⟨.handlePacket mute, broken⟩, ⟨.handlePacket mute, line⟩]⟩
    let second : Run Unit := ⟨config, [⟨.handlePacket mute, line⟩, ⟨.handlePacket mute, line⟩]⟩
    let failed := Responder.handlePacket broken ⟨config, {}⟩ mute
    first.SameOperations second ∧ transmissions first.events = transmissions second.events ∧
      (transmissions first.events).length = 2 ∧ failed.result = .error (.transport ()) ∧
      failed.next.state = ⟨true, false⟩ ∧
      transmissions (failed.next.handlePacket line mute).events = transmissions failed.events := by
  intro config broken line mute first second failed
  have same : first.SameOperations second := ⟨rfl, rfl⟩
  obtain ⟨_, _, sent, packets⟩ := failures_show_in_results_only same
  obtain ⟨reported, _, _, again⟩ := packets ⟨config, {}⟩ broken mute
  exact ⟨same, sent, rfl, (reported ()).2 ⟨_, rfl, rfl⟩, rfl, again line⟩

end Run

end Rdm
