import Rdm.Proofs.RoundTrip
import Rdm.Responder

/-! A request is answered by a response, by a discovery frame, or not at all.
`Responder.result_eq_response_iff` and `Responder.result_eq_discovery_iff` say when and
with what. `Responder.handlePacket_sends_iff` says the same of the bus: a packet makes a
responder send at most once, and only for these two reasons. -/
namespace Rdm

/-- The response to a request from the device `own`: its fields in return, with source
and destination exchanged. -/
def Request.mirror (request : Request) (own : Uid) (responseType : ResponseType)
    (data : ParameterData) : Response where
  destination := request.source
  source := own
  transaction := request.transaction
  responseType := responseType
  messageCount := 0
  subDevice := Packet.rootDevice
  commandClass := request.commandClass.response
  pid := request.pid
  parameterData := data

def Outcome.response? (request : Request) (own : Uid) : Outcome → Option Response
  | .acknowledged data => some (request.mirror own .ack data)
  | .refused reason => some (request.mirror own .nackReason reason.parameterData)
  | .silent => none

theorem Outcome.response?_eq_some_iff {request : Request} {own : Uid} {outcome : Outcome}
    {response : Response} :
    outcome.response? request own = some response ↔
      (∃ data, outcome = .acknowledged data ∧ response = request.mirror own .ack data) ∨
        ∃ reason, outcome = .refused reason ∧
          response = request.mirror own .nackReason reason.parameterData := by
  cases outcome <;> simp [response?, eq_comm]

namespace Answer

variable {request : Request} {own : Uid} {outcome : Outcome}

theorem ofOutcome_of_device (h : request.destination = .device own) :
    ofOutcome request (request.destination.classify own) outcome =
      match outcome.response? request own with
      | some reply => .response reply
      | none => .nothing := by
  cases outcome <;>
    simp [ofOutcome, ofOutcome.reply, Request.respond, h, Outcome.response?, Request.mirror,
      Addressing.allowsResponse]

theorem ofOutcome_of_ne_device (h : request.destination ≠ .device own) :
    ofOutcome request (request.destination.classify own) outcome = .nothing := by
  have silent : (request.destination.classify own).allowsResponse = false := by
    cases addressing : request.destination.classify own with
    | unicast => exact absurd (Address.classify_eq_unicast_iff.1 addressing) h
    | _ => rfl
  have reply (responseType : ResponseType) (data : ParameterData) :
      ofOutcome.reply request (request.destination.classify own) responseType data =
        .nothing := by
    rw [ofOutcome.reply]
    split
    · simp [silent]
    · rfl
  cases outcome with
  | acknowledged data => exact reply _ _
  | refused reason => exact reply _ _
  | silent => rfl

theorem ofOutcome_eq_response_iff {response : Response} :
    ofOutcome request (request.destination.classify own) outcome = .response response ↔
      request.destination = .device own ∧
        outcome.response? request own = some response := by
  by_cases h : request.destination = .device own
  · rw [ofOutcome_of_device h]
    split <;> simp_all
  · simp [ofOutcome_of_ne_device h, h]

theorem ofOutcome_ne_discovery {frame : Discovery.Frame} :
    ofOutcome request (request.destination.classify own) outcome ≠ .discovery frame := by
  by_cases h : request.destination = .device own
  · rw [ofOutcome_of_device h]
    split <;> simp
  · simp [ofOutcome_of_ne_device h]

theorem transmission?_eq_some_iff {answer : Answer} {transmission : Transmission} :
    answer.transmission? = some transmission ↔
      (∃ response, answer = .response response ∧ transmission = response.transmission) ∨
        ∃ frame, answer = .discovery frame ∧ transmission = frame.transmission := by
  cases answer <;> simp [transmission?, eq_comm]

end Answer

namespace Parameter

variable {config : Config} {state : State} {request : Request}

/-- A request outside discovery is always acknowledged or refused. -/
theorem dispatch_ne_silent : (dispatch config state request).result ≠ .silent := by
  cases dispatched config request with
  | subDevice _ handled | unsupported _ _ handled | readWithData _ _ _ _ handled => simp [handled]
  | read _ getter _ _ handled =>
    simp only [handled, Getter.read]
    split <;> simp
  | write _ setter _ handled =>
    simp only [handled, Reaction.after, Setter.write]
    split <;> simp

theorem transmissions_dispatch : transmissions (dispatch config state request).events = [] := by
  cases dispatched config request with
  | subDevice _ handled | unsupported _ _ handled | read _ _ _ _ handled
  | readWithData _ _ _ _ handled =>
    rw [handled]
    rfl
  | write _ setter _ handled =>
    simp only [handled, Reaction.after, Setter.write]
    split <;> rfl

end Parameter

theorem Discovery.transmissions_search (uid : Uid) (state : State) (request : Request) :
    transmissions (search uid state request).events = [] := by
  rw [search]
  split
  · rfl
  · split <;> rfl

theorem Discovery.transmissions_setMuted (muted : Bool) (config : Config) (state : State)
    (request : Request) : transmissions (setMuted muted config state request).events = [] := by
  rw [setMuted]
  split <;> rfl

/-- A request that its sender gets a response to. -/
structure Request.CallsForResponse (request : Request) (own : Uid) : Prop where
  destination : request.destination = .device own
  commandClass : request.commandClass ∉ [.discoveryResponse, .getResponse, .setResponse]
  discovery : request.commandClass ≠ .discovery ∨
    ((request.pid = .discMute ∨ request.pid = .discUnMute) ∧ request.parameterData = [])

/-- A search that finds the device. -/
structure Responder.FoundBy (responder : Responder) (request : Request) : Prop where
  destination : request.destination = .device responder.uid ∨
    request.destination = .broadcast ∨
    request.destination = .vendorcast responder.uid.manufacturer
  commandClass : request.commandClass = .discovery
  pid : request.pid = .discUniqueBranch
  unmuted : responder.state.muted = false
  size : request.parameterData.length = 12
  lower : request.parameterData.numberAt 0 6 ≤ responder.uid.toNat
  upper : responder.uid.toNat ≤ request.parameterData.numberAt 6 6

namespace Responder

variable {responder : Responder} {request : Request}

/-- What a request other than a search comes to in a device that it concerns. -/
def outcome (responder : Responder) (request : Request) : Outcome :=
  if request.commandClass = .discovery then
    if (request.pid = .discMute ∨ request.pid = .discUnMute) ∧ request.parameterData = [] then
      .acknowledged (Discovery.MuteReply.parameterData {})
    else .silent
  else (Parameter.dispatch responder.config responder.state request).result

theorem outcome_eq_silent_iff :
    responder.outcome request = .silent ↔
      ¬ (request.commandClass ≠ .discovery ∨
        ((request.pid = .discMute ∨ request.pid = .discUnMute) ∧
          request.parameterData = [])) := by
  rw [outcome]
  split
  next h => simp [h]
  next h => simp [h, Parameter.dispatch_ne_silent]

theorem result_of_search (act : request.destination.requiresAction responder.uid = true)
    (h : request.commandClass = .discovery) (search : request.pid = .discUniqueBranch) :
    (responder.handleRequest request).result =
      Answer.ofFrame? (Discovery.search responder.uid responder.state request).result := by
  rw [handleRequest_of_discovery act h, discover_of_search search]
  rfl

theorem result_of_not_search (act : request.destination.requiresAction responder.uid = true)
    (h : request.commandClass.isResponse = false)
    (other : request.commandClass ≠ .discovery ∨ request.pid ≠ .discUniqueBranch) :
    (responder.handleRequest request).result =
      Answer.ofOutcome request (request.destination.classify responder.uid)
        (responder.outcome request) := by
  by_cases discovery : request.commandClass = .discovery
  · rw [handleRequest_of_discovery act discovery]
    rcases Pid.discovery_cases request.pid with search | ⟨muted, pid⟩ | ⟨search, mute, unMute⟩
    · exact absurd search (other.resolve_left (not_not_intro discovery))
    · have muting : request.pid = .discMute ∨ request.pid = .discUnMute := by
        cases muted
        · exact .inr pid
        · exact .inl pid
      rw [discover_of_muting pid]
      simp [Reaction.mapState, Reaction.map, Discovery.result_setMuted, outcome, discovery, muting]
    · rw [discover_of_other search mute unMute]
      simp [Reaction.mapState, outcome, discovery, mute, unMute, Answer.ofOutcome]
  · rw [handleRequest_of_parameter act h discovery]
    simp [Reaction.mapState, Reaction.map, outcome, discovery]

/-- An answer is given only by a device that the request is for, and never to a response. -/
theorem concerned_of_result_ne_nothing
    (h : (responder.handleRequest request).result ≠ .nothing) :
    request.destination.requiresAction responder.uid = true ∧
      request.commandClass.isResponse = false := by
  cases responder.handling request with
  | elsewhere _ handled | response _ _ handled | unknownDiscovery _ _ _ _ _ handled =>
    simp [handled] at h
  | search act discovery | muting act discovery =>
    refine ⟨act, ?_⟩
    rw [discovery]
    rfl
  | parameter act isResponse => exact ⟨act, isResponse⟩

theorem result_eq_response_iff {response : Response} :
    (responder.handleRequest request).result = .response response ↔
      request.CallsForResponse responder.uid ∧
        (responder.outcome request).response? request responder.uid = some response := by
  constructor
  · intro h
    have answered : (responder.handleRequest request).result ≠ .nothing := by simp [h]
    obtain ⟨act, isResponse⟩ := concerned_of_result_ne_nothing answered
    by_cases search : request.commandClass = .discovery ∧ request.pid = .discUniqueBranch
    · rw [result_of_search act search.1 search.2] at h
      exact absurd h Answer.ofFrame?_ne_response
    · rw [result_of_not_search act isResponse (Decidable.not_and_iff_not_or_not.1 search)] at h
      obtain ⟨destination, reply⟩ := Answer.ofOutcome_eq_response_iff.1 h
      refine ⟨⟨destination, CommandClass.isResponse_eq_false_iff.1 isResponse, ?_⟩, reply⟩
      apply Decidable.not_not.1
      intro silent
      rw [outcome_eq_silent_iff.2 silent] at reply
      contradiction
  · rintro ⟨call, reply⟩
    have act : request.destination.requiresAction responder.uid = true :=
      Address.requiresAction_iff.2 (.inl call.destination)
    have other : request.commandClass ≠ .discovery ∨ request.pid ≠ .discUniqueBranch := by
      refine call.discovery.imp_right fun muting search => ?_
      rcases muting.1 with pid | pid <;> rw [pid] at search <;> contradiction
    rw [result_of_not_search act (CommandClass.isResponse_eq_false_iff.2 call.commandClass) other]
    exact Answer.ofOutcome_eq_response_iff.2 ⟨call.destination, reply⟩

theorem exists_response_iff :
    (∃ response, (responder.handleRequest request).result = .response response) ↔
      request.CallsForResponse responder.uid := by
  constructor
  · rintro ⟨response, h⟩
    exact (result_eq_response_iff.1 h).1
  · intro call
    cases reply : (responder.outcome request).response? request responder.uid with
    | some response => exact ⟨response, result_eq_response_iff.2 ⟨call, reply⟩⟩
    | none =>
      have silent : responder.outcome request = .silent := by
        cases outcome : responder.outcome request <;> simp_all [Outcome.response?]
      exact absurd call.discovery (outcome_eq_silent_iff.1 silent)

theorem result_eq_discovery_iff {frame : Discovery.Frame} :
    (responder.handleRequest request).result = .discovery frame ↔
      responder.FoundBy request ∧ frame = .ofUid responder.uid := by
  constructor
  · intro h
    have answered : (responder.handleRequest request).result ≠ .nothing := by simp [h]
    obtain ⟨act, isResponse⟩ := concerned_of_result_ne_nothing answered
    by_cases search : request.commandClass = .discovery ∧ request.pid = .discUniqueBranch
    · rw [result_of_search act search.1 search.2] at h
      have frame_eq := Answer.ofFrame?_eq_discovery_iff.1 h
      obtain ⟨unmuted, held, rfl⟩ := Discovery.search_eq_some_iff.1 frame_eq
      obtain ⟨size, lower, upper⟩ := Discovery.bracketHolds_iff.1 held
      exact ⟨⟨Address.requiresAction_iff.1 act, search.1, search.2, unmuted, size, lower, upper⟩,
        rfl⟩
    · rw [result_of_not_search act isResponse (Decidable.not_and_iff_not_or_not.1 search)] at h
      exact absurd h Answer.ofOutcome_ne_discovery
  · rintro ⟨found, rfl⟩
    rw [result_of_search (Address.requiresAction_iff.2 found.destination) found.commandClass
      found.pid, Answer.ofFrame?_eq_discovery_iff]
    exact Discovery.search_eq_some_iff.2 ⟨found.unmuted,
      Discovery.bracketHolds_iff.2 ⟨found.size, found.lower, found.upper⟩, rfl⟩

theorem transmissions_handleRequest :
    transmissions (responder.handleRequest request).events = [] := by
  cases responder.handling request with
  | elsewhere _ handled | response _ _ handled | unknownDiscovery _ _ _ _ _ handled =>
    rw [handled]
    rfl
  | search _ _ _ handled =>
    rw [handled]
    exact Discovery.transmissions_search ..
  | muting _ _ muted _ handled =>
    rw [handled]
    exact Discovery.transmissions_setMuted ..
  | parameter _ _ _ handled =>
    rw [handled]
    exact Parameter.transmissions_dispatch

variable {ε : Type} {transport : Transport ε} {packet : Bytes}

theorem transmissions_handlePacket_of_ok (accepted : Request.parse packet = .ok request) :
    transmissions (responder.handlePacket transport packet).events =
      (responder.handleRequest request).result.transmission?.toList := by
  simp only [handlePacket_of_ok accepted, transmissions_append, transmissions_handleRequest,
    transmissions_map_send, List.nil_append]

theorem transmissions_handlePacket_of_error {error : ParseError}
    (dropped : Request.parse packet = .error error) :
    transmissions (responder.handlePacket transport packet).events = [] := by
  rw [handlePacket_of_error dropped]
  rfl

theorem mem_transmissions_handlePacket_iff {transmission : Transmission} :
    transmission ∈ transmissions (responder.handlePacket transport packet).events ↔
      ∃ request, Request.parse packet = .ok request ∧
        (responder.handleRequest request).result.transmission? = some transmission := by
  cases parsed : Request.parse packet with
  | error error => simp [transmissions_handlePacket_of_error parsed]
  | ok request => simp [transmissions_handlePacket_of_ok parsed]

theorem mem_transmissions_withBreak_iff {transmission : Transmission} :
    transmission ∈ transmissions (responder.handlePacket transport packet).events ∧
        transmission.withBreak = true ↔
      ∃ request response, Request.parse packet = .ok request ∧
        (responder.handleRequest request).result = .response response ∧
          transmission = response.transmission := by
  rw [mem_transmissions_handlePacket_iff]
  constructor
  · rintro ⟨⟨request, accepted, sent⟩, withBreak⟩
    rcases Answer.transmission?_eq_some_iff.1 sent with
      ⟨response, answer, rfl⟩ | ⟨frame, answer, rfl⟩
    · exact ⟨request, response, accepted, answer, rfl⟩
    · contradiction
  · rintro ⟨request, response, accepted, answer, rfl⟩
    exact ⟨⟨request, accepted, Answer.transmission?_eq_some_iff.2 (.inl ⟨response, answer, rfl⟩)⟩,
      rfl⟩

theorem mem_transmissions_withoutBreak_iff {transmission : Transmission} :
    transmission ∈ transmissions (responder.handlePacket transport packet).events ∧
        transmission.withBreak = false ↔
      ∃ request frame, Request.parse packet = .ok request ∧
        (responder.handleRequest request).result = .discovery frame ∧
          transmission = frame.transmission := by
  rw [mem_transmissions_handlePacket_iff]
  constructor
  · rintro ⟨⟨request, accepted, sent⟩, withoutBreak⟩
    rcases Answer.transmission?_eq_some_iff.1 sent with
      ⟨response, answer, rfl⟩ | ⟨frame, answer, rfl⟩
    · contradiction
    · exact ⟨request, frame, accepted, answer, rfl⟩
  · rintro ⟨request, frame, accepted, answer, rfl⟩
    exact ⟨⟨request, accepted, Answer.transmission?_eq_some_iff.2 (.inr ⟨frame, answer, rfl⟩)⟩,
      rfl⟩

theorem length_transmissions_handlePacket :
    (transmissions (responder.handlePacket transport packet).events).length ≤ 1 := by
  cases parsed : Request.parse packet with
  | error error => simp [transmissions_handlePacket_of_error parsed]
  | ok request =>
    rw [transmissions_handlePacket_of_ok parsed]
    cases (responder.handleRequest request).result.transmission? <;> simp

theorem sends_with_break_iff :
    (∃ transmission ∈ transmissions (responder.handlePacket transport packet).events,
        transmission.withBreak = true) ↔
      ∃ request, Request.parse packet = .ok request ∧
        request.CallsForResponse responder.uid := by
  constructor
  · rintro ⟨transmission, sent⟩
    obtain ⟨request, response, accepted, answer, -⟩ := mem_transmissions_withBreak_iff.1 sent
    exact ⟨request, accepted, exists_response_iff.1 ⟨response, answer⟩⟩
  · rintro ⟨request, accepted, call⟩
    obtain ⟨response, answer⟩ := exists_response_iff.2 call
    exact ⟨_, mem_transmissions_withBreak_iff.2 ⟨request, response, accepted, answer, rfl⟩⟩

theorem sends_without_break_iff :
    (∃ transmission ∈ transmissions (responder.handlePacket transport packet).events,
        transmission.withBreak = false) ↔
      ∃ request, Request.parse packet = .ok request ∧ responder.FoundBy request := by
  constructor
  · rintro ⟨transmission, sent⟩
    obtain ⟨request, frame, accepted, answer, -⟩ := mem_transmissions_withoutBreak_iff.1 sent
    exact ⟨request, accepted, (result_eq_discovery_iff.1 answer).1⟩
  · rintro ⟨request, accepted, found⟩
    have answer := result_eq_discovery_iff.2 ⟨found, rfl⟩
    exact ⟨_, mem_transmissions_withoutBreak_iff.2 ⟨request, _, accepted, answer, rfl⟩⟩

theorem sends_nothing_iff :
    transmissions (responder.handlePacket transport packet).events = [] ↔
      ∀ request, Request.parse packet = .ok request →
        ¬ request.CallsForResponse responder.uid ∧ ¬ responder.FoundBy request := by
  constructor
  · intro silent request accepted
    constructor
    · intro call
      obtain ⟨transmission, sent, -⟩ := sends_with_break_iff.2 ⟨request, accepted, call⟩
      exact List.ne_nil_of_mem sent silent
    · intro found
      obtain ⟨transmission, sent, -⟩ := sends_without_break_iff.2 ⟨request, accepted, found⟩
      exact List.ne_nil_of_mem sent silent
  · intro quiet
    apply List.eq_nil_iff_forall_not_mem.2
    intro transmission sent
    cases flag : transmission.withBreak with
    | true =>
      obtain ⟨request, accepted, call⟩ := sends_with_break_iff.1 ⟨transmission, sent, flag⟩
      exact (quiet request accepted).1 call
    | false =>
      obtain ⟨request, accepted, found⟩ := sends_without_break_iff.1 ⟨transmission, sent, flag⟩
      exact (quiet request accepted).2 found

/-- A packet is answered on the bus at most once: after a break where it calls this one
device for a response, without a break where it is a search that finds the device, and
never else. -/
theorem handlePacket_sends_iff {ε : Type} (transport : Transport ε) (responder : Responder)
    (packet : Bytes) :
    let sent := transmissions (responder.handlePacket transport packet).events
    sent.length ≤ 1 ∧
      ((∃ transmission ∈ sent, transmission.withBreak = true) ↔
        ∃ request, Request.parse packet = .ok request ∧
          request.CallsForResponse responder.uid) ∧
      ((∃ transmission ∈ sent, transmission.withBreak = false) ↔
        ∃ request, Request.parse packet = .ok request ∧ responder.FoundBy request) ∧
      (sent = [] ↔
        ∀ request, Request.parse packet = .ok request →
          ¬ request.CallsForResponse responder.uid ∧ ¬ responder.FoundBy request) :=
  ⟨length_transmissions_handlePacket, sends_with_break_iff, sends_without_break_iff,
    sends_nothing_iff⟩

end Responder

end Rdm
