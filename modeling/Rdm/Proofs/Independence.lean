import Rdm.Proofs.Command
import Rdm.Run

/-! Discovery reads and changes whether a device is muted, and all other requests
whether it identifies itself. So a command of the one kind passes by a request of the
other kind (`Responder.handleRequest_obey`), and two such requests can be given in both
orders. However the two kinds are mixed in a conversation, the requests of each kind
fare as if they were alone (`Responder.filter_conversation`). -/
namespace Rdm

namespace Command

def isDiscovery : Command → Bool
  | mute _ => true
  | identify _ => false

variable {given other : Command}

theorem exists_mute (discovery : given.isDiscovery = true) : ∃ muted, given = .mute muted := by
  cases given with
  | mute muted => exact ⟨muted, rfl⟩
  | identify identifying => contradiction

theorem exists_identify (parameter : given.isDiscovery = false) :
    ∃ identifying, given = .identify identifying := by
  cases given with
  | mute muted => contradiction
  | identify identifying => exact ⟨identifying, rfl⟩

theorem apply_comm (apart : given.isDiscovery ≠ other.isDiscovery) (state : State) :
    other.apply (given.apply state) = given.apply (other.apply state) := by
  cases given with
  | mute muted =>
    cases other with
    | mute later => exact absurd rfl apart
    | identify identifying => rfl
  | identify identifying =>
    cases other with
    | mute muted => rfl
    | identify later => exact absurd rfl apart

end Command

def Request.isDiscovery (request : Request) : Bool :=
  request.commandClass == .discovery

theorem Request.isDiscovery_of_command? {request : Request} {own : Uid} {given : Command}
    (h : request.command? own = some given) : given.isDiscovery = request.isDiscovery := by
  unfold command? at h
  split at h
  · split at h
    next discovery _ =>
      rw [isDiscovery, discovery]
      split at h
      · cases h
        rfl
      · cases (Option.ite_none_right_eq_some.1 h).2
        rfl
    next value set _ =>
      cases (Option.ite_none_right_eq_some.1 h).2
      rw [isDiscovery, set]
      rfl
    next => contradiction
  · contradiction

variable {config : Config} {state : State} {request : Request} {given : Command}

theorem Command.parameter_of_apart (apart : given.isDiscovery ≠ request.isDiscovery)
    (discovery : request.commandClass = .discovery) : given.isDiscovery = false := by
  simpa [Request.isDiscovery, discovery] using apart

theorem Command.discovery_of_apart (apart : given.isDiscovery ≠ request.isDiscovery)
    (other : request.commandClass ≠ .discovery) : given.isDiscovery = true := by
  have parameter : request.isDiscovery = false := beq_false_of_ne other
  simpa [parameter] using apart

theorem Discovery.search_apply (uid : Uid) (parameter : given.isDiscovery = false) :
    search uid (given.apply state) request =
      (search uid state request).mapState (Command.apply · given) := by
  obtain ⟨identifying, rfl⟩ := Command.exists_identify parameter
  cases muted : state.muted with
  | true => simp [search, muted, Command.apply, Reaction.mapState]
  | false =>
    by_cases held : bracketHolds request.parameterData uid = true <;>
      simp [search, muted, held, Command.apply, Reaction.mapState]

theorem Discovery.setMuted_apply (muted : Bool) (parameter : given.isDiscovery = false) :
    setMuted muted config (given.apply state) request =
      (setMuted muted config state request).mapState (Command.apply · given) := by
  obtain ⟨identifying, rfl⟩ := Command.exists_identify parameter
  cases data : request.parameterData.isEmpty <;>
    simp [setMuted, data, Command.apply, Reaction.mapState]

theorem Getter.read_apply (getter : Getter) (discovery : given.isDiscovery = true) :
    getter.read config (given.apply state) = getter.read config state := by
  obtain ⟨muted, rfl⟩ := Command.exists_mute discovery
  cases getter <;> rfl

theorem Setter.write_apply (setter : Setter) (data : Bytes)
    (discovery : given.isDiscovery = true) :
    setter.write config (given.apply state) data =
      (setter.write config state data).mapState (Command.apply · given) := by
  obtain ⟨muted, rfl⟩ := Command.exists_mute discovery
  cases setter
  match data with
  | [] | [_] | _ :: _ :: _ => rfl

theorem Parameter.dispatch_apply (discovery : given.isDiscovery = true) :
    dispatch config (given.apply state) request =
      (dispatch config state request).mapState (Command.apply · given) := by
  cases dispatched config request with
  | subDevice _ handled | unsupported _ _ handled | readWithData _ _ _ _ handled =>
    rw [handled, handled]
    rfl
  | read _ getter _ _ handled =>
    rw [handled, handled, getter.read_apply discovery]
    rfl
  | write _ setter _ handled =>
    rw [handled, handled, setter.write_apply _ discovery]
    rfl

/-- All of a turn but the state that it leaves. -/
def Turn.shown (turn : Turn) : Request × Answer × List Event :=
  (turn.request, turn.reaction.result, turn.reaction.events)

namespace Responder

def obey (responder : Responder) (given : Command) : Responder :=
  { responder with state := given.apply responder.state }

variable {responder : Responder}

/-- A command of the other kind changes nothing for a request, and the request nothing of it. -/
theorem handleRequest_obey (apart : given.isDiscovery ≠ request.isDiscovery) :
    (responder.obey given).handleRequest request =
      (responder.handleRequest request).mapState (obey · given) := by
  have reached (act : request.destination.requiresAction responder.uid = true) :
      request.destination.requiresAction (responder.obey given).uid = true := act
  cases responder.handling request with
  | elsewhere act handled =>
    rw [handled]
    exact handleRequest_of_elsewhere act
  | response act isResponse handled =>
    rw [handled]
    exact handleRequest_of_isResponse act isResponse
  | search act discovery pid handled =>
    have parameter := Command.parameter_of_apart apart discovery
    rw [handled, handleRequest_of_discovery (reached act) discovery, discover_of_search pid,
      obey, Discovery.search_apply _ parameter]
    rfl
  | muting act discovery muted pid handled =>
    have parameter := Command.parameter_of_apart apart discovery
    rw [handled, handleRequest_of_discovery (reached act) discovery, discover_of_muting pid,
      obey, Discovery.setMuted_apply muted parameter]
    rfl
  | unknownDiscovery act discovery search mute unMute handled =>
    rw [handled, handleRequest_of_discovery (reached act) discovery,
      discover_of_other search mute unMute]
    rfl
  | parameter act isResponse other handled =>
    have discovery := Command.discovery_of_apart apart other
    rw [handled, handleRequest_of_parameter (reached act) isResponse other, obey,
      Parameter.dispatch_apply discovery]
    rfl

theorem obey_comm {other : Command} (apart : given.isDiscovery ≠ other.isDiscovery)
    (responder : Responder) :
    (responder.obey given).obey other = (responder.obey other).obey given :=
  congrArg (Responder.mk responder.config) (Command.apply_comm apart responder.state)

def obeyAny (responder : Responder) (given : Option Command) : Responder :=
  given.elim responder responder.obey

theorem next_handleRequest_eq_obeyAny (responder : Responder) (request : Request) :
    (responder.handleRequest request).next =
      responder.obeyAny (request.command? responder.uid) := by
  rw [next_handleRequest]
  cases request.command? responder.uid <;> rfl

/-- A request of the other kind shows in the state only. -/
theorem handleRequest_apart {first second : Request}
    (apart : first.isDiscovery ≠ second.isDiscovery) (responder : Responder) :
    (responder.handleRequest first).next.handleRequest second =
      (responder.handleRequest second).mapState (obeyAny · (first.command? responder.uid)) := by
  rw [next_handleRequest_eq_obeyAny]
  cases command : first.command? responder.uid with
  | none => rfl
  | some given =>
    have kind := Request.isDiscovery_of_command? command
    exact handleRequest_obey (kind ▸ apart)

theorem next_handleRequest_comm {first second : Request}
    (apart : first.isDiscovery ≠ second.isDiscovery) (responder : Responder) :
    ((responder.handleRequest first).next.handleRequest second).next =
      ((responder.handleRequest second).next.handleRequest first).next := by
  rw [handleRequest_apart apart, handleRequest_apart apart.symm, Reaction.mapState,
    Reaction.mapState, next_handleRequest_eq_obeyAny, next_handleRequest_eq_obeyAny]
  cases own : first.command? responder.uid with
  | none => rfl
  | some given =>
    cases foreign : second.command? responder.uid with
    | none => rfl
    | some other =>
      have givenKind := Request.isDiscovery_of_command? own
      have otherKind := Request.isDiscovery_of_command? foreign
      exact obey_comm (otherKind ▸ givenKind ▸ apart.symm) responder

/-- A request of discovery and one outside it can be given in both orders: the device ends in
the same state, and each of them has the same answer and the same events, pin calls among
them. -/
theorem discovery_apart_from_parameters (responder : Responder) (discovery parameter : Request)
    (inside : discovery.commandClass = .discovery)
    (outside : parameter.commandClass ≠ .discovery) :
    let discoveryFirst := responder.handleRequest discovery
    let parameterFirst := responder.handleRequest parameter
    let parameterSecond := discoveryFirst.next.handleRequest parameter
    let discoverySecond := parameterFirst.next.handleRequest discovery
    parameterSecond.next = discoverySecond.next ∧
    discoverySecond.result = discoveryFirst.result ∧
    parameterSecond.result = parameterFirst.result ∧
    discoverySecond.events = discoveryFirst.events ∧
    parameterSecond.events = parameterFirst.events ∧
    pinCalls discoverySecond.events = pinCalls discoveryFirst.events ∧
    pinCalls parameterSecond.events = pinCalls parameterFirst.events := by
  intro discoveryFirst parameterFirst parameterSecond discoverySecond
  have apart : discovery.isDiscovery ≠ parameter.isDiscovery := by
    simp [Request.isDiscovery, inside, outside]
  have passed : parameterSecond = parameterFirst.mapState _ := handleRequest_apart apart responder
  have passedBack : discoverySecond = discoveryFirst.mapState _ :=
    handleRequest_apart apart.symm responder
  refine ⟨next_handleRequest_comm apart responder, ?_⟩
  rw [passed, passedBack]
  exact ⟨rfl, rfl, rfl, rfl, rfl, rfl⟩

/-- A mute beside a write that switches the identification on. Both flags are set in the end,
and each request drives its own pin. -/
theorem discovery_apart_from_parameters_mute :
    let responder : Responder := ⟨⟨⟨0x7A70, 1, by decide⟩, ⟨0, 0⟩, ⟨0, 1⟩, {}⟩, {}⟩
    let mute : Request :=
      ⟨.device responder.uid, ⟨0x7A70, 2, by decide⟩, 0, 1, 0, 0, .discovery, .discMute, []⟩
    let identify : Request :=
      ⟨.device responder.uid, ⟨0x7A70, 2, by decide⟩, 1, 1, 0, 0, .set, .identifyDevice, [1]⟩
    let muted := responder.handleRequest mute
    let identifying := responder.handleRequest identify
    let identifyingAfter := muted.next.handleRequest identify
    let mutedAfter := identifying.next.handleRequest mute
    (identifyingAfter.next = mutedAfter.next ∧ mutedAfter.next.state = ⟨true, true⟩) ∧
      mutedAfter.result = muted.result ∧ identifyingAfter.result = identifying.result ∧
      pinCalls mutedAfter.events = [⟨⟨0, 1⟩, .low⟩] ∧
      pinCalls identifyingAfter.events = [⟨⟨0, 0⟩, .high⟩] := by
  intro responder mute identify muted identifying identifyingAfter mutedAfter
  obtain ⟨next, muteAnswer, identifyAnswer, _, _, mutePin, identifyPin⟩ :=
    responder.discovery_apart_from_parameters mute identify rfl (by decide)
  exact ⟨⟨next, rfl⟩, muteAnswer, identifyAnswer, mutePin.trans rfl, identifyPin.trans rfl⟩

/-- Each request passes the command on: it leaves the device as without it, but for it. -/
theorem conversation_obey {requests : List Request}
    (apart : ∀ request ∈ requests, given.isDiscovery ≠ request.isDiscovery) :
    ((responder.obey given).conversation requests).map Turn.shown =
      (responder.conversation requests).map Turn.shown := by
  induction requests generalizing responder with
  | nil => rfl
  | cons request rest ih =>
    obtain ⟨first, others⟩ := List.forall_mem_cons.1 apart
    have handled : (responder.obey given).handleRequest request =
        (responder.handleRequest request).mapState (obey · given) := handleRequest_obey first
    rw [conversation, conversation, turn, turn, handled, List.map_cons, List.map_cons]
    exact congrArg (List.cons _) (ih others)

theorem conversation_next {request : Request} {requests : List Request}
    (apart : ∀ other ∈ requests, request.isDiscovery ≠ other.isDiscovery) :
    ((responder.handleRequest request).next.conversation requests).map Turn.shown =
      (responder.conversation requests).map Turn.shown := by
  rw [next_handleRequest_eq_obeyAny]
  cases command : request.command? responder.uid with
  | none => rfl
  | some given =>
    rw [← Request.isDiscovery_of_command? command] at apart
    exact conversation_obey apart

/-- The requests of one kind fare, however mixed with requests of the other kind, as if they
were alone. -/
theorem filter_conversation (kind : Bool) (responder : Responder) (requests : List Request) :
    ((responder.conversation requests).filter (·.request.isDiscovery == kind)).map Turn.shown =
      (responder.conversation (requests.filter (·.isDiscovery == kind))).map Turn.shown := by
  induction requests generalizing responder with
  | nil => rfl
  | cons request rest ih =>
    by_cases same : request.isDiscovery = kind
    · simp [conversation, turn, same, ih]
    · have apart : ∀ other ∈ rest.filter (·.isDiscovery == kind),
          request.isDiscovery ≠ other.isDiscovery := by
        intro other member
        rwa [eq_of_beq (List.mem_filter.1 member).2]
      simp [conversation, turn, same, ih, conversation_next apart]

end Responder

end Rdm
