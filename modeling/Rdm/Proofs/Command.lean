import Rdm.Responder

/-! Of all requests only mutes, unmutes and switches of the identification change a
device. `Request.command?` reads such a command off a request.
`Responder.next_handleRequest` and `Responder.pinCalls_handleRequest` say that a request
leaves the state its command leaves and drives the pin its command drives, and that
nothing else does either. -/
namespace Rdm

inductive Command where
  | mute (muted : Bool)
  | identify (identifying : Bool)
  deriving DecidableEq, Repr

namespace Command

def apply (state : State) : Command → State
  | mute muted => { state with muted := muted }
  | identify identifying => { state with identifying := identifying }

/-- The pin that shows the flag. It is driven also where the flag stays the same. -/
def pinCall (config : Config) : Command → PinCall
  | mute muted => ⟨config.mutePin, Level.ofBool !muted⟩
  | identify identifying => ⟨config.identifyPin, Level.ofBool identifying⟩

def muted? : Command → Option Bool
  | mute muted => some muted
  | identify _ => none

def identifying? : Command → Option Bool
  | mute _ => none
  | identify identifying => some identifying

end Command

/-- The command that a request gives to the device `own`: a mute or unmute without data,
or a write of one byte to the identification of the device itself. -/
def Request.command? (request : Request) (own : Uid) : Option Command :=
  if request.destination ∈ Address.reaching own then
    match request.commandClass, request.parameterData with
    | .discovery, [] =>
      if request.pid = .discMute then some (.mute true)
      else if request.pid = .discUnMute then some (.mute false)
      else none
    | .set, [value] =>
      if request.subDevice = Packet.rootDevice ∧ request.pid = .identifyDevice then
        some (.identify (value != 0))
      else none
    | _, _ => none
  else none

def Request.packetCommand? (packet : Bytes) (own : Uid) : Option Command :=
  (parse packet).toOption.bind (·.command? own)

namespace Request

variable {request : Request} {own : Uid}

theorem command?_of_elsewhere (h : request.destination.requiresAction own = false) :
    request.command? own = none := by
  simp [command?, Address.mem_reaching_iff, h]

theorem command?_of_other_class (discovery : request.commandClass ≠ .discovery)
    (set : request.commandClass ≠ .set) : request.command? own = none := by
  rw [command?]
  split
  · split
    next h _ => exact absurd h discovery
    next h _ => exact absurd h set
    next => rfl
  · rfl

theorem command?_of_muting {muted : Bool}
    (act : request.destination.requiresAction own = true)
    (discovery : request.commandClass = .discovery)
    (pid : request.pid = if muted then .discMute else .discUnMute) :
    request.command? own =
      if request.parameterData = [] then some (.mute muted) else none := by
  cases data : request.parameterData with
  | nil =>
    rw [command?, if_pos (Address.mem_reaching_iff.2 act)]
    cases muted <;> simp [discovery, data, pid, Pid.discMute, Pid.discUnMute]
  | cons byte rest => simp [command?, discovery, data]

theorem command?_of_other_discovery (discovery : request.commandClass = .discovery)
    (mute : request.pid ≠ .discMute) (unMute : request.pid ≠ .discUnMute) :
    request.command? own = none := by
  cases data : request.parameterData <;> simp [command?, discovery, data, mute, unMute]

theorem command?_of_no_identify (other : request.commandClass ≠ .discovery)
    (h : ∀ value, request.parameterData = [value] → request.commandClass = .set →
      request.subDevice = Packet.rootDevice → request.pid ≠ .identifyDevice) :
    request.command? own = none := by
  rw [command?]
  split
  · split
    next discovery _ => exact absurd discovery other
    next value set data => exact if_neg fun both => h value data set both.1 both.2
    next => rfl
  · rfl

theorem command?_of_data {first second : UInt8} {rest : Bytes}
    (data : request.parameterData = first :: second :: rest) : request.command? own = none := by
  rw [command?, data]
  split
  · split <;> simp_all
  · rfl

theorem command?_of_identify {value : UInt8}
    (act : request.destination.requiresAction own = true) (set : request.commandClass = .set)
    (data : request.parameterData = [value]) (root : request.subDevice = Packet.rootDevice)
    (pid : request.pid = .identifyDevice) :
    request.command? own = some (.identify (value != 0)) := by
  simp [command?, Address.mem_reaching_iff, act, set, data, root, pid]

end Request

/-- The reaction of a device that carries out at most this command. -/
structure Reaction.Obeys {α : Type} (reaction : Reaction State α) (config : Config)
    (state : State) (command : Option Command) : Prop where
  next : reaction.next = command.elim state (Command.apply state)
  pinCalls : pinCalls reaction.events = (command.map (Command.pinCall config)).toList

theorem Reaction.Obeys.map {α β : Type} {reaction : Reaction State α} {config : Config}
    {state : State} {command : Option Command} (obeys : reaction.Obeys config state command)
    (f : α → β) : (reaction.map f).Obeys config state command :=
  ⟨obeys.next, obeys.pinCalls⟩

theorem Reaction.Obeys.after_log {α : Type} {reaction : Reaction State α} {config : Config}
    {state : State} {command : Option Command} (obeys : reaction.Obeys config state command)
    (record : LogRecord) : (reaction.after [.log record]).Obeys config state command :=
  ⟨obeys.next, obeys.pinCalls⟩

namespace Discovery

variable {config : Config} {state : State} {request : Request}

theorem search_obeys (uid : Uid) : (search uid state request).Obeys config state none := by
  refine ⟨next_search .., ?_⟩
  rw [search]
  split
  · rfl
  · split <;> rfl

theorem setMuted_obeys (muted : Bool) :
    (setMuted muted config state request).Obeys config state
      (if request.parameterData = [] then some (.mute muted) else none) := by
  rw [setMuted]
  cases request.parameterData with
  | nil => exact ⟨rfl, rfl⟩
  | cons byte rest => exact ⟨rfl, rfl⟩

end Discovery

namespace Parameter

variable {config : Config} {state : State} {request : Request}

/-- The identification is the only parameter that can be written. -/
theorem lookup?_eq_set_iff {pid : Pid} {commandClass : CommandClass} {setter : Setter} :
    lookup? pid commandClass = some (.set setter) ↔
      commandClass = .set ∧ pid = .identifyDevice := by
  constructor
  · intro h
    obtain ⟨parameter, found, handler⟩ := Option.bind_eq_some_iff.1 h
    have member : parameter ∈ table := List.mem_of_find?_eq_some found
    have pid := pid_of_find? found
    simp only [table, List.mem_cons, List.not_mem_nil, or_false] at member
    rcases member with rfl | rfl | rfl | rfl | rfl | rfl <;> cases commandClass <;>
      simp_all [handler?]
  · rintro ⟨rfl, rfl⟩
    cases setter
    rfl

theorem write_obeys {value : UInt8} (setter : Setter) :
    (setter.write config state [value]).Obeys config state (some (.identify (value != 0))) := by
  cases setter
  exact ⟨rfl, rfl⟩

theorem write_obeys_none {data : Bytes} (setter : Setter) (h : ∀ value, data ≠ [value]) :
    (setter.write config state data).Obeys config state none := by
  cases setter
  match data, h with
  | [], _ => exact ⟨rfl, rfl⟩
  | [value], h => exact absurd rfl (h value)
  | _ :: _ :: _, _ => exact ⟨rfl, rfl⟩

/-- Of all requests outside discovery only a proper write carries out a command. -/
theorem dispatch_obeys {own : Uid} (act : request.destination.requiresAction own = true)
    (other : request.commandClass ≠ .discovery) :
    (dispatch config state request).Obeys config state (request.command? own) := by
  have unwritable (h : ∀ setter, lookup? request.pid request.commandClass ≠ some (.set setter)) :
      request.command? own = none := by
    apply Request.command?_of_no_identify other
    intro value data set _ pid
    exact h .identifyDevice (lookup?_eq_set_iff.2 ⟨set, pid⟩)
  cases dispatched config request with
  | subDevice away handled =>
    rw [handled, Request.command?_of_no_identify other fun value _ _ root => absurd root away]
    exact ⟨rfl, rfl⟩
  | unsupported _ missing handled =>
    rw [handled, unwritable (by simp [missing])]
    exact ⟨rfl, rfl⟩
  | read _ _ found _ handled | readWithData _ _ found _ handled =>
    rw [handled, unwritable (by simp [found])]
    exact ⟨rfl, rfl⟩
  | write root setter found handled =>
    obtain ⟨set, pid⟩ := lookup?_eq_set_iff.1 found
    rw [handled]
    apply Reaction.Obeys.after_log
    by_cases one : ∃ value, request.parameterData = [value]
    · obtain ⟨value, data⟩ := one
      rw [Request.command?_of_identify act set data root pid, data]
      exact write_obeys setter
    · have many : ∀ value, request.parameterData ≠ [value] := fun value h => one ⟨value, h⟩
      rw [Request.command?_of_no_identify other fun value h => absurd h (many value)]
      exact write_obeys_none setter many

end Parameter

namespace Responder

variable {responder : Responder} {request : Request}

/-- A request is handled on the state alone, and by no more than its command. -/
theorem handleRequest_obeys (responder : Responder) (request : Request) :
    ∃ reaction : Reaction State Answer,
      reaction.Obeys responder.config responder.state (request.command? responder.uid) ∧
        responder.handleRequest request =
          reaction.mapState fun state => { responder with state := state } := by
  cases responder.handling request with
  | elsewhere act handled =>
    rw [Request.command?_of_elsewhere act]
    exact ⟨⟨.nothing, responder.state, []⟩, ⟨rfl, rfl⟩, handled⟩
  | response act isResponse handled =>
    have none : request.command? responder.uid = none := by
      apply Request.command?_of_other_class <;> intro h <;> rw [h] at isResponse <;> contradiction
    rw [none]
    exact ⟨⟨.nothing, responder.state, _⟩, ⟨rfl, rfl⟩, handled⟩
  | search act discovery pid handled =>
    have apart : request.pid ≠ .discMute ∧ request.pid ≠ .discUnMute := by
      rw [pid]
      decide
    rw [Request.command?_of_other_discovery discovery apart.1 apart.2]
    exact ⟨_, (Discovery.search_obeys _).map _, handled⟩
  | muting act discovery muted pid handled =>
    rw [Request.command?_of_muting act discovery pid]
    exact ⟨_, (Discovery.setMuted_obeys muted).map _, handled⟩
  | unknownDiscovery act discovery search mute unMute handled =>
    rw [Request.command?_of_other_discovery discovery mute unMute]
    exact ⟨⟨.nothing, responder.state, _⟩, ⟨rfl, rfl⟩, handled⟩
  | parameter act isResponse other handled =>
    exact ⟨_, (Parameter.dispatch_obeys act other).map _, handled⟩

theorem next_handleRequest (responder : Responder) (request : Request) :
    (responder.handleRequest request).next =
      { responder with
        state := (request.command? responder.uid).elim responder.state
          (Command.apply responder.state) } := by
  obtain ⟨reaction, obeys, handled⟩ := handleRequest_obeys responder request
  rw [handled, Reaction.mapState, obeys.next]

theorem uid_next_handleRequest (responder : Responder) (request : Request) :
    (responder.handleRequest request).next.uid = responder.uid := by
  rw [next_handleRequest]
  rfl

theorem pinCalls_handleRequest (responder : Responder) (request : Request) :
    pinCalls (responder.handleRequest request).events =
      ((request.command? responder.uid).map (Command.pinCall responder.config)).toList := by
  obtain ⟨reaction, obeys, handled⟩ := handleRequest_obeys responder request
  rw [handled, Reaction.mapState, obeys.pinCalls]

variable {ε : Type}

theorem pinCalls_sendAnswer (transport : Transport ε) (responder : Responder) (answer : Answer) :
    pinCalls (responder.sendAnswer transport answer).events = [] := by
  rw [sendAnswer, Answer.events_send, pinCalls_map_send]

theorem next_handlePacket (transport : Transport ε) (responder : Responder) (packet : Bytes) :
    (responder.handlePacket transport packet).next =
      { responder with
        state := (Request.packetCommand? packet responder.uid).elim responder.state
          (Command.apply responder.state) } := by
  rw [Request.packetCommand?]
  cases parsed : Request.parse packet with
  | error error =>
    rw [handlePacket_of_error parsed]
    rfl
  | ok request =>
    rw [handlePacket_of_ok parsed]
    exact next_handleRequest responder request

theorem pinCalls_handlePacket (transport : Transport ε) (responder : Responder) (packet : Bytes) :
    pinCalls (responder.handlePacket transport packet).events =
      ((Request.packetCommand? packet responder.uid).map
        (Command.pinCall responder.config)).toList := by
  rw [Request.packetCommand?]
  cases parsed : Request.parse packet with
  | error error =>
    rw [handlePacket_of_error parsed]
    rfl
  | ok request =>
    simp only [handlePacket_of_ok parsed, pinCalls_append, pinCalls_map_send, List.append_nil]
    exact pinCalls_handleRequest responder request

end Responder

end Rdm
