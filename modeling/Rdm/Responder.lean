import Rdm.Answer
import Rdm.Discovery.Mute
import Rdm.Discovery.Search
import Rdm.Parameter.Dispatch

/-! A responder has a configuration and a state. Each operation gives a `Reaction`: a
result, the responder after it, and the pin calls, transmissions and log records in the
order they were made. A packet is handled to its end before the next is taken. -/
namespace Rdm

structure Responder where
  config : Config
  state : State
  deriving DecidableEq, Repr

inductive PacketError (ε : Type) where
  /-- The packet was dropped and had no effect. -/
  | dropped (error : ParseError)
  /-- The request was handled, and its answer did not get through. -/
  | transport (error : ε)
  deriving DecidableEq, Repr

def PacketError.message {ε : Type} (describe : ε → String) : PacketError ε → String
  | .dropped error => "dropped frame: " ++ error.message
  | .transport error => describe error

namespace Responder

def uid (responder : Responder) : Uid :=
  responder.config.uid

/-- Unmutes the responder and stops identifying, and shows so on the pins. -/
def reset (responder : Responder) : Reaction Responder Unit where
  result := ()
  next := { responder with state := {} }
  events := [.drive ⟨responder.config.mutePin, .high⟩, .drive ⟨responder.config.identifyPin, .low⟩,
    .log (.responderReset responder.config.uid)]

def start (config : Config) : Reaction Responder Unit :=
  reset ⟨config, {}⟩

/-- Only the pins of the new configuration are driven. -/
def reconfigure (responder : Responder) (config : Config) : Reaction Responder Unit :=
  reset { responder with config := config }

def discover (responder : Responder) (request : Request) : Reaction State Answer :=
  let answer := Answer.ofOutcome request (request.destination.classify responder.uid)
  if request.pid = Pid.discUniqueBranch then
    (Discovery.search responder.uid responder.state request).map Answer.ofFrame?
  else if request.pid = Pid.discMute then
    (Discovery.setMuted true responder.config responder.state request).map answer
  else if request.pid = Pid.discUnMute then
    (Discovery.setMuted false responder.config responder.state request).map answer
  else
    ⟨.nothing, responder.state, [.log (.ignoringDiscoveryPid request.pid)]⟩

/-- Decides on the answer to a request and carries it out. Nothing is sent. -/
def handleRequest (responder : Responder) (request : Request) : Reaction Responder Answer :=
  let addressing := request.destination.classify responder.uid
  if !addressing.requiresAction then ⟨.nothing, responder, []⟩
  else if request.commandClass.isResponse then
    ⟨.nothing, responder, [.log (.ignoringResponse request.commandClass request.source)]⟩
  else
    let reaction :=
      if request.commandClass = .discovery then responder.discover request
      else (Parameter.dispatch responder.config responder.state request).map
        (Answer.ofOutcome request addressing)
    reaction.mapState fun state => { responder with state := state }

def sendAnswer {ε : Type} (transport : Transport ε) (responder : Responder) (answer : Answer) :
    Reaction Responder (Except ε Unit) :=
  answer.send transport responder

def handlePacket {ε : Type} (transport : Transport ε) (responder : Responder) (packet : Bytes) :
    Reaction Responder (Except (PacketError ε) Unit) :=
  match Request.parse packet with
  | .error error => ⟨.error (.dropped error), responder, [.log (.droppingPacket error)]⟩
  | .ok request =>
    let handled := responder.handleRequest request
    let sent := handled.next.sendAnswer transport handled.result
    (sent.map (·.mapError .transport)).after handled.events

variable {responder : Responder} {request : Request}

/-- Nothing of what went before is left by a reset. -/
theorem reset_eq_start (responder : Responder) : responder.reset = start responder.config :=
  rfl

theorem reconfigure_eq_start (responder : Responder) (config : Config) :
    responder.reconfigure config = start config :=
  rfl

theorem handleRequest_of_elsewhere
    (h : request.destination.requiresAction responder.uid = false) :
    responder.handleRequest request = ⟨.nothing, responder, []⟩ := by
  unfold Address.requiresAction at h
  simp [handleRequest, h]

theorem handleRequest_of_isResponse
    (act : request.destination.requiresAction responder.uid = true)
    (h : request.commandClass.isResponse = true) :
    responder.handleRequest request = ⟨.nothing, responder,
      [.log (.ignoringResponse request.commandClass request.source)]⟩ := by
  unfold Address.requiresAction at act
  simp [handleRequest, act, h]

theorem handleRequest_of_discovery
    (act : request.destination.requiresAction responder.uid = true)
    (h : request.commandClass = .discovery) :
    responder.handleRequest request =
      (responder.discover request).mapState fun state => { responder with state := state } := by
  unfold Address.requiresAction at act
  simp [handleRequest, act, h, CommandClass.isResponse]

theorem handleRequest_of_parameter
    (act : request.destination.requiresAction responder.uid = true)
    (h : request.commandClass.isResponse = false) (other : request.commandClass ≠ .discovery) :
    responder.handleRequest request =
      ((Parameter.dispatch responder.config responder.state request).map
        (Answer.ofOutcome request (request.destination.classify responder.uid))).mapState
          fun state => { responder with state := state } := by
  unfold Address.requiresAction at act
  simp [handleRequest, act, h, other]

theorem discover_of_search (h : request.pid = .discUniqueBranch) :
    responder.discover request =
      (Discovery.search responder.uid responder.state request).map Answer.ofFrame? := by
  simp [discover, h]

theorem discover_of_muting {muted : Bool}
    (h : request.pid = if muted then .discMute else .discUnMute) :
    responder.discover request =
      (Discovery.setMuted muted responder.config responder.state request).map
        (Answer.ofOutcome request (request.destination.classify responder.uid)) := by
  cases muted <;>
    simp [discover, h, Pid.discUniqueBranch, Pid.discMute, Pid.discUnMute]

theorem discover_of_other (search : request.pid ≠ .discUniqueBranch)
    (mute : request.pid ≠ .discMute) (unMute : request.pid ≠ .discUnMute) :
    responder.discover request =
      ⟨.nothing, responder.state, [.log (.ignoringDiscoveryPid request.pid)]⟩ := by
  simp [discover, search, mute, unMute]

/-- All ways to handle a request, each with the reaction it has. -/
inductive Handling (responder : Responder) (request : Request) : Prop where
  | elsewhere (act : request.destination.requiresAction responder.uid = false)
      (handled : responder.handleRequest request = ⟨.nothing, responder, []⟩)
  | response (act : request.destination.requiresAction responder.uid = true)
      (isResponse : request.commandClass.isResponse = true)
      (handled : responder.handleRequest request = ⟨.nothing, responder,
        [.log (.ignoringResponse request.commandClass request.source)]⟩)
  | search (act : request.destination.requiresAction responder.uid = true)
      (discovery : request.commandClass = .discovery) (pid : request.pid = .discUniqueBranch)
      (handled : responder.handleRequest request =
        ((Discovery.search responder.uid responder.state request).map
          Answer.ofFrame?).mapState fun state => { responder with state := state })
  | muting (act : request.destination.requiresAction responder.uid = true)
      (discovery : request.commandClass = .discovery) (muted : Bool)
      (pid : request.pid = if muted then .discMute else .discUnMute)
      (handled : responder.handleRequest request =
        ((Discovery.setMuted muted responder.config responder.state request).map
          (Answer.ofOutcome request (request.destination.classify responder.uid))).mapState
            fun state => { responder with state := state })
  | unknownDiscovery (act : request.destination.requiresAction responder.uid = true)
      (discovery : request.commandClass = .discovery) (search : request.pid ≠ .discUniqueBranch)
      (mute : request.pid ≠ .discMute) (unMute : request.pid ≠ .discUnMute)
      (handled : responder.handleRequest request = ⟨.nothing, responder,
        [.log (.ignoringDiscoveryPid request.pid)]⟩)
  | parameter (act : request.destination.requiresAction responder.uid = true)
      (isResponse : request.commandClass.isResponse = false)
      (other : request.commandClass ≠ .discovery)
      (handled : responder.handleRequest request =
        ((Parameter.dispatch responder.config responder.state request).map
          (Answer.ofOutcome request (request.destination.classify responder.uid))).mapState
            fun state => { responder with state := state })

theorem handling (responder : Responder) (request : Request) : responder.Handling request := by
  cases act : request.destination.requiresAction responder.uid with
  | false => exact .elsewhere act (handleRequest_of_elsewhere act)
  | true =>
  cases isResponse : request.commandClass.isResponse with
  | true => exact .response act isResponse (handleRequest_of_isResponse act isResponse)
  | false =>
  by_cases discovery : request.commandClass = .discovery
  · have handled := handleRequest_of_discovery act discovery
    rcases Pid.discovery_cases request.pid with search | ⟨muted, pid⟩ | ⟨search, mute, unMute⟩
    · rw [discover_of_search search] at handled
      exact .search act discovery search handled
    · rw [discover_of_muting pid] at handled
      exact .muting act discovery muted pid handled
    · rw [discover_of_other search mute unMute] at handled
      exact .unknownDiscovery act discovery search mute unMute handled
  · exact .parameter act isResponse discovery (handleRequest_of_parameter act isResponse discovery)

variable {ε δ : Type} {transport : Transport ε} {packet : Bytes}

theorem handlePacket_of_error {error : ParseError}
    (dropped : Request.parse packet = .error error) :
    responder.handlePacket transport packet =
      ⟨.error (.dropped error), responder, [.log (.droppingPacket error)]⟩ := by
  simp only [handlePacket, dropped]

theorem handlePacket_of_ok (accepted : Request.parse packet = .ok request) :
    responder.handlePacket transport packet =
      let handled := responder.handleRequest request
      ⟨(handled.result.deliver transport).mapError .transport, handled.next,
        handled.events ++ handled.result.transmission?.toList.map .send⟩ := by
  simp only [handlePacket, accepted, sendAnswer, Reaction.after, Reaction.map,
    Answer.result_send, Answer.next_send, Answer.events_send]

@[simp] theorem next_sendAnswer (transport : Transport ε) (responder : Responder)
    (answer : Answer) : (responder.sendAnswer transport answer).next = responder :=
  Answer.next_send

/-- What a transport makes of a transmission shows in the result only. -/
theorem sendAnswer_sameEffect (first : Transport ε) (second : Transport δ)
    (responder : Responder) (answer : Answer) :
    (responder.sendAnswer first answer).SameEffect (responder.sendAnswer second answer) :=
  ⟨by simp, by simp [sendAnswer]⟩

theorem handlePacket_sameEffect (first : Transport ε) (second : Transport δ)
    (responder : Responder) (packet : Bytes) :
    (responder.handlePacket first packet).SameEffect (responder.handlePacket second packet) := by
  cases parsed : Request.parse packet with
  | error error =>
    rw [handlePacket_of_error parsed, handlePacket_of_error parsed]
    exact ⟨rfl, rfl⟩
  | ok request =>
    rw [handlePacket_of_ok parsed, handlePacket_of_ok parsed]
    exact ⟨rfl, rfl⟩

end Responder

end Rdm
