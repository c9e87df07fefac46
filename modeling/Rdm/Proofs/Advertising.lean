import Rdm.Proofs.Refusal

/-! A controller takes a device to support the parameters in its list and the mandatory
ones, which no list holds. `Responder.serves_iff` says what a device serves. The two
agree but for two mandatory parameters, the description of a parameter and the start
address: the table has no entry for them, so every request for them is refused or
ignored. -/
namespace Rdm

namespace Pid

/-- The identifiers in a payload, two big-endian bytes each. -/
def ofPayload : Bytes → List Pid
  | high :: low :: rest => UInt16.ofNat (Bytes.toNat [high, low]) :: ofPayload rest
  | _ => []

def discovery : List Pid :=
  [discUniqueBranch, discMute, discUnMute]

theorem ofPayload_written (pids : List Pid) :
    ofPayload (pids.flatMap fun pid => Bytes.ofNat 2 pid.toNat) = pids := by
  induction pids with
  | nil => rfl
  | cons pid rest ih =>
    rw [List.flatMap_cons]
    calc ofPayload (Bytes.ofNat 2 pid.toNat ++ rest.flatMap fun pid => Bytes.ofNat 2 pid.toNat)
        = UInt16.ofNat (Bytes.toNat (Bytes.ofNat 2 pid.toNat)) ::
            ofPayload (rest.flatMap fun pid => Bytes.ofNat 2 pid.toNat) := rfl
      _ = pid :: rest := by rw [ih, Bytes.toNat_ofNat_word, UInt16.ofNat_toNat]

end Pid

theorem ParameterData.ofPayload_of_ofPids? {pids : List Pid} {data : ParameterData}
    (fits : ofPids? pids = some data) : Pid.ofPayload data.bytes = pids := by
  rw [ofPids?] at fits
  split at fits
  · rw [ofBytes?] at fits
    split at fits
    · cases fits
      exact Pid.ofPayload_written pids
    · contradiction
  · contradiction

namespace Parameter

/-- What is handled is what is listed or mandatory, without the two that have no entry. -/
theorem handled_iff {pid : Pid} :
    pid ∈ Pid.discovery ∨ pid ∈ table.map Parameter.pid ↔
      (pid ∈ listed ∨ pid ∈ Pid.mandatory) ∧
        pid ≠ .parameterDescription ∧ pid ≠ .dmxStartAddress := by
  have handled : (Pid.discovery ++ table.map Parameter.pid).Perm
      ((listed ++ Pid.mandatory).filter fun pid =>
        pid ≠ .parameterDescription ∧ pid ≠ .dmxStartAddress) := by
    rw [listed_eq_filter]
    decide
  rw [← List.mem_append, handled.mem_iff, List.mem_filter, List.mem_append, decide_eq_true_iff]

theorem not_handled {pid : Pid} (missing : pid ∈ [Pid.parameterDescription, .dmxStartAddress]) :
    pid ∉ Pid.discovery ∧ pid ∉ table.map Parameter.pid := by
  refine not_or.1 fun handled => ?_
  obtain ⟨_, description, startAddress⟩ := handled_iff.1 handled
  rcases List.mem_cons.1 missing with rfl | last
  · exact description rfl
  · exact startAddress (List.mem_singleton.1 last)

end Parameter

/-- The answer gives what was asked for: an acknowledgement, or the frame of a search. -/
def Answer.Grants : Answer → Prop
  | response reply => reply.responseType = .ack
  | discovery _ => True
  | nothing => False

structure Request.AsksFor (request : Request) (pid : Pid) (own : Uid) : Prop where
  destination : request.destination = .device own
  subDevice : request.subDevice = 0
  commandClass : request.commandClass ∈ [.discovery, .get, .set]
  pid : request.pid = pid

theorem Request.AsksFor.not_response {request : Request} {pid : Pid} {own : Uid}
    (asks : request.AsksFor pid own) :
    request.commandClass ∉ [.discoveryResponse, .getResponse, .setResponse] := by
  have requests : ∀ commandClass ∈ [CommandClass.discovery, .get, .set],
      commandClass ∉ [.discoveryResponse, .getResponse, .setResponse] := by decide
  exact requests _ asks.commandClass

namespace Responder

/-- Some request about the parameter is granted. -/
def Serves (responder : Responder) (pid : Pid) : Prop :=
  ∃ request : Request, request.AsksFor pid responder.uid ∧
    (responder.handleRequest request).result.Grants

variable {responder : Responder} {request : Request} {pid : Pid}

theorem grants_iff :
    (responder.handleRequest request).result.Grants ↔
      responder.FoundBy request ∨
        request.CallsForResponse responder.uid ∧
          ∃ data, responder.outcome request = .acknowledged data := by
  constructor
  · intro granted
    cases answer : (responder.handleRequest request).result with
    | nothing =>
      rw [answer] at granted
      exact granted.elim
    | discovery frame => exact .inl (result_eq_discovery_iff.1 answer).1
    | response response =>
      have acknowledged : response.responseType = .ack := by rwa [answer] at granted
      obtain ⟨call, reply⟩ := result_eq_response_iff.1 answer
      rcases Outcome.response?_eq_some_iff.1 reply with ⟨data, outcome, _⟩ | ⟨_, _, rfl⟩
      · exact .inr ⟨call, data, outcome⟩
      · contradiction
  · rintro (found | ⟨call, data, outcome⟩)
    · rw [result_eq_discovery_iff.2 ⟨found, rfl⟩]
      trivial
    · have reply : (responder.outcome request).response? request responder.uid =
          some (request.mirror responder.uid .ack data) := by
        rw [outcome]
        rfl
      rw [result_eq_response_iff.2 ⟨call, reply⟩]
      exact rfl

theorem outcome_of_parameter (other : request.commandClass ≠ .discovery) :
    responder.outcome request =
      (Parameter.dispatch responder.config responder.state request).result :=
  if_neg other

def ask (responder : Responder) (commandClass : CommandClass) (pid : Pid) (data : Bytes) :
    Request :=
  ⟨.device responder.uid, responder.uid, 0, 1, 0, 0, commandClass, pid, data⟩

theorem asksFor_ask {commandClass : CommandClass} {data : Bytes}
    (known : commandClass ∈ [.discovery, .get, .set]) :
    (responder.ask commandClass pid data).AsksFor pid responder.uid :=
  ⟨rfl, rfl, known, rfl⟩

theorem serves_search (unmuted : responder.state.muted = false) :
    responder.Serves .discUniqueBranch := by
  let everybody : Bytes := List.replicate 6 0 ++ List.replicate 6 0xFF
  have below : responder.uid.toNat ≤ everybody.numberAt 6 6 :=
    Nat.le_of_lt_succ responder.uid.toNat_lt
  have found : responder.FoundBy (responder.ask .discovery .discUniqueBranch everybody) :=
    ⟨.inl rfl, rfl, rfl, unmuted, rfl, Nat.zero_le _, below⟩
  exact ⟨_, asksFor_ask (by decide), grants_iff.2 (.inl found)⟩

theorem serves_muting (muting : pid = .discMute ∨ pid = .discUnMute) :
    responder.Serves pid := by
  have call : (responder.ask .discovery pid []).CallsForResponse responder.uid :=
    ⟨rfl, (asksFor_ask (by decide)).not_response, .inr ⟨muting, rfl⟩⟩
  have outcome : responder.outcome (responder.ask .discovery pid []) =
      .acknowledged (Discovery.MuteReply.parameterData {}) := by
    simp [Responder.outcome, ask, muting]
  exact ⟨_, asksFor_ask (by decide), grants_iff.2 (.inr ⟨call, _, outcome⟩)⟩

theorem serves_parameter (entry : pid ∈ Parameter.table.map Parameter.pid) :
    responder.Serves pid := by
  obtain ⟨parameter, member, rfl⟩ := List.mem_map.1 entry
  have readable : ∀ parameter ∈ Parameter.table, parameter.supportsGet = true := by decide
  let read := responder.ask .get parameter.pid []
  have kept : read.refusal? = none := by
    refine Request.refusal?_eq_none_iff.2 ⟨rfl, ?_, by simp [Request.Misshapen, read, ask]⟩
    exact ⟨parameter, member, rfl, .inl ⟨rfl, readable parameter member⟩⟩
  have verdict := Parameter.verdict responder.config responder.state read
  obtain ⟨data, acknowledged⟩ := verdict.exists_acknowledged_iff.2 kept
  have outside : read.commandClass ≠ .discovery := (by decide : CommandClass.get ≠ .discovery)
  have asks : read.AsksFor parameter.pid responder.uid := asksFor_ask (by decide)
  have call : read.CallsForResponse responder.uid := ⟨rfl, asks.not_response, .inl outside⟩
  exact ⟨read, asks, grants_iff.2 (.inr ⟨call, data, acknowledged⟩)⟩

theorem handled_of_serves (serves : responder.Serves pid) :
    pid ∈ Pid.discovery ∨ pid ∈ Parameter.table.map Parameter.pid := by
  obtain ⟨request, asks, granted⟩ := serves
  rw [← asks.pid]
  rcases grants_iff.1 granted with found | ⟨call, data, acknowledged⟩
  · left
    rw [found.pid]
    decide
  · by_cases discovery : request.commandClass = .discovery
    · left
      rcases (call.discovery.resolve_left (not_not_intro discovery)).1 with mute | unMute
      · rw [mute]
        decide
      · rw [unMute]
        decide
    · right
      have verdict := Parameter.verdict responder.config responder.state request
      rw [outcome_of_parameter discovery] at acknowledged
      have kept := verdict.exists_acknowledged_iff.1 ⟨data, acknowledged⟩
      obtain ⟨_, ⟨parameter, member, pid, _⟩, _⟩ := Request.refusal?_eq_none_iff.1 kept
      exact List.mem_map.2 ⟨parameter, member, pid⟩

theorem serves_iff (unmuted : responder.state.muted = false) :
    responder.Serves pid ↔ pid ∈ Pid.discovery ∨ pid ∈ Parameter.table.map Parameter.pid := by
  constructor
  · exact handled_of_serves
  · rintro (discovery | entry)
    · rcases List.mem_cons.1 discovery with rfl | muting
      · exact serves_search unmuted
      · exact serves_muting (by simpa using muting)
    · exact serves_parameter entry

/-- The list of supported parameters is read whole. -/
theorem result_of_listing (asks : request.AsksFor .supportedParameters responder.uid)
    (read : request.commandClass = .get) (bare : request.parameterData = []) :
    ∃ response, (responder.handleRequest request).result = .response response ∧
      response.responseType = .ack ∧
      Pid.ofPayload response.parameterData.bytes = Parameter.listed := by
  obtain ⟨data, fits⟩ := Parameter.exists_ofPids?_listed
  have found : Parameter.lookup? request.pid request.commandClass =
      some (.get .supportedParameters) := by
    rw [asks.pid, read]
    rfl
  have outcome : responder.outcome request = .acknowledged data := by
    rw [outcome_of_parameter (by rw [read]; decide),
      Parameter.result_of_read asks.subDevice found bare, Getter.read, Getter.payload, fits]
  have call : request.CallsForResponse responder.uid :=
    ⟨asks.destination, asks.not_response, .inl (by rw [read]; decide)⟩
  refine ⟨request.mirror responder.uid .ack data, result_eq_response_iff.2 ⟨call, ?_⟩, rfl,
    ParameterData.ofPayload_of_ofPids? fits⟩
  rw [outcome]
  rfl

/-- What is neither part of discovery nor in the table is ignored in a discovery request, and
refused in every other as unknown. -/
theorem result_of_unhandled (asks : request.AsksFor pid responder.uid)
    (discovery : pid ∉ Pid.discovery) (table : pid ∉ Parameter.table.map Parameter.pid) :
    (responder.handleRequest request).result =
      if request.commandClass = .discovery then .nothing
      else .response (request.mirror responder.uid .nackReason
        NackReason.unknownPid.parameterData) := by
  have act : request.destination.requiresAction responder.uid = true :=
    Address.requiresAction_iff.2 (.inl asks.destination)
  split
  next inside =>
    rw [← asks.pid] at discovery
    simp only [Pid.discovery, List.mem_cons, List.not_mem_nil, or_false, not_or] at discovery
    obtain ⟨search, mute, unMute⟩ := discovery
    rw [handleRequest_of_discovery act inside, discover_of_other search mute unMute]
    rfl
  next outside =>
    have unsupported : ¬ request.Supported := by
      rintro ⟨parameter, member, same, _⟩
      exact table (List.mem_map.2 ⟨parameter, member, same.trans asks.pid⟩)
    have broken : request.refusal? = some .unknownPid :=
      Request.refusal?_eq_some_iff.2 (.inr (.inl ⟨asks.subDevice, unsupported, rfl⟩))
    have verdict := Parameter.verdict responder.config responder.state request
    have refused : responder.outcome request = .refused .unknownPid := by
      rw [outcome_of_parameter outside]
      exact verdict.result_eq_refused_iff.2 broken
    have call : request.CallsForResponse responder.uid :=
      ⟨asks.destination, asks.not_response, .inl outside⟩
    apply result_eq_response_iff.2 ⟨call, _⟩
    rw [refused]
    rfl

/-- An unmuted device grants some request about a parameter exactly where the parameter is in
the list that it acknowledges or is mandatory, and is neither the description of a parameter nor
the start address. Of these two it grants no request, although both are mandatory: they are
refused as unknown, and ignored in discovery. -/
theorem serves_iff_advertised {listing : Request} (unmuted : responder.state.muted = false)
    (asks : listing.AsksFor .supportedParameters responder.uid)
    (read : listing.commandClass = .get) (bare : listing.parameterData = []) :
    ∃ response, (responder.handleRequest listing).result = .response response ∧
      response.responseType = .ack ∧
      (∀ pid, responder.Serves pid ↔
        (pid ∈ Pid.ofPayload response.parameterData.bytes ∨ pid ∈ Pid.mandatory) ∧
          pid ≠ .parameterDescription ∧ pid ≠ .dmxStartAddress) ∧
      ∀ pid ∈ [Pid.parameterDescription, Pid.dmxStartAddress], ∀ request : Request,
        request.AsksFor pid responder.uid →
          (responder.handleRequest request).result =
            if request.commandClass = .discovery then .nothing
            else .response (request.mirror responder.uid .nackReason
              NackReason.unknownPid.parameterData) := by
  obtain ⟨response, answer, acknowledged, listed⟩ := result_of_listing asks read bare
  refine ⟨response, answer, acknowledged, ?_, ?_⟩
  · intro pid
    rw [listed, serves_iff unmuted, Parameter.handled_iff]
  · intro pid missing request asked
    obtain ⟨discovery, table⟩ := Parameter.not_handled missing
    exact result_of_unhandled asked discovery table

/-- A device that takes slots from its start address on. It lists two labels, and a read of the
mandatory start address is refused. -/
theorem serves_iff_advertised_start_address :
    let responder : Responder :=
      ⟨⟨⟨0x7A70, 1, by decide⟩, ⟨0, 0⟩, ⟨0, 1⟩,
        { dmxFootprint := 4, dmxStartAddress := some 1 }⟩, {}⟩
    let read (pid : Pid) : Request :=
      ⟨.device responder.uid, ⟨0x7A70, 2, by decide⟩, 0, 1, 0, 0, .get, pid, []⟩
    ∃ response, (responder.handleRequest (read .supportedParameters)).result = .response response ∧
      Pid.ofPayload response.parameterData.bytes = [.deviceModelDescription, .manufacturerLabel] ∧
      responder.Serves .manufacturerLabel ∧ responder.Serves .discUniqueBranch ∧
      Pid.dmxStartAddress ∈ Pid.mandatory ∧ ¬ responder.Serves .dmxStartAddress ∧
      (responder.handleRequest (read .dmxStartAddress)).result =
        .response ((read .dmxStartAddress).mirror responder.uid .nackReason
          NackReason.unknownPid.parameterData) := by
  intro responder read
  have asks (pid : Pid) : (read pid).AsksFor pid responder.uid := ⟨rfl, rfl, by simp [read], rfl⟩
  have unmuted : responder.state.muted = false := rfl
  obtain ⟨response, answer, _, serves, refuses⟩ :=
    serves_iff_advertised unmuted (asks .supportedParameters) rfl rfl
  obtain ⟨given, known, _, listed⟩ := result_of_listing (asks .supportedParameters) rfl rfl
  cases answer.symm.trans known
  rw [Parameter.listed_eq_filter] at listed
  rw [listed] at serves
  refine ⟨response, answer, listed, (serves _).2 (by decide), (serves _).2 (by decide), by decide,
    ?_, refuses .dmxStartAddress (by decide) _ (asks _)⟩
  intro served
  exact ((serves _).1 served).2.2 rfl

end Responder

end Rdm
