import Rdm.Proofs.Reply

/-! Three rules stand between a request outside discovery and its handler, in a fixed
order. `Request.refusal?` names the first that a request breaks, by the request and the
table alone. `Parameter.verdict` says that this decides what becomes of the request, in
every device and every state: it is refused for that reason and nothing happens, or it
is acknowledged. -/
namespace Rdm

namespace Request

def Supported (request : Request) : Prop :=
  ∃ parameter ∈ Parameter.table, parameter.pid = request.pid ∧
    (request.commandClass = .get ∧ parameter.supportsGet = true ∨
      request.commandClass = .set ∧ parameter.supportsSet = true)

/-- A read that carries data, or a write of anything but one byte. -/
def Misshapen (request : Request) : Prop :=
  request.commandClass = .get ∧ request.parameterData ≠ [] ∨
    request.commandClass = .set ∧ request.parameterData.length ≠ 1

instance (request : Request) : Decidable request.Supported :=
  inferInstanceAs (Decidable (∃ parameter ∈ Parameter.table, parameter.pid = request.pid ∧
    (request.commandClass = .get ∧ parameter.supportsGet = true ∨
      request.commandClass = .set ∧ parameter.supportsSet = true)))

instance (request : Request) : Decidable request.Misshapen :=
  inferInstanceAs (Decidable (request.commandClass = .get ∧ request.parameterData ≠ [] ∨
    request.commandClass = .set ∧ request.parameterData.length ≠ 1))

/-- The reason that goes with the first rule the request breaks. -/
def refusal? (request : Request) : Option NackReason :=
  if request.subDevice ≠ 0 then some .subDeviceOutOfRange
  else if ¬ request.Supported then some .unknownPid
  else if request.Misshapen then some .formatError
  else none

variable {request : Request}

theorem refusal?_eq_some_iff {reason : NackReason} :
    request.refusal? = some reason ↔
      request.subDevice ≠ 0 ∧ reason = .subDeviceOutOfRange ∨
      request.subDevice = 0 ∧ ¬ request.Supported ∧ reason = .unknownPid ∨
      request.subDevice = 0 ∧ request.Supported ∧ request.Misshapen ∧ reason = .formatError := by
  by_cases root : request.subDevice = 0
  · by_cases supported : request.Supported
    · by_cases misshapen : request.Misshapen <;>
        simp [refusal?, root, supported, misshapen, eq_comm]
    · simp [refusal?, root, supported, eq_comm]
  · simp [refusal?, root, eq_comm]

theorem refusal?_eq_none_iff :
    request.refusal? = none ↔
      request.subDevice = 0 ∧ request.Supported ∧ ¬ request.Misshapen := by
  by_cases root : request.subDevice = 0
  · by_cases supported : request.Supported
    · by_cases misshapen : request.Misshapen <;> simp [refusal?, root, supported, misshapen]
    · simp [refusal?, root, supported]
  · simp [refusal?, root]

theorem supported_iff :
    request.Supported ↔
      ∃ handler, Parameter.lookup? request.pid request.commandClass = some handler := by
  constructor
  · rintro ⟨parameter, member, pid, handled⟩
    have entry := Parameter.find?_eq_some_iff.2 ⟨member, pid⟩
    obtain ⟨handler, given⟩ :=
      Option.isSome_iff_exists.1 (Parameter.isSome_handler?_iff.2 handled)
    exact ⟨handler, Option.bind_eq_some_iff.2 ⟨parameter, entry, given⟩⟩
  · rintro ⟨handler, found⟩
    obtain ⟨parameter, entry, given⟩ := Option.bind_eq_some_iff.1 found
    obtain ⟨member, pid⟩ := Parameter.find?_eq_some_iff.1 entry
    exact ⟨parameter, member, pid,
      Parameter.isSome_handler?_iff.1 (Option.isSome_iff_exists.2 ⟨handler, given⟩)⟩

end Request

/-- How a reaction has to end where the first broken rule gives this reason, or none is broken.
A refusal leaves the state and the pins alone. -/
inductive Reaction.Verdict (reaction : Reaction State Outcome) (state : State) :
    Option NackReason → Prop where
  | refused {reason : NackReason} (result : reaction.result = .refused reason)
      (next : reaction.next = state) (pinCalls : pinCalls reaction.events = []) :
      Verdict reaction state (some reason)
  | acknowledged {data : ParameterData} (result : reaction.result = .acknowledged data) :
      Verdict reaction state none

namespace Reaction.Verdict

variable {reaction : Reaction State Outcome} {state : State} {refusal : Option NackReason}

theorem after_log (verdict : reaction.Verdict state refusal) (record : LogRecord) :
    (reaction.after [.log record]).Verdict state refusal := by
  cases verdict with
  | refused result next pinCalls => exact .refused result next pinCalls
  | acknowledged result => exact .acknowledged result

theorem result_eq_refused_iff (verdict : reaction.Verdict state refusal) {reason : NackReason} :
    reaction.result = .refused reason ↔ refusal = some reason := by
  cases verdict with
  | refused result => simp [result]
  | acknowledged result => simp [result]

theorem exists_acknowledged_iff (verdict : reaction.Verdict state refusal) :
    (∃ data, reaction.result = .acknowledged data) ↔ refusal = none := by
  cases verdict with
  | refused result => simp [result]
  | acknowledged result => simp [result]

theorem unchanged (verdict : reaction.Verdict state refusal)
    (unacknowledged : ∀ data, reaction.result ≠ .acknowledged data) :
    reaction.next = state ∧ pinCalls reaction.events = [] := by
  cases verdict with
  | refused _ next pinCalls => exact ⟨next, pinCalls⟩
  | acknowledged result => exact absurd result (unacknowledged _)

end Reaction.Verdict

namespace Parameter

variable {config : Config} {state : State} {request : Request}

theorem write_verdict (setter : Setter) (data : Bytes) :
    (setter.write config state data).Verdict state
      (if data.length = 1 then none else some .formatError) := by
  cases setter
  match data with
  | [value] => exact .acknowledged rfl
  | [] | _ :: _ :: _ => exact .refused rfl rfl rfl

theorem verdict (config : Config) (state : State) (request : Request) :
    (dispatch config state request).Verdict state request.refusal? := by
  cases dispatched config request with
  | subDevice other handled =>
    have broken : request.refusal? = some .subDeviceOutOfRange :=
      Request.refusal?_eq_some_iff.2 (.inl ⟨other, rfl⟩)
    rw [broken, handled]
    exact .refused rfl rfl rfl
  | unsupported root missing handled =>
    have unsupported : ¬ request.Supported := by
      rw [Request.supported_iff, missing]
      simp
    have broken : request.refusal? = some .unknownPid :=
      Request.refusal?_eq_some_iff.2 (.inr (.inl ⟨root, unsupported, rfl⟩))
    rw [broken, handled]
    exact .refused rfl rfl rfl
  | read root getter found data handled =>
    have get : request.commandClass = .get := class_of_lookup? found
    have proper : ¬ request.Misshapen := by
      simpa [Request.Misshapen, get] using data
    have kept : request.refusal? = none :=
      Request.refusal?_eq_none_iff.2 ⟨root, Request.supported_iff.2 ⟨_, found⟩, proper⟩
    obtain ⟨payload, fits⟩ := getter.exists_payload config state
    have read : getter.read config state = .acknowledged payload := by simp [Getter.read, fits]
    rw [kept, handled]
    exact .acknowledged read
  | readWithData root getter found data handled =>
    have get : request.commandClass = .get := class_of_lookup? found
    have misshapen : request.Misshapen := by
      simpa [Request.Misshapen, get] using data
    have broken : request.refusal? = some .formatError :=
      Request.refusal?_eq_some_iff.2
        (.inr (.inr ⟨root, Request.supported_iff.2 ⟨_, found⟩, misshapen, rfl⟩))
    rw [broken, handled]
    exact .refused rfl rfl rfl
  | write root setter found handled =>
    have set : request.commandClass = .set := class_of_lookup? found
    have misshapen_iff : request.Misshapen ↔ ¬ request.parameterData.length = 1 := by
      simp [Request.Misshapen, set]
    have supported : request.Supported := Request.supported_iff.2 ⟨_, found⟩
    have rules : request.refusal? =
        if request.parameterData.length = 1 then none else some .formatError := by
      split
      next one =>
        exact Request.refusal?_eq_none_iff.2
          ⟨root, supported, fun misshapen => misshapen_iff.1 misshapen one⟩
      next other =>
        exact Request.refusal?_eq_some_iff.2
          (.inr (.inr ⟨root, supported, misshapen_iff.2 other, rfl⟩))
    rw [rules, handled]
    exact (write_verdict setter request.parameterData).after_log _

/-- A read that keeps the rules is answered by what the table has for it. -/
theorem result_of_read {getter : Getter} (root : request.subDevice = 0)
    (found : lookup? request.pid request.commandClass = some (.get getter))
    (bare : request.parameterData = []) :
    (dispatch config state request).result = getter.read config state := by
  simp [dispatch, root, found, bare, Packet.rootDevice]

/-- Only a write can change anything. -/
theorem dispatch_unchanged_of_class (other : request.commandClass ≠ .set) :
    (dispatch config state request).next = state ∧
      pinCalls (dispatch config state request).events = [] := by
  cases dispatched config request with
  | subDevice _ handled | unsupported _ _ handled | read _ _ _ _ handled
  | readWithData _ _ _ _ handled =>
    rw [handled]
    exact ⟨rfl, rfl⟩
  | write _ _ found => exact absurd (class_of_lookup? found) other

/-- The first rule that a request breaks decides what becomes of it: a sub device, a parameter
that has no handler of the class, data of the wrong shape. A request that keeps all three is
acknowledged, whatever the labels of the device are. Nothing but an acknowledged write changes
the state or drives a pin. -/
theorem dispatch_by_rules (config : Config) (state : State) (request : Request) :
    let reaction := dispatch config state request
    (reaction.result = .refused .subDeviceOutOfRange ↔ request.subDevice ≠ 0) ∧
      (reaction.result = .refused .unknownPid ↔
        request.subDevice = 0 ∧ ¬ request.Supported) ∧
      (reaction.result = .refused .formatError ↔
        request.subDevice = 0 ∧ request.Supported ∧ request.Misshapen) ∧
      ((∃ data, reaction.result = .acknowledged data) ↔
        request.subDevice = 0 ∧ request.Supported ∧ ¬ request.Misshapen) ∧
      reaction.result ≠ .silent ∧
      (∀ reason, reaction.result = .refused reason →
        reason ∈ [.subDeviceOutOfRange, .unknownPid, .formatError]) ∧
      ((∀ data, reaction.result ≠ .acknowledged data) ∨ request.commandClass ≠ .set →
        reaction.next = state ∧ pinCalls reaction.events = []) := by
  intro reaction
  have verdict : reaction.Verdict state request.refusal? := verdict config state request
  have refused_iff (reason : NackReason) :
      reaction.result = .refused reason ↔ request.refusal? = some reason :=
    verdict.result_eq_refused_iff
  refine ⟨?_, ?_, ?_, ?_, dispatch_ne_silent, ?_, ?_⟩
  · rw [refused_iff, Request.refusal?_eq_some_iff]
    simp
  · rw [refused_iff, Request.refusal?_eq_some_iff]
    simp
  · rw [refused_iff, Request.refusal?_eq_some_iff]
    simp
  · rw [verdict.exists_acknowledged_iff, Request.refusal?_eq_none_iff]
  · intro reason refused
    rw [refused_iff, Request.refusal?_eq_some_iff] at refused
    rcases refused with ⟨-, rfl⟩ | ⟨-, -, rfl⟩ | ⟨-, -, -, rfl⟩ <;> decide
  · rintro (unacknowledged | other)
    · exact verdict.unchanged unacknowledged
    · exact dispatch_unchanged_of_class other

/-- A write that breaks all three rules, and what is left of its faults when the first of them
are mended. -/
theorem dispatch_by_rules_three_faults :
    let config : Config := ⟨⟨0x7A70, 1, by decide⟩, ⟨0, 0⟩, ⟨0, 1⟩, {}⟩
    let write (subDevice : UInt16) (pid : Pid) : Request :=
      ⟨.broadcast, ⟨0x7A70, 2, by decide⟩, 0, 1, 0, subDevice, .set, pid, [1, 1]⟩
    let misshapen := dispatch config {} (write 0 .identifyDevice)
    (dispatch config {} (write 1 .deviceInfo)).result = .refused .subDeviceOutOfRange ∧
      (dispatch config {} (write 0 .deviceInfo)).result = .refused .unknownPid ∧
      misshapen.result = .refused .formatError ∧
      (∀ data, misshapen.result ≠ .acknowledged data) ∧
      misshapen.next = {} ∧ pinCalls misshapen.events = [] := by
  intro config write misshapen
  obtain ⟨subDevice, _⟩ := dispatch_by_rules config {} (write 1 .deviceInfo)
  obtain ⟨_, unknownPid, _⟩ := dispatch_by_rules config {} (write 0 .deviceInfo)
  obtain ⟨_, _, formatError, _, _, _, unchanged⟩ :=
    dispatch_by_rules config {} (write 0 .identifyDevice)
  have refused : misshapen.result = .refused .formatError := formatError.2 (by decide)
  have unacknowledged (data : ParameterData) : misshapen.result ≠ .acknowledged data := by
    rw [refused]
    exact nofun
  exact ⟨subDevice.2 (by decide), unknownPid.2 (by decide), refused, unacknowledged,
    unchanged (.inl unacknowledged)⟩

end Parameter

end Rdm
