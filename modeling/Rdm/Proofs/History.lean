import Rdm.Proofs.Command
import Rdm.Run

/-! A run comes down to its changes: the starts, and the commands that reach the device.
`Responder.next_perform` and `Responder.pinCalls_perform` say so of one step,
`Responder.afterSteps_eq_foldl` and `Responder.pinCalls_eventsOf` of many. All other
steps could as well be left out, and each flag is what the last command for it made of
it. -/
namespace Rdm

/-- What a step changes. A command comes with the configuration that it meets. -/
inductive Change where
  | restart (config : Config)
  | command (config : Config) (command : Command)
  deriving DecidableEq, Repr

namespace Change

def config : Change → Config
  | restart config => config
  | command config _ => config

def apply (responder : Responder) : Change → Responder
  | restart config => ⟨config, {}⟩
  | command _ given => { responder with state := given.apply responder.state }

def pinCalls : Change → List PinCall
  | restart config => [⟨config.mutePin, .high⟩, ⟨config.identifyPin, .low⟩]
  | command config given => [given.pinCall config]

theorem elim_apply (responder : Responder) (given : Option Command) :
    (given.map (command responder.config)).elim responder (apply responder) =
      { responder with
        state := given.elim responder.state (Command.apply responder.state) } := by
  cases given <;> rfl

theorem elim_pinCalls (config : Config) (given : Option Command) :
    (given.map (command config)).elim [] pinCalls =
      (given.map (Command.pinCall config)).toList := by
  cases given <;> rfl

end Change

/-- The change that an operation makes where this configuration holds. -/
def Operation.change? (config : Config) : Operation → Option Change
  | handlePacket packet =>
    (Request.packetCommand? packet config.uid).map (Change.command config)
  | handleRequest request => (request.command? config.uid).map (Change.command config)
  | sendAnswer _ => none
  | reset => some (.restart config)
  | reconfigure config => some (.restart config)

namespace Responder

variable {ε : Type}

theorem next_perform (responder : Responder) (step : Step ε) :
    (responder.perform step).next =
      (step.operation.change? responder.config).elim responder (Change.apply responder) := by
  obtain ⟨operation, transport⟩ := step
  cases operation with
  | handlePacket packet =>
    exact (next_handlePacket transport responder packet).trans (Change.elim_apply ..).symm
  | handleRequest request =>
    exact (next_handleRequest responder request).trans (Change.elim_apply ..).symm
  | sendAnswer answer => exact responder.next_sendAnswer transport answer
  | reset => rfl
  | reconfigure config => rfl

theorem pinCalls_perform (responder : Responder) (step : Step ε) :
    pinCalls (responder.perform step).events =
      (step.operation.change? responder.config).elim [] Change.pinCalls := by
  obtain ⟨operation, transport⟩ := step
  cases operation with
  | handlePacket packet =>
    exact (pinCalls_handlePacket transport responder packet).trans (Change.elim_pinCalls ..).symm
  | handleRequest request =>
    exact (pinCalls_handleRequest responder request).trans (Change.elim_pinCalls ..).symm
  | sendAnswer answer => exact pinCalls_sendAnswer transport responder answer
  | reset => rfl
  | reconfigure config => rfl

end Responder

theorem Operation.config_apply {responder : Responder} {operation : Operation}
    {change : Change} (h : operation.change? responder.config = some change) :
    (change.apply responder).config = change.config := by
  cases operation with
  | handlePacket packet =>
    obtain ⟨command, _, rfl⟩ := Option.map_eq_some_iff.1 h
    rfl
  | handleRequest request =>
    obtain ⟨command, _, rfl⟩ := Option.map_eq_some_iff.1 h
    rfl
  | sendAnswer answer => contradiction
  | reset =>
    cases h
    rfl
  | reconfigure config =>
    cases h
    rfl

namespace Step

variable {ε : Type}

def changes (config : Config) : List (Step ε) → List Change
  | [] => []
  | step :: rest =>
    match step.operation.change? config with
    | some change => change :: changes change.config rest
    | none => changes config rest

def effective (config : Config) : List (Step ε) → List (Step ε)
  | [] => []
  | step :: rest =>
    match step.operation.change? config with
    | some change => step :: effective change.config rest
    | none => effective config rest

/-- What is left when the steps without effect are gone makes the same changes. -/
theorem changes_effective (config : Config) (steps : List (Step ε)) :
    changes config (effective config steps) = changes config steps := by
  induction steps generalizing config with
  | nil => rfl
  | cons step rest ih =>
    cases h : step.operation.change? config with
    | none => simp only [effective, changes, h, ih]
    | some change => simp only [effective, changes, h, ih]

theorem length_changes (config : Config) (steps : List (Step ε)) :
    (changes config steps).length = (effective config steps).length := by
  induction steps generalizing config with
  | nil => rfl
  | cons step rest ih =>
    cases h : step.operation.change? config with
    | none => simp only [effective, changes, h, ih]
    | some change => simp only [effective, changes, h, ih, List.length_cons]

end Step

namespace Responder

variable {ε : Type}

theorem afterSteps_eq_foldl (responder : Responder) (steps : List (Step ε)) :
    responder.afterSteps steps =
      (Step.changes responder.config steps).foldl Change.apply responder := by
  induction steps generalizing responder with
  | nil => rfl
  | cons step rest ih =>
    have next := responder.next_perform step
    cases h : step.operation.change? responder.config with
    | none =>
      rw [h] at next
      rw [afterSteps, next, Step.changes, h]
      exact ih responder
    | some change =>
      rw [h] at next
      rw [afterSteps, next, Step.changes, h, List.foldl_cons, ← Operation.config_apply h]
      exact ih (change.apply responder)

theorem pinCalls_eventsOf (responder : Responder) (steps : List (Step ε)) :
    pinCalls (responder.eventsOf steps) =
      (Step.changes responder.config steps).flatMap Change.pinCalls := by
  induction steps generalizing responder with
  | nil => rfl
  | cons step rest ih =>
    have next := responder.next_perform step
    have calls := responder.pinCalls_perform step
    cases h : step.operation.change? responder.config with
    | none =>
      rw [h] at next calls
      rw [eventsOf_cons, pinCalls_append, calls, next, Step.changes, h]
      exact ih responder
    | some change =>
      rw [h] at next calls
      rw [eventsOf_cons, pinCalls_append, calls, next, Step.changes, h, List.flatMap_cons,
        ← Operation.config_apply h]
      exact congrArg _ (ih (change.apply responder))

end Responder

namespace Command

/-- A flag that every command sets or leaves alone is what the last to set it set. -/
theorem foldl_apply {flag : State → Bool} {read : Command → Option Bool}
    (h : ∀ state command, flag (apply state command) = (read command).getD (flag state))
    (state : State) (commands : List Command) :
    flag (commands.foldl apply state) =
      (commands.filterMap read).getLast?.getD (flag state) := by
  induction commands generalizing state with
  | nil => rfl
  | cons command rest ih =>
    rw [List.foldl_cons, ih, h, List.filterMap_cons]
    cases read command with
    | none => rfl
    | some value => simp [List.getLast?_cons]

theorem muted_apply (state : State) (command : Command) :
    (apply state command).muted = command.muted?.getD state.muted := by
  cases command <;> rfl

theorem identifying_apply (state : State) (command : Command) :
    (apply state command).identifying = command.identifying?.getD state.identifying := by
  cases command <;> rfl

end Command

/-- The commands since the last start, after one change more. -/
def Change.collect (commands : List Command) : Change → List Command
  | restart _ => []
  | command _ given => commands ++ [given]

theorem Change.state_foldl {responder : Responder} {commands : List Command}
    (h : responder.state = commands.foldl Command.apply {}) (changes : List Change) :
    (changes.foldl Change.apply responder).state =
      (changes.foldl Change.collect commands).foldl Command.apply {} := by
  induction changes generalizing responder commands with
  | nil => exact h
  | cons change rest ih =>
    apply ih
    cases change with
    | restart config => rfl
    | command config given => simp [Change.apply, Change.collect, h]

namespace Run

variable {ε : Type}

def history (run : Run ε) : List Change :=
  .restart run.config :: Step.changes run.config run.steps

/-- The commands since the last start. -/
def commands (run : Run ε) : List Command :=
  run.history.foldl Change.collect []

def effective (run : Run ε) : Run ε where
  config := run.config
  steps := Step.effective run.config run.steps

theorem history_effective (run : Run ε) : run.effective.history = run.history := by
  rw [history, effective, Step.changes_effective, history]

theorem final_eq_foldl (run : Run ε) :
    run.final = run.history.tail.foldl Change.apply ⟨run.config, {}⟩ :=
  Responder.afterSteps_eq_foldl _ _

theorem pinCalls_events (run : Run ε) :
    pinCalls run.events = run.history.flatMap Change.pinCalls := by
  rw [events, pinCalls_append, Responder.pinCalls_eventsOf, history, List.flatMap_cons]
  rfl

theorem state_final (run : Run ε) : run.final.state = run.commands.foldl Command.apply {} := by
  rw [final_eq_foldl]
  exact Change.state_foldl rfl _

theorem muted_final_iff (run : Run ε) :
    run.final.state.muted = true ↔
      (run.commands.filterMap Command.muted?).getLast? = some true := by
  rw [state_final, Command.foldl_apply Command.muted_apply]
  cases (run.commands.filterMap Command.muted?).getLast? <;> simp

theorem identifying_final_iff (run : Run ε) :
    run.final.state.identifying = true ↔
      (run.commands.filterMap Command.identifying?).getLast? = some true := by
  rw [state_final, Command.foldl_apply Command.identifying_apply]
  cases (run.commands.filterMap Command.identifying?).getLast? <;> simp

theorem final_effective (run : Run ε) : run.effective.final = run.final := by
  rw [final_eq_foldl, final_eq_foldl, history_effective]
  rfl

theorem pinCalls_effective (run : Run ε) :
    pinCalls run.effective.events = pinCalls run.events := by
  rw [pinCalls_events, pinCalls_events, history_effective]

/-- After a run each flag is as the last command for it since the last start left it.
Without the steps that are neither starts nor commands the run would end the same way and
drive the pins the same way: twice for each start and once for each command, also where
the flag was that way before. -/
theorem determined_by_history (run : Run ε) :
    (run.final.state.muted = true ↔
      (run.commands.filterMap Command.muted?).getLast? = some true) ∧
    (run.final.state.identifying = true ↔
      (run.commands.filterMap Command.identifying?).getLast? = some true) ∧
    run.effective.final = run.final ∧
    pinCalls run.effective.events = pinCalls run.events ∧
    run.history.length = run.effective.steps.length + 1 ∧
    pinCalls run.events = run.history.flatMap Change.pinCalls := by
  have length : run.history.length = run.effective.steps.length + 1 :=
    congrArg (· + 1) (Step.length_changes run.config run.steps)
  exact ⟨run.muted_final_iff, run.identifying_final_iff, run.final_effective,
    run.pinCalls_effective, length, run.pinCalls_events⟩

end Run

end Rdm
