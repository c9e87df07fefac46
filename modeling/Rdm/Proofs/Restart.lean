import Rdm.Proofs.Indicators

/-! A restart leaves nothing of what was before it: from there on a run is a fresh run,
with the new configuration or with the one that held (`Run.trace_restart`). So a run is
a number of lives, one after the other, each of them a run of its own without any
restart (`Run.trace_eq_flatMap_lives`). -/
namespace Rdm

def Operation.restart? (current : Config) : Operation → Option Config
  | reset => some current
  | reconfigure config => some config
  | _ => none

/-- No step starts over where this configuration holds. -/
def Step.Lasting {ε : Type} (current : Config) (steps : List (Step ε)) : Prop :=
  ∀ step ∈ steps, step.operation.restart? current = none

namespace Responder

variable {ε : Type} {responder : Responder} {step : Step ε}

/-- A restart is a start: no state and no part of the old configuration is read. -/
theorem perform_of_restart {config : Config}
    (restart : step.operation.restart? responder.config = some config) :
    responder.perform step = (start config).map fun _ => .done := by
  obtain ⟨operation, transport⟩ := step
  cases operation with
  | handlePacket packet => contradiction
  | handleRequest request => contradiction
  | sendAnswer answer => contradiction
  | reset =>
    cases restart
    simp only [perform, reset_eq_start]
  | reconfigure config =>
    cases restart
    simp only [perform, reconfigure_eq_start]

theorem config_perform_of_lasting
    (lasting : step.operation.restart? responder.config = none) :
    (responder.perform step).next.config = responder.config := by
  have unchanged : step.operation.config? = none := by
    cases operation : step.operation with
    | reconfigure config => simp [operation, Operation.restart?] at lasting
    | _ => rfl
  rw [config_perform, unchanged, Option.getD_none]

theorem config_afterSteps_of_lasting {steps : List (Step ε)}
    (lasting : Step.Lasting responder.config steps) :
    (responder.afterSteps steps).config = responder.config := by
  induction steps generalizing responder with
  | nil => rfl
  | cons step rest ih =>
    obtain ⟨first, others⟩ := List.forall_mem_cons.1 lasting
    have same := config_perform_of_lasting first
    rw [afterSteps, ih (same ▸ others), same]

theorem getLast?_configs (responder : Responder) (steps : List (Step ε)) :
    (responder.config :: steps.filterMap (·.operation.config?)).getLast? =
      some (responder.afterSteps steps).config := by
  induction steps generalizing responder with
  | nil => rfl
  | cons step rest ih =>
    rw [afterSteps, ← ih, config_perform, List.filterMap_cons]
    cases step.operation.config? <;> simp [List.getLast?_cons_cons]

end Responder

namespace Run

variable {ε : Type}

theorem getLast?_configs (run : Run ε) : run.configs.getLast? = some run.final.config :=
  Responder.getLast?_configs ⟨run.config, {}⟩ run.steps

theorem config_final_of_lasting {run : Run ε} (lasting : Step.Lasting run.config run.steps) :
    run.final.config = run.config :=
  Responder.config_afterSteps_of_lasting lasting

/-- From a restart on a run is a fresh run. -/
theorem trace_restart (run : Run ε) {step : Step ε} {config : Config}
    (restart : step.operation.restart? run.final.config = some config)
    (later : List (Step ε)) :
    (run.andThen (step :: later)).trace = run.trace ++ (Run.mk config later).trace := by
  rw [trace_andThen, Responder.trace, Responder.perform_of_restart restart]
  rfl

end Run

/-- Cuts steps before each restart. The first life has lasted for some steps already. -/
def Step.lives {ε : Type} (life : Run ε) : List (Step ε) → List (Run ε)
  | [] => [life]
  | step :: rest =>
    match step.operation.restart? life.config with
    | some config => life :: lives ⟨config, []⟩ rest
    | none => lives (life.andThen [step]) rest

namespace Step

variable {ε : Type} {life : Run ε} {steps : List (Step ε)}

theorem lasting_nil (current : Config) : Lasting current ([] : List (Step ε)) :=
  List.forall_mem_nil _

theorem Lasting.concat {current : Config} {step : Step ε} (lasting : Lasting current steps)
    (last : step.operation.restart? current = none) : Lasting current (steps ++ [step]) := by
  intro other member
  rcases List.mem_append.1 member with earlier | same
  · exact lasting other earlier
  · rw [List.mem_singleton.1 same]
    exact last

/-- The present life has kept its configuration; that carries the induction. -/
theorem flatMap_trace_lives (lasting : Lasting life.config life.steps) :
    (lives life steps).flatMap Run.trace = (life.andThen steps).trace := by
  induction steps generalizing life with
  | nil => simp [lives, Run.andThen]
  | cons step rest ih =>
    cases restart : step.operation.restart? life.config with
    | some config =>
      have again : step.operation.restart? life.final.config = some config := by
        rw [Run.config_final_of_lasting lasting, restart]
      calc (lives life (step :: rest)).flatMap Run.trace
          = life.trace ++ (lives ⟨config, []⟩ rest).flatMap Run.trace := by
            rw [lives, restart, List.flatMap_cons]
        _ = life.trace ++ (Run.mk config rest).trace := congrArg _ (ih (lasting_nil config))
        _ = (life.andThen (step :: rest)).trace := (life.trace_restart again rest).symm
    | none =>
      have longer : (life.andThen [step]).andThen rest = life.andThen (step :: rest) := by
        simp [Run.andThen]
      rw [lives, restart, ← longer]
      exact ih (lasting.concat restart)

theorem lasting_of_mem_lives (lasting : Lasting life.config life.steps) :
    ∀ other ∈ lives life steps, Lasting other.config other.steps := by
  induction steps generalizing life with
  | nil => simpa [lives] using lasting
  | cons step rest ih =>
    rw [lives]
    split
    next config _ => exact List.forall_mem_cons.2 ⟨lasting, ih (lasting_nil config)⟩
    next restart => exact ih (lasting.concat restart)

end Step

namespace Run

variable {ε : Type}

/-- The lives of a device in a run. Each but the first begins with a restart. -/
def lives (run : Run ε) : List (Run ε) :=
  Step.lives ⟨run.config, []⟩ run.steps

/-- A run is its lives, one after the other, and no life has a restart in it. -/
theorem trace_eq_flatMap_lives (run : Run ε) :
    run.trace = run.lives.flatMap Run.trace ∧
      ∀ life ∈ run.lives, Step.Lasting life.config life.steps := by
  have fresh : Step.Lasting run.config ([] : List (Step ε)) := Step.lasting_nil run.config
  have whole : (Run.mk run.config []).andThen run.steps = run := rfl
  constructor
  · rw [lives, Step.flatMap_trace_lives fresh, whole]
  · exact Step.lasting_of_mem_lives fresh

/-- After any run, whatever is done from a restart on gives the results, leaves the states
and drives, sends and logs what it does on a fresh device. With a new configuration that is a
device that never had another; without one it is a device with the configuration that was
given last, so that a reset is the same as giving this configuration anew. -/
theorem restart_forgets (run : Run ε) (transport : Transport ε) (later : List (Step ε)) :
    (∀ config, (run.andThen (⟨.reconfigure config, transport⟩ :: later)).trace =
      run.trace ++ (Run.mk config later).trace) ∧
    ∃ current, run.configs.getLast? = some current ∧
      (run.andThen (⟨.reset, transport⟩ :: later)).trace =
        run.trace ++ (Run.mk current later).trace ∧
      (run.andThen (⟨.reset, transport⟩ :: later)).trace =
        (run.andThen (⟨.reconfigure current, transport⟩ :: later)).trace := by
  have given (config : Config) :
      (run.andThen (⟨.reconfigure config, transport⟩ :: later)).trace =
        run.trace ++ (Run.mk config later).trace :=
    run.trace_restart rfl later
  have kept : (run.andThen (⟨.reset, transport⟩ :: later)).trace =
      run.trace ++ (Run.mk run.final.config later).trace :=
    run.trace_restart rfl later
  exact ⟨given, run.final.config, run.getLast?_configs, kept, kept.trans (given _).symm⟩

end Run

end Rdm
