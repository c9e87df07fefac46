import Rdm.Proofs.History

/-! A responder wants a level on each of its two pins. `Run.lastLevel?_events` says what
the calls of a run come to: a pin has the level that the last responder of the run with
this pin wanted there. So the pins of the present configuration mirror the state, and a
pin that a new configuration leaves out stays as it was. -/
namespace Rdm

def lastLevel? (calls : List PinCall) (pin : Pin) : Option Level :=
  (calls.reverse.find? fun call => call.pin == pin).map PinCall.level

theorem pinLevel_eq_getD (calls : List PinCall) (pin : Pin) :
    pinLevel calls pin = (lastLevel? calls pin).getD .low := by
  rw [pinLevel, lastLevel?]
  split
  next found => simp [found]
  next missing => simp [missing]

theorem pinLevel_eq_high_iff {calls : List PinCall} {pin : Pin} :
    pinLevel calls pin = .high ↔ lastLevel? calls pin = some .high := by
  rw [pinLevel_eq_getD]
  cases lastLevel? calls pin <;> simp

theorem lastLevel?_append (front back : List PinCall) (pin : Pin) :
    lastLevel? (front ++ back) pin = (lastLevel? back pin).or (lastLevel? front pin) := by
  simp [lastLevel?, Option.map_or]

theorem lastLevel?_singleton (call : PinCall) (pin : Pin) :
    lastLevel? [call] pin = if pin = call.pin then some call.level else none := by
  by_cases h : call.pin = pin
  · simp [lastLevel?, h]
  · simp [lastLevel?, h, Ne.symm h]

def Config.Assigns (config : Config) (pin : Pin) : Prop :=
  pin = config.mutePin ∨ pin = config.identifyPin

namespace Responder

/-- The level that the responder wants on a pin. It has no say in the pins of others. -/
def level? (responder : Responder) (pin : Pin) : Option Level :=
  if pin = responder.config.mutePin then some (Level.ofBool !responder.state.muted)
  else if pin = responder.config.identifyPin then
    some (Level.ofBool responder.state.identifying)
  else none

/-- The pin is the mute pin of an unmuted responder or the identify pin of an identifying
one. -/
def Lights (responder : Responder) (pin : Pin) : Prop :=
  (pin = responder.config.mutePin ∧ responder.state.muted = false) ∨
    (pin = responder.config.identifyPin ∧ responder.state.identifying = true)

variable {responder : Responder} {calls : List PinCall} {pin : Pin}

theorem level?_mutePin (responder : Responder) :
    responder.level? responder.config.mutePin =
      some (Level.ofBool !responder.state.muted) :=
  if_pos rfl

theorem level?_identifyPin
    (distinct : responder.config.mutePin ≠ responder.config.identifyPin) :
    responder.level? responder.config.identifyPin =
      some (Level.ofBool responder.state.identifying) := by
  rw [level?, if_neg distinct.symm, if_pos rfl]

theorem level?_eq_none_iff : responder.level? pin = none ↔ ¬ responder.config.Assigns pin := by
  rw [level?, Config.Assigns]
  split
  next mute => simp [mute]
  next mute =>
    split
    next identify => simp [identify]
    next identify => simp [mute, identify]

theorem level?_eq_high_iff
    (distinct : responder.config.mutePin ≠ responder.config.identifyPin) :
    responder.level? pin = some .high ↔ responder.Lights pin := by
  rw [level?, Lights]
  split
  next mute =>
    subst mute
    cases responder.state.muted <;> simp [Level.ofBool, distinct]
  next mute =>
    split
    next identify =>
      subst identify
      cases responder.state.identifying <;> simp [Level.ofBool, mute]
    next identify => simp [mute, identify]

theorem assigns_of_lights (lit : responder.Lights pin) : responder.config.Assigns pin :=
  lit.imp And.left And.left

/-- A command drives its pin to the level that is wanted there afterwards. -/
theorem level?_command (config : Config) (state : State) (given : Command)
    (distinct : config.mutePin ≠ config.identifyPin) :
    level? ⟨config, given.apply state⟩ (given.pinCall config).pin =
      some (given.pinCall config).level := by
  cases given with
  | mute muted => exact level?_mutePin _
  | identify identifying => exact level?_identifyPin distinct

theorem level?_command_of_ne (config : Config) (state : State) {given : Command}
    (other : pin ≠ (given.pinCall config).pin) :
    level? ⟨config, given.apply state⟩ pin = level? ⟨config, state⟩ pin := by
  cases given with
  | mute muted =>
    have apart : pin ≠ config.mutePin := other
    simp only [level?, Command.apply, if_neg apart]
  | identify identifying =>
    have apart : pin ≠ config.identifyPin := other
    simp only [level?, Command.apply, if_neg apart]

/-- After some calls every pin of the responder has the level wanted there. -/
def ShownBy (responder : Responder) (calls : List PinCall) : Prop :=
  ∀ pin level, responder.level? pin = some level → lastLevel? calls pin = some level

theorem ShownBy.or_eq (shown : responder.ShownBy calls) (pin : Pin) :
    (responder.level? pin).or (lastLevel? calls pin) = lastLevel? calls pin := by
  cases wanted : responder.level? pin with
  | none => rfl
  | some level => exact (shown pin level wanted).symm

theorem shownBy_of_eq_or {earlier : List PinCall}
    (h : ∀ pin, lastLevel? calls pin = (responder.level? pin).or (lastLevel? earlier pin)) :
    responder.ShownBy calls := by
  intro pin level wanted
  rw [h, wanted, Option.some_or]

/-- A start shows the fresh responder and leaves the pins of others alone. -/
theorem lastLevel?_restart (calls : List PinCall) {config : Config}
    (distinct : config.mutePin ≠ config.identifyPin) (pin : Pin) :
    lastLevel? (calls ++ (Change.restart config).pinCalls) pin =
      (level? ⟨config, {}⟩ pin).or (lastLevel? calls pin) := by
  have both : (Change.restart config).pinCalls =
      [⟨config.mutePin, .high⟩] ++ [⟨config.identifyPin, .low⟩] := rfl
  rw [both, lastLevel?_append, lastLevel?_append, lastLevel?_singleton, lastLevel?_singleton]
  by_cases mute : pin = config.mutePin
  · have wanted : level? ⟨config, {}⟩ pin = some .high := mute ▸ level?_mutePin ⟨config, {}⟩
    have other : pin ≠ config.identifyPin := mute ▸ distinct
    rw [wanted, if_neg other, if_pos mute]
    rfl
  by_cases identify : pin = config.identifyPin
  · have fresh : (⟨config, {}⟩ : Responder).config.mutePin ≠ config.identifyPin := distinct
    have wanted : level? ⟨config, {}⟩ pin = some .low := identify ▸ level?_identifyPin fresh
    rw [wanted, if_pos identify]
    rfl
  · have wanted : level? ⟨config, {}⟩ pin = none :=
      level?_eq_none_iff.2 (not_or.2 ⟨mute, identify⟩)
    rw [wanted, if_neg identify, if_neg mute]
    rfl

theorem lastLevel?_command {config : Config} {state : State}
    (distinct : config.mutePin ≠ config.identifyPin)
    (shown : ShownBy ⟨config, state⟩ calls) (given : Command) (pin : Pin) :
    lastLevel? (calls ++ [given.pinCall config]) pin =
      (level? ⟨config, given.apply state⟩ pin).or (lastLevel? calls pin) := by
  rw [lastLevel?_append, lastLevel?_singleton]
  by_cases driven : pin = (given.pinCall config).pin
  · rw [if_pos driven, driven, level?_command config state given distinct]
  · rw [if_neg driven, level?_command_of_ne config state driven, shown.or_eq]
    rfl

variable {ε : Type}

/-- One step drives the pins of the responder to the levels wanted after it, and no others. -/
theorem lastLevel?_perform (step : Step ε) (shown : responder.ShownBy calls)
    (distinct : (responder.perform step).next.config.mutePin ≠
      (responder.perform step).next.config.identifyPin) (pin : Pin) :
    lastLevel? (calls ++ pinCalls (responder.perform step).events) pin =
      ((responder.perform step).next.level? pin).or (lastLevel? calls pin) := by
  have next := responder.next_perform step
  rw [pinCalls_perform]
  cases h : step.operation.change? responder.config with
  | none =>
    rw [h] at next
    rw [next, Option.elim_none, Option.elim_none, List.append_nil, shown.or_eq]
  | some change =>
    rw [h] at next
    have config := Operation.config_apply h
    rw [next, Option.elim_some] at distinct ⊢
    rw [config] at distinct
    cases change with
    | restart config => exact lastLevel?_restart calls distinct pin
    | command met given =>
      cases config
      exact lastLevel?_command distinct shown given pin

def visited (responder : Responder) (steps : List (Step ε)) : List Responder :=
  (responder.trace steps).map Reaction.next

theorem visited_cons (responder : Responder) (step : Step ε) (rest : List (Step ε)) :
    responder.visited (step :: rest) =
      (responder.perform step).next :: (responder.perform step).next.visited rest :=
  rfl

/-- The step is `lastLevel?_perform`. What is shown after each step carries the induction. -/
theorem lastLevel?_eventsOf (steps : List (Step ε)) (shown : responder.ShownBy calls)
    (distinct : ∀ later ∈ responder.visited steps,
      later.config.mutePin ≠ later.config.identifyPin) (pin : Pin) :
    lastLevel? (calls ++ pinCalls (responder.eventsOf steps)) pin =
      ((responder.visited steps).reverse.findSome? fun later => later.level? pin).or
        (lastLevel? calls pin) := by
  induction steps generalizing responder calls with
  | nil => simp [eventsOf, trace, visited, pinCalls]
  | cons step rest ih =>
    rw [visited_cons] at distinct
    obtain ⟨first, others⟩ := List.forall_mem_cons.1 distinct
    have driven := lastLevel?_perform step shown first
    have run := ih (shownBy_of_eq_or driven) others
    rw [eventsOf_cons, pinCalls_append, ← List.append_assoc, run, driven, visited_cons,
      List.reverse_cons, List.findSome?_append, Option.or_assoc]
    simp

theorem getLast?_visited (responder : Responder) (steps : List (Step ε)) :
    (responder :: responder.visited steps).getLast? = some (responder.afterSteps steps) := by
  induction steps generalizing responder with
  | nil => rfl
  | cons step rest ih =>
    rw [visited_cons, List.getLast?_cons_cons]
    exact ih _

end Responder

def Operation.config? : Operation → Option Config
  | reconfigure config => some config
  | _ => none

namespace Responder

variable {ε : Type}

theorem config_perform (responder : Responder) (step : Step ε) :
    (responder.perform step).next.config =
      step.operation.config?.getD responder.config := by
  obtain ⟨operation, transport⟩ := step
  cases operation with
  | handlePacket packet =>
    have same := congrArg Responder.config (next_handlePacket transport responder packet)
    exact same
  | handleRequest request =>
    have same := congrArg Responder.config (next_handleRequest responder request)
    exact same
  | sendAnswer answer =>
    exact congrArg Responder.config (responder.next_sendAnswer transport answer)
  | reset => rfl
  | reconfigure config => rfl

theorem config_of_mem_visited {responder later : Responder} {steps : List (Step ε)}
    (member : later ∈ responder.visited steps) :
    later.config ∈ responder.config :: steps.filterMap (·.operation.config?) := by
  induction steps generalizing responder with
  | nil => contradiction
  | cons step rest ih =>
    have next := responder.config_perform step
    rw [visited_cons] at member
    have reached : later.config ∈
        (responder.perform step).next.config :: rest.filterMap (·.operation.config?) := by
      rcases List.mem_cons.1 member with rfl | member
      · exact List.mem_cons_self
      · exact ih member
    rw [List.filterMap_cons]
    cases h : step.operation.config? with
    | none =>
      rw [next, h] at reached
      exact reached
    | some config =>
      rw [next, h] at reached
      exact List.mem_cons_of_mem _ reached

end Responder

namespace Run

variable {ε : Type}

def configs (run : Run ε) : List Config :=
  run.config :: run.steps.filterMap (·.operation.config?)

/-- The responder at the start of the run and after each step. -/
def responders (run : Run ε) : List Responder :=
  ⟨run.config, {}⟩ :: Responder.visited ⟨run.config, {}⟩ run.steps

theorem config_of_mem_responders {run : Run ε} {responder : Responder}
    (member : responder ∈ run.responders) : responder.config ∈ run.configs := by
  rcases List.mem_cons.1 member with rfl | member
  · exact List.mem_cons_self
  · exact Responder.config_of_mem_visited member

theorem getLast?_responders (run : Run ε) : run.responders.getLast? = some run.final :=
  Responder.getLast?_visited _ _

/-- A pin was last driven to what the last responder with that pin wanted there. -/
theorem lastLevel?_events (run : Run ε)
    (distinct : ∀ config ∈ run.configs, config.mutePin ≠ config.identifyPin) (pin : Pin) :
    lastLevel? (pinCalls run.events) pin =
      run.responders.reverse.findSome? fun responder => responder.level? pin := by
  have start : ∀ pin, lastLevel? (Change.restart run.config).pinCalls pin =
      (Responder.level? ⟨run.config, {}⟩ pin).or (lastLevel? [] pin) :=
    Responder.lastLevel?_restart [] (distinct _ List.mem_cons_self)
  have visited : ∀ later ∈ Responder.visited ⟨run.config, {}⟩ run.steps,
      later.config.mutePin ≠ later.config.identifyPin := fun later member =>
    distinct _ (Responder.config_of_mem_visited member)
  have steps := Responder.lastLevel?_eventsOf run.steps (Responder.shownBy_of_eq_or start)
    visited pin
  rw [events, pinCalls_append, responders, List.reverse_cons, List.findSome?_append]
  refine steps.trans ?_
  rw [start]
  simp [lastLevel?]

/-- In every state that a run leads to the pins of the configuration mirror the state: each
was driven, and last to the level that stands for its flag. -/
theorem pins_mirror_state (run : Run ε)
    (distinct : ∀ config ∈ run.configs, config.mutePin ≠ config.identifyPin) :
    lastLevel? (pinCalls run.events) run.final.config.mutePin =
        some (Level.ofBool !run.final.state.muted) ∧
      lastLevel? (pinCalls run.events) run.final.config.identifyPin =
        some (Level.ofBool run.final.state.identifying) := by
  obtain ⟨earlier, split⟩ := List.getLast?_eq_some_iff.1 run.getLast?_responders
  have final : run.final.config ∈ run.configs := config_of_mem_responders (by simp [split])
  have last (pin : Pin) (level : Level) (wanted : run.final.level? pin = some level) :
      lastLevel? (pinCalls run.events) pin = some level := by
    simp [run.lastLevel?_events distinct, split, wanted]
  exact ⟨last _ _ run.final.level?_mutePin,
    last _ _ (Responder.level?_identifyPin (distinct _ final))⟩

/-- Muted over a failing line, given the pins the other way round, and muted again while it
identifies, the responder has its first pin low and its second one high. -/
theorem pins_mirror_state_exchanged :
    let config : Config := ⟨⟨0x7A70, 1, by decide⟩, ⟨0, 0⟩, ⟨0, 1⟩, {}⟩
    let exchanged : Config := ⟨⟨0x7A70, 1, by decide⟩, ⟨0, 1⟩, ⟨0, 0⟩, {}⟩
    let broken : Transport Unit := fun _ => .error ()
    let mute : Operation := .handlePacket [0xCC, 0x01, 0x18, 0x7A, 0x70, 0, 0, 0, 1,
      0x7A, 0x70, 0, 0, 0, 2, 0, 1, 0, 0, 0, 0x10, 0, 0x02, 0, 0x02, 0xCF]
    let identify : Operation := .handleRequest ⟨.broadcast, ⟨0x7A70, 2, by decide⟩, 0, 1, 0, 0,
      .set, .identifyDevice, [1]⟩
    let run : Run Unit := ⟨config, [⟨mute, broken⟩, ⟨.reconfigure exchanged, broken⟩,
      ⟨identify, broken⟩, ⟨mute, broken⟩]⟩
    (∀ config ∈ run.configs, config.mutePin ≠ config.identifyPin) ∧
      lastLevel? (pinCalls run.events) ⟨0, 0⟩ = some .low ∧
        lastLevel? (pinCalls run.events) ⟨0, 1⟩ = some .high := by
  intro config exchanged broken mute identify run
  have distinct : ∀ config ∈ run.configs, config.mutePin ≠ config.identifyPin := by decide
  have final : run.final = ⟨exchanged, ⟨true, true⟩⟩ := rfl
  have mirrored := run.pins_mirror_state distinct
  rw [final] at mirrored
  exact ⟨distinct, mirrored⟩

/-- A pin is high where the last responder that has it lights it. -/
theorem high_iff_exists_lit (run : Run ε)
    (distinct : ∀ config ∈ run.configs, config.mutePin ≠ config.identifyPin) (pin : Pin) :
    pinLevel (pinCalls run.events) pin = .high ↔
      ∃ earlier lit later, run.responders = earlier ++ lit :: later ∧ lit.Lights pin ∧
        ∀ responder ∈ later, ¬ responder.config.Assigns pin := by
  have lights {responder : Responder} (member : responder ∈ run.responders) :
      responder.level? pin = some .high ↔ responder.Lights pin :=
    Responder.level?_eq_high_iff (distinct _ (config_of_mem_responders member))
  rw [pinLevel_eq_high_iff, run.lastLevel?_events distinct, List.findSome?_eq_some_iff]
  constructor
  · rintro ⟨later, lit, earlier, split, high, unassigned⟩
    have split : run.responders = earlier.reverse ++ lit :: later.reverse := by
      simpa using congrArg List.reverse split
    refine ⟨earlier.reverse, lit, later.reverse, split, (lights (by simp [split])).1 high, ?_⟩
    intro responder member
    exact Responder.level?_eq_none_iff.1 (unassigned responder (List.mem_reverse.1 member))
  · rintro ⟨earlier, lit, later, split, lit_pin, unassigned⟩
    refine ⟨later.reverse, lit, earlier.reverse, by simp [split],
      (lights (by simp [split])).2 lit_pin, ?_⟩
    intro responder member
    exact Responder.level?_eq_none_iff.2 (unassigned responder (List.mem_reverse.1 member))

/-- A responder lit the pin, and no configuration after that has it. -/
def LeftOn (run : Run ε) (pin : Pin) : Prop :=
  ∃ earlier lit later, run.responders = earlier ++ lit :: later ∧ lit.Lights pin ∧
    later ≠ [] ∧ ∀ responder ∈ later, ¬ responder.config.Assigns pin

theorem LeftOn.not_assigns {run : Run ε} {pin : Pin} (leftOn : run.LeftOn pin) :
    ¬ run.final.config.Assigns pin := by
  obtain ⟨earlier, lit, later, split, _, after, unassigned⟩ := leftOn
  obtain ⟨between, last, rfl⟩ := (List.eq_nil_or_concat later).resolve_left after
  have final : last = run.final := by
    have last_eq := run.getLast?_responders
    rw [split, List.concat_eq_append, ← List.cons_append, ← List.append_assoc,
      List.getLast?_concat] at last_eq
    exact Option.some.inj last_eq
  exact final ▸ unassigned last (by simp)

/-- The pins that are high after a run are those that the responder lights, and those that
were lit when a new configuration left them out. The latter are pins of an earlier
configuration only, and stay high until one has them again. -/
theorem high_iff_lit_or_left_on (run : Run ε)
    (distinct : ∀ config ∈ run.configs, config.mutePin ≠ config.identifyPin) (pin : Pin) :
    (pinLevel (pinCalls run.events) pin = .high ↔ run.final.Lights pin ∨ run.LeftOn pin) ∧
      (run.LeftOn pin →
        ¬ run.final.config.Assigns pin ∧ ∃ config ∈ run.configs, config.Assigns pin) := by
  constructor
  · rw [run.high_iff_exists_lit distinct]
    constructor
    · rintro ⟨earlier, lit, later, split, lit_pin, unassigned⟩
      cases later with
      | nil =>
        have last := run.getLast?_responders
        rw [split, List.getLast?_concat] at last
        cases last
        exact .inl lit_pin
      | cons next rest =>
        exact .inr ⟨earlier, lit, next :: rest, split, lit_pin, List.cons_ne_nil _ _, unassigned⟩
    · rintro (lit_pin | ⟨earlier, lit, later, split, lit_pin, _, unassigned⟩)
      · obtain ⟨earlier, split⟩ := List.getLast?_eq_some_iff.1 run.getLast?_responders
        exact ⟨earlier, run.final, [], split, lit_pin, by simp⟩
      · exact ⟨earlier, lit, later, split, lit_pin, unassigned⟩
  · intro leftOn
    refine ⟨leftOn.not_assigns, ?_⟩
    obtain ⟨earlier, lit, later, split, lit_pin, _⟩ := leftOn
    exact ⟨lit.config, config_of_mem_responders (by simp [split]),
      Responder.assigns_of_lights lit_pin⟩

/-- A device that identifies itself is given other pins. It does not identify any more, and
both old pins stay high. -/
theorem left_on_by_reconfigure :
    let config : Config := ⟨⟨0x7A70, 1, by decide⟩, ⟨0, 0⟩, ⟨0, 1⟩, {}⟩
    let moved : Config := ⟨⟨0x7A70, 1, by decide⟩, ⟨0, 2⟩, ⟨0, 3⟩, {}⟩
    let line : Transport Unit := fun _ => .ok ()
    let identify : Operation := .handleRequest ⟨.device ⟨0x7A70, 1, by decide⟩,
      ⟨0x7A70, 2, by decide⟩, 0, 0, 0, 0, .set, .identifyDevice, [1]⟩
    let run : Run Unit := ⟨config, [⟨identify, line⟩, ⟨.reconfigure moved, line⟩]⟩
    (∀ config ∈ run.configs, config.mutePin ≠ config.identifyPin) ∧
      run.final.state.identifying = false ∧
      ∀ pin, config.Assigns pin →
        pinLevel (pinCalls run.events) pin = .high ∧ ¬ run.final.Lights pin := by
  intro config moved line identify run
  have distinct : ∀ config ∈ run.configs, config.mutePin ≠ config.identifyPin := by decide
  refine ⟨distinct, rfl, ?_⟩
  intro pin assigned
  have lit : Responder.Lights ⟨config, ⟨false, true⟩⟩ pin :=
    assigned.imp (fun mute => ⟨mute, rfl⟩) fun identify => ⟨identify, rfl⟩
  have unassigned : ¬ moved.Assigns pin := by
    rcases assigned with rfl | rfl <;> simp [Config.Assigns, moved, config]
  have leftOn : run.LeftOn pin :=
    ⟨[⟨config, {}⟩], ⟨config, ⟨false, true⟩⟩, [⟨moved, {}⟩], rfl, lit, by simp, by simpa⟩
  obtain ⟨high, left⟩ := run.high_iff_lit_or_left_on distinct pin
  exact ⟨high.2 (.inr leftOn), fun lights => (left leftOn).1 (Responder.assigns_of_lights lights)⟩

end Run

end Rdm
