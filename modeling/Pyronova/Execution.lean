import Mathlib.Data.List.Infix
import Mathlib.Tactic

/-!
# Machines and their executions

A concurrent program is presented as a deterministic machine whose events carry every choice of
the scheduler and the environment.  A schedule is a list of events; a schedule that fires a
disabled event has no run.  Safety is then one statement about a single event, lifted here to
every state a schedule passes through.
-/

/-- An initial state, and what each event does where it is enabled. -/
structure Machine (State Event : Type*) where
  /-- State before any event. -/
  init : State
  /-- Effect of one event, `none` where the event is disabled. -/
  step : State → Event → Option State

namespace Machine

variable {State Event : Type*}

/-- Fire the events of a schedule in order from `state`. -/
def runFrom (machine : Machine State Event) : State → List Event → Option State
  | state, [] => some state
  | state, event :: schedule =>
      machine.step state event >>= fun next => machine.runFrom next schedule

/-- Fire the events of a schedule in order from the initial state. -/
def run (machine : Machine State Event) (schedule : List Event) : Option State :=
  machine.runFrom machine.init schedule

/-- Some schedule ends in `state`. -/
def Reachable (machine : Machine State Event) (state : State) : Prop :=
  ∃ schedule, machine.run schedule = some state

/-- Every state the schedule passes through has the property. -/
def AllStates (machine : Machine State Event) (property : State → Prop)
    (schedule : List Event) : Prop :=
  ∀ front, front <+: schedule → ∀ state, machine.run front = some state → property state

/-- Every event of the schedule meets the condition in the state it fires in. -/
def AllSteps (machine : Machine State Event) (condition : State → Event → Prop)
    (schedule : List Event) : Prop :=
  ∀ front event, front ++ [event] <+: schedule →
    ∀ state, machine.run front = some state → condition state event

variable {machine : Machine State Event}

theorem runFrom_append (state : State) (front back : List Event) :
    machine.runFrom state (front ++ back) =
      machine.runFrom state front >>= fun next => machine.runFrom next back := by
  induction front generalizing state with
  | nil => simp [runFrom]
  | cons event front induction =>
      simp only [List.cons_append, runFrom]
      cases machine.step state event with
      | none => rfl
      | some next => exact induction next

theorem runFrom_singleton (state : State) (event : Event) :
    machine.runFrom state [event] = machine.step state event :=
  Option.bind_fun_some _

@[simp] theorem run_nil : machine.run [] = some machine.init := rfl

theorem run_concat (schedule : List Event) (event : Event) :
    machine.run (schedule ++ [event]) =
      machine.run schedule >>= fun state => machine.step state event := by
  simp [run, runFrom_append, runFrom]

theorem run_concat_eq_some {schedule : List Event} {event : Event} {after : State} :
    machine.run (schedule ++ [event]) = some after ↔
      ∃ before, machine.run schedule = some before ∧ machine.step before event = some after := by
  rw [run_concat]
  exact Option.bind_eq_some_iff

theorem Reachable.runFrom {before after : State} {schedule : List Event}
    (reachable : machine.Reachable before)
    (execution : machine.runFrom before schedule = some after) : machine.Reachable after := by
  obtain ⟨earlier, reached⟩ := reachable
  refine ⟨earlier ++ schedule, ?_⟩
  rw [run, runFrom_append]
  exact Option.bind_eq_some_iff.mpr ⟨before, reached, execution⟩

theorem allSteps_concat {condition : State → Event → Prop} {schedule : List Event}
    {event : Event} :
    machine.AllSteps condition (schedule ++ [event]) ↔
      machine.AllSteps condition schedule ∧
        ∀ state, machine.run schedule = some state → condition state event := by
  constructor
  · intro every
    constructor
    · intro front last initial
      exact every front last (initial.trans (List.prefix_append _ _))
    · intro state execution
      exact every schedule event (List.prefix_refl _) state execution
  · rintro ⟨earlier, final⟩ front last initial state execution
    rcases List.prefix_concat_iff.mp initial with whole | shorter
    · obtain ⟨rfl, rfl⟩ := List.append_singleton_inj.mp whole
      exact final state execution
    · exact earlier front last shorter state execution

/-- The events fired from `state` on meet the condition, checked one after the other. -/
def MeetsFrom (machine : Machine State Event) (condition : State → Event → Prop) :
    State → List Event → Prop
  | _, [] => True
  | state, event :: schedule =>
      condition state event ∧
        match machine.step state event with
        | none => True
        | some next => machine.MeetsFrom condition next schedule

instance MeetsFrom.decidable {condition : State → Event → Prop}
    [∀ state event, Decidable (condition state event)] :
    ∀ (schedule : List Event) (state : State),
      Decidable (machine.MeetsFrom condition state schedule)
  | [], _ => inferInstanceAs (Decidable True)
  | event :: schedule, state =>
      have : Decidable (match machine.step state event with
          | none => True
          | some next => machine.MeetsFrom condition next schedule) :=
        match machine.step state event with
        | none => inferInstanceAs (Decidable True)
        | some next => MeetsFrom.decidable schedule next
      inferInstanceAs (Decidable (_ ∧ _))

theorem MeetsFrom.condition_of_prefix {condition : State → Event → Prop} {schedule : List Event}
    {state : State} (meets : machine.MeetsFrom condition state schedule) {front : List Event}
    {event : Event} (initial : front ++ [event] <+: schedule) {before : State}
    (execution : machine.runFrom state front = some before) : condition before event := by
  induction schedule generalizing state front with
  | nil => simp at initial
  | cons first schedule induction =>
      obtain ⟨holds, later⟩ := meets
      cases front with
      | nil =>
          obtain rfl := Option.some.inj execution
          rw [List.nil_append, List.cons_prefix_cons] at initial
          rw [initial.1]
          exact holds
      | cons fired front =>
          rw [List.cons_append, List.cons_prefix_cons] at initial
          obtain ⟨rfl, initial⟩ := initial
          obtain ⟨next, stepped, execution⟩ := Option.bind_eq_some_iff.mp execution
          rw [stepped] at later
          exact induction later initial execution

/-- Checking a schedule event by event is enough. -/
theorem MeetsFrom.allSteps {condition : State → Event → Prop} {schedule : List Event}
    (meets : machine.MeetsFrom condition machine.init schedule) :
    machine.AllSteps condition schedule := by
  intro front event initial state execution
  exact meets.condition_of_prefix initial execution

theorem allStates_nil {property : State → Prop} :
    machine.AllStates property [] ↔ property machine.init := by
  constructor
  · intro every
    exact every [] (List.prefix_refl _) machine.init rfl
  · intro holds front initial state execution
    obtain rfl := List.prefix_nil.mp initial
    obtain rfl := Option.some.inj execution
    exact holds

theorem allStates_concat {property : State → Prop} {schedule : List Event} {event : Event} :
    machine.AllStates property (schedule ++ [event]) ↔
      machine.AllStates property schedule ∧
        ∀ state, machine.run (schedule ++ [event]) = some state → property state := by
  constructor
  · intro every
    exact ⟨fun front initial => every front (initial.trans (List.prefix_append _ _)),
      every _ (List.prefix_refl _)⟩
  · rintro ⟨earlier, final⟩ front initial state execution
    rcases List.prefix_concat_iff.mp initial with rfl | shorter
    · exact final state execution
    · exact earlier front shorter state execution

/-- A schedule passes only through states with a property exactly when its final state has it
and so has every state before. -/
theorem AllStates.final {property : State → Prop} {schedule : List Event}
    (every : machine.AllStates property schedule) {final : State}
    (execution : machine.run schedule = some final) : property final :=
  every schedule (List.prefix_refl _) final execution

/-- A property that a conditioned step preserves holds throughout every conditioned schedule. -/
theorem allStates_of_allSteps {condition : State → Event → Prop} {property : State → Prop}
    (initial : property machine.init)
    (preserved : ∀ {before after : State} {event : Event}, property before →
      condition before event → machine.step before event = some after → property after)
    {schedule : List Event} (conditioned : machine.AllSteps condition schedule) :
    machine.AllStates property schedule := by
  induction schedule using List.reverseRecOn with
  | nil => exact allStates_nil.mpr initial
  | append_singleton schedule event induction =>
      obtain ⟨earlier, last⟩ := allSteps_concat.mp conditioned
      have throughout := induction earlier
      refine allStates_concat.mpr ⟨throughout, ?_⟩
      intro after execution
      obtain ⟨before, reached, fired⟩ := run_concat_eq_some.mp execution
      exact preserved (throughout.final reached) (last before reached) fired

/-- A property that every step preserves holds throughout every schedule. -/
theorem allStates_of_invariant {property : State → Prop} (initial : property machine.init)
    (preserved : ∀ {before after : State} {event : Event}, property before →
      machine.step before event = some after → property after)
    (schedule : List Event) : machine.AllStates property schedule := by
  have unconditioned : machine.AllSteps (fun _ _ => True) schedule :=
    fun _ _ _ _ _ => trivial
  exact allStates_of_allSteps initial (fun holds _ fired => preserved holds fired) unconditioned

/-- A property that every step preserves holds in every reachable state. -/
theorem Reachable.invariant {property : State → Prop} (initial : property machine.init)
    (preserved : ∀ {before after : State} {event : Event}, property before →
      machine.step before event = some after → property after)
    {state : State} (reachable : machine.Reachable state) : property state := by
  obtain ⟨schedule, execution⟩ := reachable
  exact (allStates_of_invariant initial preserved schedule).final execution

end Machine
