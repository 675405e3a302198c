import Pyronova.Execution

/-!
# A producer and a consumer joined by a bounded channel

The producer waits while the channel is full, the consumer while it is empty and the sender lives.
Their interleavings differ in what is in flight at any moment and in nothing else: a consumer that
keeps receiving ends in the state it reaches by reading the producer's output in order, it always
gets there, and no schedule runs forever.
-/

/-- What a producer does next. -/
inductive Emission (Producer Message : Type*)
  | silent (next : Producer)
  /-- Send a message, once there is room for it. -/
  | emit (message : Message) (next : Producer)
  /-- Drop the sender. -/
  | stop

/-- A producer and a consumer over a channel that holds at most `capacity` messages. -/
structure Pipe (Producer Message Consumer : Type*) where
  capacity : Nat
  produce : Producer → Emission Producer Message
  /-- How the consumer takes a received message, or the end of a channel whose sender is gone. -/
  receive : Consumer → Option Message → Consumer
  /-- The consumer receives no more. -/
  done : Consumer → Bool

namespace Pipe

variable {Producer Message Consumer : Type*}

/-- `none` for the producer once it has dropped its sender. -/
structure State (Producer Message Consumer : Type*) where
  producer : Option Producer
  queue : List Message
  consumer : Consumer

inductive Event
  | produce
  | receive
  deriving DecidableEq, Repr

/-- One step of the producer. -/
def produceStep (pipe : Pipe Producer Message Consumer)
    (state : State Producer Message Consumer) : Option (State Producer Message Consumer) :=
  match state.producer with
  | none => none
  | some producer =>
      match pipe.produce producer with
      | .silent next => some { state with producer := some next }
      | .emit message next =>
          if state.queue.length < pipe.capacity then
            some { state with producer := some next, queue := state.queue ++ [message] }
          else
            none
      | .stop => some { state with producer := none }

/-- One receive of the consumer. -/
def receiveStep (pipe : Pipe Producer Message Consumer)
    (state : State Producer Message Consumer) : Option (State Producer Message Consumer) :=
  if pipe.done state.consumer then none
  else
    match state.queue, state.producer with
    | message :: queue, _ =>
        some { state with queue, consumer := pipe.receive state.consumer (some message) }
    | [], none => some { state with consumer := pipe.receive state.consumer none }
    | [], some _ => none

/-- The producer and the consumer, interleaved. -/
def machine (pipe : Pipe Producer Message Consumer) (producer : Producer) (consumer : Consumer) :
    Machine (State Producer Message Consumer) Event where
  init := { producer := some producer, queue := [], consumer }
  step state
    | .produce => pipe.produceStep state
    | .receive => pipe.receiveStep state

/-! ## Reading the whole output in order -/

/-- The producer stops after `steps` steps, having sent the messages listed. -/
inductive Yields (pipe : Pipe Producer Message Consumer) : Producer → Nat → List Message → Prop
  | stop {producer} (emission : pipe.produce producer = .stop) : Yields pipe producer 1 []
  | silent {producer next steps output} (emission : pipe.produce producer = .silent next)
      (later : Yields pipe next steps output) : Yields pipe producer (steps + 1) output
  | emit {producer message next steps output}
      (emission : pipe.produce producer = .emit message next)
      (later : Yields pipe next steps output) :
      Yields pipe producer (steps + 1) (message :: output)

/-- What is still to come from a producer that may have dropped its sender. -/
inductive Remaining (pipe : Pipe Producer Message Consumer) :
    Option Producer → Nat → List Message → Prop
  | gone : Remaining pipe none 0 []
  | running {producer steps output} (yields : pipe.Yields producer steps output) :
      Remaining pipe (some producer) steps output

/-- The consumer after reading the messages in order, and then the end of the channel, for as long
as it receives. -/
def drain (pipe : Pipe Producer Message Consumer) : List Message → Consumer → Consumer
  | [], consumer => if pipe.done consumer then consumer else pipe.receive consumer none
  | message :: rest, consumer =>
      if pipe.done consumer then consumer
      else pipe.drain rest (pipe.receive consumer (some message))

variable {pipe : Pipe Producer Message Consumer}

theorem drain_of_done {consumer : Consumer} (done : pipe.done consumer) (messages : List Message) :
    pipe.drain messages consumer = consumer := by
  cases messages <;> simp [drain, done]

/-! ## Every interleaving -/

/-- Receives and steps of the producer a state still has in it. -/
def weight (pipe : Pipe Producer Message Consumer) (state : State Producer Message Consumer)
    (steps : Nat) : Nat :=
  2 * steps + state.queue.length + if pipe.done state.consumer then 0 else 1

/-- The consumer is on its way to `final`, with at most `budget` steps to go. -/
def OnWay (pipe : Pipe Producer Message Consumer) (final : Consumer) (budget : Nat)
    (state : State Producer Message Consumer) : Prop :=
  ∃ steps output, pipe.Remaining state.producer steps output ∧
    pipe.drain (state.queue ++ output) state.consumer = final ∧
    pipe.weight state steps ≤ budget

section Runs

variable (closes : ∀ consumer, pipe.done (pipe.receive consumer none))
include closes

theorem onWay_step {final : Consumer} {budget : Nat}
    {before after : State Producer Message Consumer} {event : Event} {producer : Producer}
    {consumer : Consumer} (onWay : pipe.OnWay final budget before)
    (fired : (pipe.machine producer consumer).step before event = some after) :
    0 < budget ∧ pipe.OnWay final (budget - 1) after := by
  obtain ⟨steps, output, remaining, drained, bounded⟩ := onWay
  obtain ⟨source, queue, reader⟩ := before
  cases event with
  | produce =>
      simp only [machine, produceStep] at fired
      cases remaining with
      | gone => simp at fired
      | running yields =>
          cases yields with
          | stop emission =>
              simp only [emission, Option.some.injEq] at fired
              subst fired
              simp only [weight] at bounded
              exact ⟨by omega, 0, [], .gone, drained, by simp only [weight]; omega⟩
          | silent emission later =>
              simp only [emission, Option.some.injEq] at fired
              subst fired
              simp only [weight] at bounded
              exact ⟨by omega, _, _, .running later, drained, by simp only [weight]; omega⟩
          | emit emission later =>
              simp only [emission] at fired
              split at fired
              · simp only [Option.some.injEq] at fired
                subst fired
                simp only [weight] at bounded
                refine ⟨by omega, _, _, .running later, ?_, ?_⟩
                · simpa using drained
                · simp only [weight, List.length_append, List.length_singleton]
                  omega
              · simp at fired
  | receive =>
      simp only [machine, receiveStep] at fired
      split at fired
      · simp at fired
      · rename_i reading
        cases queue with
        | cons message queue =>
            simp only [Option.some.injEq] at fired
            subst fired
            simp only [weight, reading, List.length_cons, Bool.false_eq_true, if_false] at bounded
            refine ⟨by omega, steps, output, remaining, ?_, ?_⟩
            · simpa [drain, reading] using drained
            · simp only [weight]
              split <;> omega
        | nil =>
            cases remaining with
            | running => simp at fired
            | gone =>
                simp only [Option.some.injEq] at fired
                subst fired
                simp only [weight, reading, Bool.false_eq_true, if_false] at bounded
                refine ⟨by omega, 0, [], .gone, ?_, ?_⟩
                · rw [drain_of_done (closes reader)]
                  simpa [drain, reading] using drained
                · simp [weight, closes reader]

/-- Along every schedule the consumer stays on its way, each event using up one step. -/
theorem onWay_run {producer : Producer} {consumer : Consumer} {steps : Nat}
    {output : List Message} (yields : pipe.Yields producer steps output)
    {schedule : List Event} {state : State Producer Message Consumer}
    (execution : (pipe.machine producer consumer).run schedule = some state) :
    schedule.length ≤ 2 * steps + 1 ∧
      pipe.OnWay (pipe.drain output consumer) (2 * steps + 1 - schedule.length) state := by
  induction schedule using List.reverseRecOn generalizing state with
  | nil =>
      obtain rfl := Option.some.inj execution
      refine ⟨Nat.zero_le _, steps, output, .running yields, rfl, ?_⟩
      rw [weight, List.length_nil]
      split <;> simp [machine]
  | append_singleton schedule event induction =>
      obtain ⟨before, reached, fired⟩ := Machine.run_concat_eq_some.mp execution
      obtain ⟨-, onWay⟩ := induction reached
      obtain ⟨positive, later⟩ := onWay_step closes onWay fired
      rw [List.length_append, List.length_singleton]
      refine ⟨by omega, ?_⟩
      rwa [show 2 * steps + 1 - (schedule.length + 1) = 2 * steps + 1 - schedule.length - 1 by
        omega]

/-- No schedule runs forever. -/
theorem length_le_of_run {producer : Producer} {consumer : Consumer} {steps : Nat}
    {output : List Message} (yields : pipe.Yields producer steps output)
    {schedule : List Event} {state : State Producer Message Consumer}
    (execution : (pipe.machine producer consumer).run schedule = some state) :
    schedule.length ≤ 2 * steps + 1 :=
  (onWay_run closes yields execution).1

/-- A consumer that is done has read the producer's output in order. -/
theorem consumer_eq_drain {producer : Producer} {consumer : Consumer} {steps : Nat}
    {output : List Message} (yields : pipe.Yields producer steps output)
    {schedule : List Event} {state : State Producer Message Consumer}
    (execution : (pipe.machine producer consumer).run schedule = some state)
    (done : pipe.done state.consumer) : state.consumer = pipe.drain output consumer := by
  obtain ⟨-, _, _, -, drained, -⟩ := onWay_run closes yields execution
  rw [drain_of_done done] at drained
  exact drained

end Runs

/-- Until the consumer is done, one of the two can take a step. -/
theorem exists_step (room : 0 < pipe.capacity) {producer : Producer} {consumer : Consumer}
    {state : State Producer Message Consumer} (reading : pipe.done state.consumer = false) :
    ∃ event after, (pipe.machine producer consumer).step state event = some after := by
  obtain ⟨source, queue, reader⟩ := state
  simp only at reading
  cases queue with
  | cons message queue =>
      exact ⟨.receive, _, by simp [machine, receiveStep, reading]; rfl⟩
  | nil =>
      cases source with
      | none => exact ⟨.receive, _, by simp [machine, receiveStep, reading]; rfl⟩
      | some source =>
          cases emission : pipe.produce source with
          | silent next =>
              exact ⟨.produce, _, by simp [machine, produceStep, emission]; rfl⟩
          | emit message next =>
              exact ⟨.produce, _, by simp [machine, produceStep, emission, room]; rfl⟩
          | stop => exact ⟨.produce, _, by simp [machine, produceStep, emission]; rfl⟩

end Pipe
