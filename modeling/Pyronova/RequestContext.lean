import Mathlib.Data.List.AList
import Mathlib.Tactic
import Pyronova.Execution

/-!
# The context of a request

`ctx` keeps its values in a dict behind a context variable, and a copy of a context holds the same
dict.  Writing replaces the dict by a changed copy, so a dict that another context may hold is never
changed, and what a context reads changes only by what the thread inside it does.

A context is entered by one thread at a time and left only where it is the current one.  Where the
request's own cannot be entered again or left, that is logged and the thread goes on where it is.
-/

namespace Pyronova

abbrev CtxDict (Value : Type*) := AList fun _ : String => Value

/-- What a thread has entered a context for. -/
inductive Activation
  /-- The thread's own context. -/
  | base (context : Nat)
  | request (context : Nat)
  /-- The event loop runs an awaitable of the request, whose context is left meanwhile. -/
  | loop (context : Nat)
  /-- A step of a task. -/
  | task (context : Nat)
  /-- Entered by the program: `Context.run`, or `PyContext_Enter`. -/
  | call (context : Nat)
  /-- The request goes on where its thread was, as its context could not be entered again. -/
  | astray (context : Nat)
  /-- The request has ended, and its context, if it was in it, stays entered. -/
  | left (context : Option Nat)
  deriving DecidableEq, Repr

/-- What an activation is for the code above it. -/
inductive CtxFrame
  | within (context : Nat)
  /-- The event loop is between two callbacks. -/
  | between
  /-- The code is in what is below. -/
  | through
  deriving DecidableEq, Repr

/-- `ctx.set`, between its reads and writes. -/
inductive Setting (Value : Type*)
  | loaded (dict : Option Nat) (key : String) (value : Value)
  | copied (fresh : Nat) (key : String) (value : Value)
  | stored (fresh : Nat) (key : String) (value : Value)

structure CtxThread (Value : Type*) where
  /-- Innermost first. -/
  stack : List Activation
  setting : Option (Setting Value)

structure CtxState (Value : Type*) where
  /-- The dicts made so far, by address. -/
  heap : List (CtxDict Value)
  /-- What the variable holds in each context: the address of a dict, or nothing yet. -/
  contexts : List (Option Nat)
  threads : List (CtxThread Value)
  /-- Dicts that `snapshot` gave to the program. -/
  snapshots : List Nat
  /-- What was logged. -/
  log : List String

/-- What `Suspended` logs. -/
def reenteringFailed : String :=
  "re-entering the request's contextvars.Context after an awaitable failed"

/-- What `Entered` logs. -/
def leavingFailed : String :=
  "leaving the request's contextvars.Context failed: the handler entered a context it did not exit"

inductive CtxEvent (Value : Type*)
  | startThread
  /-- `in_request_context`. -/
  | begin (thread : Nat)
  /-- `Entered` is dropped. -/
  | finish (thread : Nat)
  /-- `run_in_task` leaves the request's context. -/
  | suspend (thread : Nat)
  /-- The loop runs a step of a task in its context. -/
  | wake (thread context : Nat)
  | yield (thread : Nat)
  /-- `Suspended` is dropped. -/
  | resume (thread : Nat)
  /-- `copy_context`, which a task made the default way starts with. -/
  | copy (thread : Nat)
  | enter (thread context : Nat)
  | leave (thread : Nat)
  | load (thread : Nat) (key : String) (value : Value)
  | duplicate (thread : Nat)
  | store (thread : Nat)
  | publish (thread : Nat)
  | clear (thread : Nat)
  | snapshot (thread : Nat)
  /-- The program changes a dict it was given. -/
  | mutate (address : Nat) (key : String) (value : Value)

namespace Activation

def frame : Activation → CtxFrame
  | .base context | .request context | .task context | .call context => .within context
  | .left (some context) => .within context
  | .loop _ => .between
  | .astray _ | .left none => .through

/-- A request ends whose context is not the current one: what was entered on top of it stays, and
its context with it. -/
def leaveBehind : List Activation → Option (List Activation)
  | .call context :: stack => (leaveBehind stack).map (.call context :: ·)
  | .left context :: stack => (leaveBehind stack).map (.left context :: ·)
  | .request context :: stack => some (.left (some context) :: stack)
  | .astray _ :: stack => some (.left none :: stack)
  | _ => none

end Activation

namespace CtxFrame

/-- The context that was entered. -/
def entered? : CtxFrame → Option Nat
  | .within context => some context
  | _ => none

/-- The context Python code runs in, unless the event loop is between two callbacks. -/
def current? : List CtxFrame → Option Nat
  | .within context :: _ => some context
  | .through :: frames => current? frames
  | _ => none

end CtxFrame

namespace CtxThread

variable {Value : Type*}

def frames (thread : CtxThread Value) : List CtxFrame := thread.stack.map Activation.frame

/-- The context Python code on the thread runs in. -/
def current? (thread : CtxThread Value) : Option Nat := CtxFrame.current? thread.frames

/-- The contexts the thread has entered and not left. -/
def entered (thread : CtxThread Value) : List Nat := thread.frames.filterMap CtxFrame.entered?

end CtxThread

namespace CtxState

variable {Value : Type*}

def start : CtxState Value where
  heap := []
  contexts := []
  threads := []
  snapshots := []
  log := []

/-- The dict at an address, empty where the variable is not set. -/
def dict (state : CtxState Value) : Option Nat → CtxDict Value
  | none => ∅
  | some address => state.heap.getD address ∅

/-- What `ctx.get` looks keys up in, in a context. -/
def view (state : CtxState Value) (context : Nat) : CtxDict Value :=
  state.dict (state.contexts[context]?.join)

/-- `ctx.get`. -/
def get (state : CtxState Value) (context : Nat) (key : String) (default : Value) : Value :=
  ((state.view context).lookup key).getD default

/-- A context is entered by one thread at a time, and once. -/
def isEntered (state : CtxState Value) (context : Nat) : Bool :=
  state.threads.any fun thread => thread.entered.contains context

def setThread (state : CtxState Value) (index : Nat) (thread : CtxThread Value) :
    CtxState Value :=
  { state with threads := state.threads.set index thread }

/-- A thread moves, and says that it could not go where it should. -/
def complain (state : CtxState Value) (index : Nat) (thread : CtxThread Value) (line : String) :
    CtxState Value :=
  { state with threads := state.threads.set index thread, log := state.log ++ [line] }

/-- A thread that is not inside `ctx.set` moves between contexts. -/
def restack (state : CtxState Value) (index : Nat) (thread : CtxThread Value) :
    CtxEvent Value → Option (CtxState Value)
  | .begin _ =>
      thread.current?.map fun _ =>
        { state with
          contexts := state.contexts ++ [none]
          threads := state.threads.set index
            { thread with stack := .request state.contexts.length :: thread.stack } }
  | .finish _ =>
      match thread.stack with
      | .request _ :: rest => some (state.setThread index { thread with stack := rest })
      | .astray _ :: rest =>
          some (state.complain index { thread with stack := rest } leavingFailed)
      | stack =>
          (Activation.leaveBehind stack).map fun stack =>
            state.complain index { thread with stack } leavingFailed
  | .suspend _ =>
      match thread.stack with
      | .request context :: rest =>
          some (state.setThread index { thread with stack := .loop context :: rest })
      -- The context is not the current one: `suspend` fails and nothing is run.
      | .astray _ :: _ | .call _ :: _ | .left _ :: _ => some (state.setThread index thread)
      | _ => none
  | .wake _ context =>
      match thread.stack with
      | .loop _ :: _ =>
          if context < state.contexts.length ∧ state.isEntered context = false then
            some (state.setThread index { thread with stack := .task context :: thread.stack })
          else none
      | _ => none
  | .yield _ =>
      match thread.stack with
      | .task _ :: rest => some (state.setThread index { thread with stack := rest })
      | _ => none
  | .resume _ =>
      match thread.stack with
      | .loop context :: rest =>
          if context < state.contexts.length ∧ state.isEntered context = false then
            some (state.setThread index { thread with stack := .request context :: rest })
          else
            some (state.complain index { thread with stack := .astray context :: rest }
              reenteringFailed)
      | _ => none
  | .enter _ context =>
      thread.current?.bind fun _ =>
        if context < state.contexts.length ∧ state.isEntered context = false then
          some (state.setThread index { thread with stack := .call context :: thread.stack })
        else none
  | .leave _ =>
      match thread.stack with
      | .call _ :: rest => some (state.setThread index { thread with stack := rest })
      | _ => none
  | _ => none

/-- `copy_context`: another context that holds the same dict. -/
def copyContext (state : CtxState Value) (context : Nat) : CtxState Value :=
  { state with contexts := state.contexts ++ [state.contexts[context]?.join] }

/-- `ctx.set` reads the variable. -/
def load (state : CtxState Value) (index context : Nat) (thread : CtxThread Value) (key : String)
    (value : Value) : CtxState Value :=
  state.setThread index
    { thread with setting := some (.loaded (state.contexts[context]?.join) key value) }

/-- It copies the dict it read, or makes one. -/
def duplicate (state : CtxState Value) (index : Nat) (thread : CtxThread Value)
    (dict : Option Nat) (key : String) (value : Value) : CtxState Value :=
  { state with
    heap := state.heap ++ [state.dict dict]
    threads := state.threads.set index
      { thread with setting := some (.copied state.heap.length key value) } }

def store (state : CtxState Value) (index : Nat) (thread : CtxThread Value) (fresh : Nat)
    (key : String) (value : Value) : CtxState Value :=
  { state with
    heap := state.heap.modify fresh fun dict => dict.insert key value
    threads := state.threads.set index
      { thread with setting := some (.stored fresh key value) } }

/-- It sets the variable. -/
def publish (state : CtxState Value) (index context : Nat) (thread : CtxThread Value)
    (fresh : Nat) : CtxState Value :=
  { state with
    contexts := state.contexts.set context (some fresh)
    threads := state.threads.set index { thread with setting := none } }

/-- `ctx.clear`. -/
def clear (state : CtxState Value) (context : Nat) : CtxState Value :=
  { state with contexts := state.contexts.set context none }

/-- `ctx.snapshot`. -/
def snapshot (state : CtxState Value) (context : Nat) : CtxState Value :=
  { state with
    heap := state.heap ++ [state.view context]
    snapshots := state.snapshots ++ [state.heap.length] }

/-- What code in a context does with `ctx`, one read or write at a time. -/
def operate (state : CtxState Value) (index context : Nat) (thread : CtxThread Value)
    (event : CtxEvent Value) : Option (CtxState Value) :=
  match event, thread.setting with
  | .copy _, none => some (state.copyContext context)
  | .load _ key value, none => some (state.load index context thread key value)
  | .duplicate _, some (.loaded dict key value) =>
      some (state.duplicate index thread dict key value)
  | .store _, some (.copied fresh key value) => some (state.store index thread fresh key value)
  | .publish _, some (.stored fresh _ _) => some (state.publish index context thread fresh)
  | .clear _, none => some (state.clear context)
  | .snapshot _, none => some (state.snapshot context)
  | _, _ => none

/-- The thread an event is one of. -/
def thread? : CtxEvent Value → Option Nat
  | .startThread | .mutate .. => none
  | .begin thread | .finish thread | .suspend thread | .wake thread _ | .yield thread
  | .resume thread | .copy thread | .enter thread _ | .leave thread | .load thread _ _
  | .duplicate thread | .store thread | .publish thread | .clear thread | .snapshot thread =>
      some thread

/-- The events that move a thread between contexts. -/
def moves : CtxEvent Value → Bool
  | .begin _ | .finish _ | .suspend _ | .wake .. | .yield _ | .resume _ | .enter .. | .leave _ =>
      true
  | _ => false

def step (state : CtxState Value) (event : CtxEvent Value) : Option (CtxState Value) :=
  match event with
  | .startThread =>
      some
        { state with
          contexts := state.contexts ++ [none]
          threads := state.threads ++
            [{ stack := [.base state.contexts.length], setting := none }] }
  | .mutate address key value =>
      if address ∈ state.snapshots then
        some { state with heap := state.heap.modify address fun dict => dict.insert key value }
      else none
  | event =>
      (thread? event).bind fun index => state.threads[index]?.bind fun thread =>
        if moves event then
          if thread.setting.isNone then state.restack index thread event else none
        else thread.current?.bind fun context => state.operate index context thread event

end CtxState

variable (Value : Type*) in
def ctxMachine : Machine (CtxState Value) (CtxEvent Value) where
  init := .start
  step := CtxState.step

/-! ## No dict of a context is changed -/

/-- Who may change the dict at an address. -/
inductive DictOwner
  /-- Nobody: contexts hold it. -/
  | shared
  /-- The `ctx.set` under way on a thread. -/
  | draft (thread : Nat)
  /-- The program. -/
  | snapshot
  deriving DecidableEq

/-- The dict a `ctx.set` has made and not published yet. -/
def Setting.draft? {Value : Type*} : Setting Value → Option Nat
  | .loaded .. => none
  | .copied fresh _ _ | .stored fresh _ _ => some fresh

namespace CtxState

variable {Value : Type*}

/-- What a `ctx.set` under way in a context has read and made so far. -/
def Tracks (state : CtxState Value) (context : Nat) : Setting Value → Prop
  | .loaded dict _ _ => dict = state.contexts[context]?.join
  | .copied fresh _ _ => state.heap[fresh]? = some (state.view context)
  | .stored fresh key value =>
      state.heap[fresh]? = some ((state.view context).insert key value)

structure Owned (state : CtxState Value) (owners : List DictOwner) : Prop where
  size : owners.length = state.heap.length
  shared : ∀ context address : Nat, state.contexts[context]? = some (some address) →
    owners[address]? = some .shared
  draft : ∀ (index : Nat) (thread : CtxThread Value) (address : Nat),
    state.threads[index]? = some thread → thread.setting.bind Setting.draft? = some address →
      owners[address]? = some (.draft index)
  snapshot : ∀ address : Nat, address ∈ state.snapshots → owners[address]? = some .snapshot

/-- Every context that is entered exists, and is entered once. -/
structure Spread (state : CtxState Value) : Prop where
  inContexts : ∀ (index : Nat) (thread : CtxThread Value),
    state.threads[index]? = some thread → ∀ context ∈ thread.entered,
      context < state.contexts.length
  once : ∀ (index : Nat) (thread : CtxThread Value),
    state.threads[index]? = some thread → thread.entered.Nodup
  apart : ∀ (index other : Nat) (thread there : CtxThread Value) (context : Nat),
    state.threads[index]? = some thread → state.threads[other]? = some there →
      context ∈ thread.entered → context ∈ there.entered → index = other
  /-- The context a request goes back to. -/
  loops : ∀ (index : Nat) (thread : CtxThread Value),
    state.threads[index]? = some thread → ∀ context, .loop context ∈ thread.stack →
      context < state.contexts.length

structure Invariant (state : CtxState Value) : Prop where
  owned : ∃ owners, state.Owned owners
  tracks : ∀ (index : Nat) (thread : CtxThread Value) (setting : Setting Value),
    state.threads[index]? = some thread → thread.setting = some setting →
      ∃ context, thread.current? = some context ∧ state.Tracks context setting
  spread : state.Spread

variable {state next : CtxState Value} {index context : Nat} {thread : CtxThread Value}
  {event : CtxEvent Value} {owners : List DictOwner}

theorem mem_of_current {frames : List CtxFrame}
    (current : CtxFrame.current? frames = some context) :
    context ∈ frames.filterMap CtxFrame.entered? := by
  induction frames with
  | nil => cases current
  | cons top frames induction =>
      cases top with
      | within entered =>
          obtain rfl := Option.some.inj current
          exact List.mem_cons_self
      | between => cases current
      | through => exact induction current

theorem mem_entered_of_current (current : thread.current? = some context) :
    context ∈ thread.entered :=
  mem_of_current current

theorem view_eq_of_heap (contexts : next.contexts[context]? = state.contexts[context]?)
    (heap : ∀ address, state.contexts[context]? = some (some address) →
      next.heap[address]? = state.heap[address]?) : next.view context = state.view context := by
  rw [view, view, contexts]
  cases held : state.contexts[context]?.join with
  | none => rfl
  | some address =>
      simp only [dict, List.getD_eq_getElem?_getD]
      rw [heap address (Option.join_eq_some_iff.mp held)]

/-- Changing a dict that no context holds changes no context. -/
theorem Owned.view_modify (owned : state.Owned owners) {address : Nat} {owner : DictOwner}
    (owns : owners[address]? = some owner) (hidden : owner ≠ .shared)
    (change : CtxDict Value → CtxDict Value) (contexts : next.contexts = state.contexts)
    (heap : next.heap = state.heap.modify address change) :
    next.view context = state.view context := by
  refine view_eq_of_heap (by rw [contexts]) fun other held => ?_
  have different : address ≠ other := by
    rintro rfl
    rw [owned.shared context address held] at owns
    exact hidden (Option.some.inj owns).symm
  rw [heap, List.getElem?_modify]
  simp [different]

/-- A new dict changes no context. -/
theorem Owned.view_append (owned : state.Owned owners) {fresh : CtxDict Value}
    (contexts : next.contexts[context]? = state.contexts[context]?)
    (heap : next.heap = state.heap ++ [fresh]) : next.view context = state.view context := by
  refine view_eq_of_heap contexts fun address held => ?_
  have inside := (List.getElem?_eq_some_iff.mp (owned.shared context address held)).1
  rw [heap, List.getElem?_append_left (owned.size ▸ inside)]

/-- Frames that stay, or are pushed on, popped, or have their top replaced. -/
def Shape (frames later : List CtxFrame) : Prop :=
  later = frames ∨ later.tail = frames ∨ later = frames.tail ∨ later.tail = frames.tail

/-- A stack on which one request runs, and what it is once that has ended. -/
def LeftBehind (stack later : List Activation) : Prop :=
  ∃ (upper rest : List Activation) (context : Nat),
    (stack = upper ++ .request context :: rest ∧ later = upper ++ .left (some context) :: rest) ∨
      (stack = upper ++ .astray context :: rest ∧ later = upper ++ .left none :: rest)

theorem LeftBehind.cons {stack later : List Activation} (behind : LeftBehind stack later)
    (top : Activation) : LeftBehind (top :: stack) (top :: later) := by
  obtain ⟨upper, rest, context, ⟨rfl, rfl⟩ | ⟨rfl, rfl⟩⟩ := behind
  · exact ⟨top :: upper, rest, context, .inl ⟨rfl, rfl⟩⟩
  · exact ⟨top :: upper, rest, context, .inr ⟨rfl, rfl⟩⟩

/-- A request that ends where its context is not the current one changes its own activation. -/
theorem leftBehind_of_leaveBehind {stack later : List Activation}
    (left : Activation.leaveBehind stack = some later) : LeftBehind stack later := by
  induction stack generalizing later with
  | nil => cases left
  | cons top stack induction =>
      cases top with
      | call context | left context =>
          obtain ⟨rest, below, rfl⟩ := Option.map_eq_some_iff.mp left
          exact (induction below).cons _
      | request context =>
          obtain rfl := Option.some.inj left
          exact ⟨[], stack, context, .inl ⟨rfl, rfl⟩⟩
      | astray context =>
          obtain rfl := Option.some.inj left
          exact ⟨[], stack, context, .inr ⟨rfl, rfl⟩⟩
      | base context | loop context | task context => cases left

theorem frames_leaveBehind {stack later : List Activation}
    (left : Activation.leaveBehind stack = some later) :
    later.map Activation.frame = stack.map Activation.frame := by
  obtain ⟨upper, rest, context, ⟨rfl, rfl⟩ | ⟨rfl, rfl⟩⟩ := leftBehind_of_leaveBehind left
  · rw [List.map_append, List.map_append]
    rfl
  · rw [List.map_append, List.map_append]
    rfl

theorem mem_of_leaveBehind {stack later : List Activation}
    (left : Activation.leaveBehind stack = some later) (inside : .loop context ∈ later) :
    .loop context ∈ stack := by
  obtain ⟨upper, rest, own, ⟨rfl, rfl⟩ | ⟨rfl, rfl⟩⟩ := leftBehind_of_leaveBehind left
  · simpa using inside
  · simpa using inside

/-- What a move between contexts does. -/
structure Restacked (state next : CtxState Value) (index : Nat) (thread : CtxThread Value)
    (stack : List Activation) : Prop where
  heap : next.heap = state.heap
  snapshots : next.snapshots = state.snapshots
  contexts : next.contexts = state.contexts ∨ next.contexts = state.contexts ++ [none]
  threads : next.threads = state.threads.set index { thread with stack }
  entered : ({ thread with stack } : CtxThread Value).entered.Sublist thread.entered ∨
    ∃ context, ({ thread with stack } : CtxThread Value).entered = context :: thread.entered ∧
      (context < state.contexts.length ∧ state.isEntered context = false ∨
        context = state.contexts.length ∧ next.contexts = state.contexts ++ [none])
  shape : Shape thread.frames ({ thread with stack } : CtxThread Value).frames
  loops : ∀ context, .loop context ∈ stack →
    .loop context ∈ thread.stack ∨ context ∈ thread.entered

section Restack

variable {stack rest : List Activation} {top : Activation}

/-- A thread that enters nothing: its frames are those of before, or some of them are gone. -/
theorem restacked_of_sublist (moved : next = state.setThread index { thread with stack } ∨
      ∃ line, next = state.complain index { thread with stack } line)
    (entered : ({ thread with stack } : CtxThread Value).entered.Sublist thread.entered)
    (shape : Shape thread.frames ({ thread with stack } : CtxThread Value).frames)
    (loops : ∀ context, .loop context ∈ stack →
      .loop context ∈ thread.stack ∨ context ∈ thread.entered) :
    Restacked state next index thread stack := by
  obtain rfl | ⟨line, rfl⟩ := moved
  · exact ⟨rfl, rfl, .inl rfl, rfl, .inl entered, shape, loops⟩
  · exact ⟨rfl, rfl, .inl rfl, rfl, .inl entered, shape, loops⟩

theorem restacked_pop (found : thread.stack = top :: rest)
    (moved : next = state.setThread index { thread with stack := rest } ∨
      ∃ line, next = state.complain index { thread with stack := rest } line) :
    Restacked state next index thread rest := by
  have frames : thread.frames = top.frame :: rest.map Activation.frame :=
    congrArg (List.map Activation.frame) found
  apply restacked_of_sublist moved
  · rw [CtxThread.entered, CtxThread.entered, frames]
    exact (List.sublist_cons_self _ _).filterMap _
  · exact .inr (.inr (.inl (congrArg List.tail frames).symm))
  · intro context inside
    rw [found]
    exact .inl (List.mem_cons_of_mem _ inside)

/-- A thread enters a context that nobody is in. -/
theorem restacked_push (within : top.frame = .within context)
    (free : (context < state.contexts.length ∧ state.isEntered context = false ∧
        next = state.setThread index { thread with stack := top :: thread.stack }) ∨
      (context = state.contexts.length ∧ next =
        { state with
          contexts := state.contexts ++ [none]
          threads := state.threads.set index { thread with stack := top :: thread.stack } })) :
    Restacked state next index thread (top :: thread.stack) := by
  have entered : ({ thread with stack := top :: thread.stack } : CtxThread Value).entered =
      context :: thread.entered := by
    simp only [CtxThread.entered, CtxThread.frames, List.map_cons, within]
    rfl
  have loops (other : Nat) (inside : .loop other ∈ top :: thread.stack) :
      .loop other ∈ thread.stack ∨ other ∈ thread.entered := by
    obtain rfl | old := List.mem_cons.mp inside
    · cases within
    · exact .inl old
  obtain ⟨known, unentered, rfl⟩ | ⟨new, rfl⟩ := free
  · exact ⟨rfl, rfl, .inl rfl, rfl, .inr ⟨_, entered, .inl ⟨known, unentered⟩⟩, .inr (.inl rfl),
      loops⟩
  · exact ⟨rfl, rfl, .inr rfl, rfl, .inr ⟨_, entered, .inr ⟨new, rfl⟩⟩, .inr (.inl rfl), loops⟩

theorem restacked_leaveBehind (left : Activation.leaveBehind thread.stack = some stack)
    (line : String) :
    Restacked state (state.complain index { thread with stack } line) index thread stack := by
  have frames : ({ thread with stack } : CtxThread Value).frames = thread.frames :=
    frames_leaveBehind left
  refine restacked_of_sublist (.inr ⟨_, rfl⟩) ?_ (.inl frames)
    fun context inside => .inl (mem_of_leaveBehind left inside)
  rw [CtxThread.entered, frames]
  exact List.Sublist.refl _

theorem restacked_suspend (found : thread.stack = .request context :: rest) :
    Restacked state (state.setThread index { thread with stack := .loop context :: rest }) index
      thread (.loop context :: rest) := by
  have frames : thread.frames = .within context :: rest.map Activation.frame :=
    congrArg (List.map Activation.frame) found
  have entered : thread.entered =
      context :: (rest.map Activation.frame).filterMap CtxFrame.entered? :=
    congrArg (List.filterMap CtxFrame.entered?) frames
  refine restacked_of_sublist (.inl rfl) ?_ (.inr (.inr (.inr (congrArg List.tail frames).symm))) ?_
  · rw [entered]
    exact List.sublist_cons_self _ _
  · intro other inside
    obtain same | old := List.mem_cons.mp inside
    · obtain rfl := Activation.loop.inj same
      exact .inr (entered ▸ List.mem_cons_self)
    · exact .inl (found ▸ List.mem_cons_of_mem _ old)

/-- The event loop is done, and the request goes on in its context or where its thread was. -/
theorem restacked_resume (found : thread.stack = .loop context :: rest)
    (moved : (context < state.contexts.length ∧ state.isEntered context = false ∧
        top = .request context ∧
          next = state.setThread index { thread with stack := top :: rest }) ∨
      ∃ line, top = .astray context ∧
        next = state.complain index { thread with stack := top :: rest } line) :
    Restacked state next index thread (top :: rest) := by
  have frames : thread.frames = .between :: rest.map Activation.frame :=
    congrArg (List.map Activation.frame) found
  have entered : thread.entered = (rest.map Activation.frame).filterMap CtxFrame.entered? := by
    rw [CtxThread.entered, frames]
    rfl
  have loops (plain : ∀ context, .loop context ≠ top) (other : Nat)
      (inside : .loop other ∈ top :: rest) : .loop other ∈ thread.stack ∨ other ∈ thread.entered :=
    .inl (found ▸ List.mem_cons_of_mem _ ((List.mem_cons.mp inside).resolve_left (plain other)))
  have shape :
      Shape thread.frames ({ thread with stack := top :: rest } : CtxThread Value).frames :=
    .inr (.inr (.inr (congrArg List.tail frames).symm))
  obtain ⟨known, unentered, rfl, rfl⟩ | ⟨line, rfl, rfl⟩ := moved
  · refine ⟨rfl, rfl, .inl rfl, rfl, .inr ⟨context, ?_, .inl ⟨known, unentered⟩⟩, shape,
      loops nofun⟩
    rw [entered]
    rfl
  · refine restacked_of_sublist (.inr ⟨_, rfl⟩) ?_ shape (loops nofun)
    rw [entered]
    exact List.Sublist.refl _

theorem restack_spec (fired : state.restack index thread event = some next) :
    ∃ stack, Restacked state next index thread stack := by
  cases event with
  | begin _ =>
      obtain ⟨current, -, rfl⟩ := Option.map_eq_some_iff.mp fired
      exact ⟨_, restacked_push rfl (.inr ⟨rfl, rfl⟩)⟩
  | finish _ =>
      simp only [restack] at fired
      split at fired
      · rename_i found
        obtain rfl := Option.some.inj fired
        exact ⟨_, restacked_pop found (.inl rfl)⟩
      · rename_i found
        obtain rfl := Option.some.inj fired
        exact ⟨_, restacked_pop found (.inr ⟨_, rfl⟩)⟩
      · obtain ⟨stack, left, rfl⟩ := Option.map_eq_some_iff.mp fired
        exact ⟨stack, restacked_leaveBehind left _⟩
  | suspend _ =>
      have stays (moved : state.setThread index thread = next) :
          ∃ stack, Restacked state next index thread stack :=
        ⟨thread.stack, restacked_of_sublist (.inl moved.symm) (List.Sublist.refl _) (.inl rfl)
          fun _ => .inl⟩
      simp only [restack] at fired
      split at fired
      · rename_i found
        obtain rfl := Option.some.inj fired
        exact ⟨_, restacked_suspend found⟩
      · exact stays (Option.some.inj fired)
      · exact stays (Option.some.inj fired)
      · exact stays (Option.some.inj fired)
      · cases fired
  | wake _ context =>
      simp only [restack] at fired
      split at fired
      · split at fired
        · rename_i free
          obtain rfl := Option.some.inj fired
          exact ⟨_, restacked_push rfl (.inl ⟨free.1, free.2, rfl⟩)⟩
        · cases fired
      · cases fired
  | resume _ =>
      simp only [restack] at fired
      split at fired
      · rename_i found
        split at fired
        · rename_i free
          obtain rfl := Option.some.inj fired
          exact ⟨_, restacked_resume found (.inl ⟨free.1, free.2, rfl, rfl⟩)⟩
        · obtain rfl := Option.some.inj fired
          exact ⟨_, restacked_resume found (.inr ⟨_, rfl, rfl⟩)⟩
      · cases fired
  | enter _ context =>
      obtain ⟨current, -, entering⟩ := Option.bind_eq_some_iff.mp fired
      obtain ⟨free, moved⟩ := Option.ite_none_right_eq_some.mp entering
      obtain rfl := Option.some.inj moved
      exact ⟨_, restacked_push rfl (.inl ⟨free.1, free.2, rfl⟩)⟩
  | yield _ | leave _ =>
      simp only [restack] at fired
      split at fired
      · rename_i found
        obtain rfl := Option.some.inj fired
        exact ⟨_, restacked_pop found (.inl rfl)⟩
      · cases fired
  | _ => cases fired

end Restack

theorem join_append_none (contexts : List (Option Nat)) (context : Nat) :
    (contexts ++ [none])[context]?.join = contexts[context]?.join := by
  rw [List.getElem?_append]
  split
  · rfl
  · rename_i outside
    have beyond : contexts[context]? = none := List.getElem?_eq_none (Nat.not_lt.mp outside)
    rw [beyond]
    cases context - contexts.length <;> rfl

theorem Restacked.join {stack : List Activation}
    (restacked : Restacked state next index thread stack) (context : Nat) :
    next.contexts[context]?.join = state.contexts[context]?.join := by
  obtain same | more := restacked.contexts
  · rw [same]
  · rw [more, join_append_none]

/-- Moving between contexts changes none. -/
theorem Restacked.view {stack : List Activation}
    (restacked : Restacked state next index thread stack) (context : Nat) :
    next.view context = state.view context := by
  rw [CtxState.view, CtxState.view, restacked.join]
  simp only [dict, restacked.heap]

theorem getElem?_set_thread (found : state.threads[index]? = some thread)
    (after : CtxThread Value) (other : Nat) :
    (state.threads.set index after)[other]? =
      if index = other then some after else state.threads[other]? := by
  rw [List.getElem?_set, if_pos (List.getElem?_eq_some_iff.mp found).1]

theorem not_mem_entered (free : state.isEntered context = false)
    (found : state.threads[index]? = some thread) : context ∉ thread.entered := by
  intro inside
  have every := List.any_eq_false.mp free thread (List.mem_of_getElem? found)
  exact every (List.contains_iff_mem.mpr inside)

theorem Restacked.length_le {stack : List Activation}
    (restacked : Restacked state next index thread stack) :
    state.contexts.length ≤ next.contexts.length := by
  obtain same | more := restacked.contexts
  · rw [same]
  · rw [more, List.length_append]
    exact Nat.le_add_right _ _

/-- A thread is in contexts it was in before, and in a new one only if no thread was in it. -/
theorem Restacked.mem_entered {stack : List Activation}
    (restacked : Restacked state next index thread stack) (spread : state.Spread)
    (found : state.threads[index]? = some thread)
    (inside : context ∈ ({ thread with stack } : CtxThread Value).entered) :
    context < next.contexts.length ∧ (context ∈ thread.entered ∨
      ∀ (other : Nat) (there : CtxThread Value), state.threads[other]? = some there →
        context ∉ there.entered) := by
  have grown := restacked.length_le
  have old (member : context ∈ thread.entered) : context < next.contexts.length :=
    (spread.inContexts index thread found context member).trans_le grown
  obtain fewer | ⟨new, entered, fresh⟩ := restacked.entered
  · have member := fewer.subset inside
    exact ⟨old member, .inl member⟩
  · rw [entered] at inside
    obtain rfl | member := List.mem_cons.mp inside
    · obtain ⟨known, free⟩ | ⟨rfl, more⟩ := fresh
      · exact ⟨known.trans_le grown, .inr fun other there here => not_mem_entered free here⟩
      · refine ⟨by simp [more], .inr fun other there here member => ?_⟩
        exact Nat.lt_irrefl _ (spread.inContexts other there here _ member)
    · exact ⟨old member, .inl member⟩

theorem Restacked.once {stack : List Activation}
    (restacked : Restacked state next index thread stack) (spread : state.Spread)
    (found : state.threads[index]? = some thread) :
    ({ thread with stack } : CtxThread Value).entered.Nodup := by
  have nodup := spread.once index thread found
  obtain fewer | ⟨new, entered, fresh⟩ := restacked.entered
  · exact nodup.sublist fewer
  · rw [entered]
    refine List.nodup_cons.mpr ⟨fun member => ?_, nodup⟩
    obtain ⟨-, free⟩ | ⟨rfl, -⟩ := fresh
    · exact not_mem_entered free found member
    · exact Nat.lt_irrefl _ (spread.inContexts index thread found _ member)

theorem Restacked.spread {stack : List Activation}
    (restacked : Restacked state next index thread stack) (spread : state.Spread)
    (found : state.threads[index]? = some thread) : next.Spread := by
  have lookup (other : Nat) (there : CtxThread Value)
      (here : next.threads[other]? = some there) :
      (index = other ∧ there = { thread with stack }) ∨
        index ≠ other ∧ state.threads[other]? = some there := by
    rw [restacked.threads, getElem?_set_thread found] at here
    split at here
    · rename_i same
      exact .inl ⟨same, (Option.some.inj here).symm⟩
    · rename_i different
      exact .inr ⟨different, here⟩
  constructor
  case inContexts =>
    intro other there here context inside
    obtain ⟨-, rfl⟩ | ⟨-, here⟩ := lookup other there here
    · exact (restacked.mem_entered spread found inside).1
    · exact (spread.inContexts other there here context inside).trans_le restacked.length_le
  case once =>
    intro other there here
    obtain ⟨-, rfl⟩ | ⟨-, here⟩ := lookup other there here
    · exact restacked.once spread found
    · exact spread.once other there here
  case apart =>
    intro first second thread₁ thread₂ context one two inOne inTwo
    obtain ⟨rfl, rfl⟩ | ⟨-, one⟩ := lookup first thread₁ one
    · obtain ⟨rfl, rfl⟩ | ⟨-, two⟩ := lookup second thread₂ two
      · rfl
      · obtain old | free := (restacked.mem_entered spread found inOne).2
        · exact spread.apart _ second thread thread₂ context found two old inTwo
        · exact absurd inTwo (free second thread₂ two)
    · obtain ⟨rfl, rfl⟩ | ⟨-, two⟩ := lookup second thread₂ two
      · obtain old | free := (restacked.mem_entered spread found inTwo).2
        · exact spread.apart first _ thread₁ thread context one found inOne old
        · exact absurd inOne (free first thread₁ one)
      · exact spread.apart first second thread₁ thread₂ context one two inOne inTwo
  case loops =>
    intro other there here context inside
    refine lt_of_lt_of_le ?_ restacked.length_le
    obtain ⟨-, rfl⟩ | ⟨-, here⟩ := lookup other there here
    · obtain old | entered := restacked.loops context inside
      · exact spread.loops index thread found context old
      · exact spread.inContexts index thread found context entered
    · exact spread.loops other there here context inside

/-- Threads that stay where they are. -/
theorem Spread.of_stacks (spread : state.Spread)
    (length : state.contexts.length ≤ next.contexts.length)
    (stay : ∀ (index : Nat) (thread : CtxThread Value), next.threads[index]? = some thread →
      ∃ before, state.threads[index]? = some before ∧ thread.stack = before.stack) :
    next.Spread := by
  constructor
  case inContexts =>
    intro index thread found context inside
    obtain ⟨before, here, same⟩ := stay index thread found
    rw [CtxThread.entered, CtxThread.frames, same] at inside
    exact (spread.inContexts index before here context inside).trans_le length
  case once =>
    intro index thread found
    obtain ⟨before, here, same⟩ := stay index thread found
    rw [CtxThread.entered, CtxThread.frames, same]
    exact spread.once index before here
  case apart =>
    intro first second thread₁ thread₂ context one two inOne inTwo
    obtain ⟨before₁, one, same₁⟩ := stay first thread₁ one
    obtain ⟨before₂, two, same₂⟩ := stay second thread₂ two
    rw [CtxThread.entered, CtxThread.frames, same₁] at inOne
    rw [CtxThread.entered, CtxThread.frames, same₂] at inTwo
    exact spread.apart first second before₁ before₂ context one two inOne inTwo
  case loops =>
    intro index thread found context inside
    obtain ⟨before, here, same⟩ := stay index thread found
    rw [same] at inside
    exact (spread.loops index before here context inside).trans_le length

/-- One thread's `ctx.set` goes on, and no thread moves. -/
theorem Spread.of_setting (spread : state.Spread)
    (found : state.threads[index]? = some thread) {setting : Option (Setting Value)}
    (length : state.contexts.length ≤ next.contexts.length)
    (threads : next.threads = state.threads.set index { thread with setting }) : next.Spread := by
  refine spread.of_stacks length fun other there here => ?_
  rw [threads, getElem?_set_thread found] at here
  split at here
  · rename_i same
    subst same
    obtain rfl := Option.some.inj here
    exact ⟨thread, found, rfl⟩
  · exact ⟨there, here, rfl⟩

theorem Tracks.congr {setting : Setting Value} (tracks : state.Tracks context setting)
    (join : next.contexts[context]?.join = state.contexts[context]?.join)
    (view : next.view context = state.view context)
    (heap : ∀ address, setting.draft? = some address → next.heap[address]? = state.heap[address]?) :
    next.Tracks context setting := by
  cases setting with
  | loaded dict key value =>
      simp only [Tracks] at tracks ⊢
      rw [join, tracks]
  | copied fresh key value =>
      simp only [Tracks] at tracks ⊢
      rw [view, heap fresh rfl, tracks]
  | stored fresh key value =>
      simp only [Tracks] at tracks ⊢
      rw [view, heap fresh rfl, tracks]

theorem Invariant.restack (invariant : state.Invariant)
    (found : state.threads[index]? = some thread) (unset : thread.setting.isNone = true)
    (fired : state.restack index thread event = some next) : next.Invariant := by
  obtain ⟨stack, restacked⟩ := restack_spec fired
  obtain ⟨owners, owned⟩ := invariant.owned
  have unset := Option.isNone_iff_eq_none.mp unset
  have lookup (other : Nat) (there : CtxThread Value) (here : next.threads[other]? = some there)
      (sets : there.setting ≠ none) : state.threads[other]? = some there := by
    rw [restacked.threads, getElem?_set_thread found] at here
    split at here
    · obtain rfl := Option.some.inj here
      exact absurd unset sets
    · exact here
  constructor
  case owned =>
    refine ⟨owners, ?_, ?_, ?_, ?_⟩
    · rw [restacked.heap]
      exact owned.size
    · intro context address held
      have joined := restacked.join context
      rw [held] at joined
      exact owned.shared context address (Option.join_eq_some_iff.mp joined.symm)
    · intro other there address here drafts
      refine owned.draft other there address (lookup other there here ?_) drafts
      rintro none
      rw [none] at drafts
      cases drafts
    · rw [restacked.snapshots]
      exact owned.snapshot
  case tracks =>
    intro other there setting here sets
    obtain ⟨context, current, tracks⟩ := invariant.tracks other there setting
      (lookup other there here (by rw [sets]; exact Option.some_ne_none _)) sets
    exact ⟨context, current, tracks.congr (restacked.join context) (restacked.view context)
      fun address _ => by rw [restacked.heap]⟩
  case spread => exact restacked.spread invariant.spread found

theorem Invariant.lt_of_current (invariant : state.Invariant)
    (found : state.threads[index]? = some thread) (current : thread.current? = some context) :
    context < state.contexts.length :=
  invariant.spread.inContexts index thread found context (mem_entered_of_current current)

/-- No other thread is in a thread's context. -/
theorem Invariant.ne_of_current (invariant : state.Invariant) {other elsewhere : Nat}
    {there : CtxThread Value} (found : state.threads[index]? = some thread)
    (current : thread.current? = some context) (here : state.threads[other]? = some there)
    (inside : there.current? = some elsewhere) (different : index ≠ other) :
    context ≠ elsewhere := by
  rintro rfl
  exact different (invariant.spread.apart index other thread there context found here
    (mem_entered_of_current current) (mem_entered_of_current inside))

theorem Owned.draft_lt (owned : state.Owned owners) {address : Nat}
    (found : state.threads[index]? = some thread)
    (drafts : thread.setting.bind Setting.draft? = some address) :
    address < state.heap.length :=
  owned.size ▸ (List.getElem?_eq_some_iff.mp (owned.draft index thread address found drafts)).1

/-- Owners where one thread's `ctx.set` goes on. -/
theorem Owned.draft_set {setting : Option (Setting Value)} {later : List DictOwner}
    (owned : state.Owned owners) (found : state.threads[index]? = some thread)
    (threads : next.threads = state.threads.set index { thread with setting })
    (own : ∀ address, setting.bind Setting.draft? = some address →
      later[address]? = some (.draft index))
    (others : ∀ (address other : Nat), index ≠ other → owners[address]? = some (.draft other) →
      later[address]? = some (.draft other)) :
    ∀ (other : Nat) (there : CtxThread Value) (address : Nat),
      next.threads[other]? = some there → there.setting.bind Setting.draft? = some address →
        later[address]? = some (.draft other) := by
  intro other there address here drafts
  rw [threads, getElem?_set_thread found] at here
  split at here
  · rename_i same
    subst same
    obtain rfl := Option.some.inj here
    exact own address drafts
  · rename_i different
    exact others address other different (owned.draft other there address here drafts)

/-- What the other threads have read and made stays what it was. -/
theorem Invariant.tracks_set {setting : Option (Setting Value)} (invariant : state.Invariant)
    (found : state.threads[index]? = some thread)
    (threads : next.threads = state.threads.set index { thread with setting })
    (own : ∀ made, setting = some made →
      ∃ context, thread.current? = some context ∧ next.Tracks context made)
    (join : ∀ elsewhere, elsewhere < state.contexts.length →
      (∀ other there, index ≠ other → state.threads[other]? = some there →
        there.current? = some elsewhere →
          next.contexts[elsewhere]?.join = state.contexts[elsewhere]?.join ∧
            next.view elsewhere = state.view elsewhere))
    (heap : ∀ address other, index ≠ other → (∃ there, state.threads[other]? = some there ∧
      there.setting.bind Setting.draft? = some address) →
        next.heap[address]? = state.heap[address]?) :
    ∀ (other : Nat) (there : CtxThread Value) (made : Setting Value),
      next.threads[other]? = some there → there.setting = some made →
        ∃ context, there.current? = some context ∧ next.Tracks context made := by
  intro other there made here sets
  rw [threads, getElem?_set_thread found] at here
  split at here
  · obtain rfl := Option.some.inj here
    exact own made sets
  · rename_i different
    obtain ⟨elsewhere, current, tracks⟩ := invariant.tracks other there made here sets
    obtain ⟨joined, viewed⟩ := join elsewhere (invariant.lt_of_current here current) other there
      different here current
    refine ⟨elsewhere, current, tracks.congr joined viewed fun address drafts => ?_⟩
    exact heap address other different ⟨there, here, by rw [sets]; exact drafts⟩

theorem view_copyContext (inside : context < state.contexts.length) (source : Nat) :
    (state.copyContext source).view context = state.view context :=
  view_eq_of_heap (List.getElem?_append_left inside) fun _ _ => rfl

/-- A copy of a context reads what the context reads. -/
theorem view_copyContext_new (source : Nat) :
    (state.copyContext source).view state.contexts.length = state.view source := by
  have new : (state.copyContext source).contexts[state.contexts.length]? =
      some (state.contexts[source]?.join) := by
    simp [copyContext]
  rw [view, view, new, Option.join_some]
  rfl

theorem view_publish (index source : Nat) (thread : CtxThread Value) (fresh : Nat)
    (inside : context < state.contexts.length) {made : CtxDict Value}
    (written : state.heap[fresh]? = some made) :
    (state.publish index source thread fresh).view context =
      if source = context then made else state.view context := by
  have looked : (state.publish index source thread fresh).contexts[context]? =
      if source = context then some (some fresh) else state.contexts[context]? := by
    rw [publish, List.getElem?_set]
    split
    · rename_i same
      rw [if_pos (same ▸ inside)]
    · rfl
  split
  · rename_i same
    rw [if_pos same] at looked
    rw [view, looked, Option.join_some]
    simp [dict, publish, written]
  · rename_i different
    rw [if_neg different] at looked
    exact view_eq_of_heap looked fun _ _ => rfl

theorem view_clear (inside : context < state.contexts.length) (source : Nat) :
    (state.clear source).view context = if source = context then ∅ else state.view context := by
  have looked : (state.clear source).contexts[context]? =
      if source = context then some none else state.contexts[context]? := by
    rw [clear, List.getElem?_set]
    split
    · rename_i same
      rw [if_pos (same ▸ inside)]
    · rfl
  split
  · rename_i same
    rw [if_pos same] at looked
    rw [view, looked]
    rfl
  · rename_i different
    rw [if_neg different] at looked
    exact view_eq_of_heap looked fun _ _ => rfl

theorem Invariant.copyContext (invariant : state.Invariant) (context : Nat) :
    (state.copyContext context).Invariant := by
  obtain ⟨owners, owned⟩ := invariant.owned
  constructor
  case owned =>
    refine ⟨owners, owned.size, ?_, owned.draft, owned.snapshot⟩
    intro other address held
    simp only [CtxState.copyContext, List.getElem?_append] at held
    split at held
    · exact owned.shared other address held
    · have copied := List.mem_singleton.mp (List.mem_of_getElem? held)
      exact owned.shared context address (Option.join_eq_some_iff.mp copied.symm)
  case tracks =>
    intro other there setting here sets
    obtain ⟨elsewhere, current, tracks⟩ := invariant.tracks other there setting here sets
    have inside := invariant.lt_of_current here current
    refine ⟨elsewhere, current, tracks.congr ?_ (view_copyContext inside context) fun _ _ => rfl⟩
    rw [CtxState.copyContext, List.getElem?_append_left inside]
  case spread =>
    exact invariant.spread.of_stacks (by simp [CtxState.copyContext])
      fun other there here => ⟨there, here, rfl⟩

theorem Invariant.load (invariant : state.Invariant)
    (found : state.threads[index]? = some thread) (current : thread.current? = some context)
    (key : String) (value : Value) : (state.load index context thread key value).Invariant := by
  obtain ⟨owners, owned⟩ := invariant.owned
  constructor
  case owned =>
    refine ⟨owners, owned.size, owned.shared, ?_, owned.snapshot⟩
    exact owned.draft_set found rfl (fun address drafts => by cases drafts) fun _ _ _ held => held
  case tracks =>
    refine invariant.tracks_set found rfl ?_ (fun _ _ _ _ _ _ _ => ⟨rfl, rfl⟩) fun _ _ _ _ => rfl
    intro made same
    obtain rfl := Option.some.inj same
    exact ⟨context, current, rfl⟩
  case spread => exact invariant.spread.of_setting found (Nat.le_refl _) rfl

theorem Invariant.duplicate {dict : Option Nat} {key : String} {value : Value}
    (invariant : state.Invariant) (found : state.threads[index]? = some thread)
    (sets : thread.setting = some (.loaded dict key value)) :
    (state.duplicate index thread dict key value).Invariant := by
  obtain ⟨owners, owned⟩ := invariant.owned
  obtain ⟨context, current, tracks⟩ := invariant.tracks index thread _ found sets
  have kept (address : Nat) (owner : DictOwner) (owns : owners[address]? = some owner) :
      (owners ++ [.draft index])[address]? = some owner := by
    rw [List.getElem?_append_left (List.getElem?_eq_some_iff.mp owns).1]
    exact owns
  have unseen (elsewhere : Nat) :
      (state.duplicate index thread dict key value).view elsewhere = state.view elsewhere :=
    owned.view_append rfl rfl
  constructor
  case owned =>
    refine ⟨owners ++ [.draft index], ?_, ?_, ?_, ?_⟩
    · simp [CtxState.duplicate, owned.size]
    · exact fun other address held => kept address _ (owned.shared other address held)
    · refine owned.draft_set found rfl ?_ fun address other _ held => kept address _ held
      intro address drafts
      obtain rfl := Option.some.inj drafts
      rw [← owned.size, List.getElem?_append_right (Nat.le_refl _), Nat.sub_self]
      rfl
    · exact fun address given => kept address _ (owned.snapshot address given)
  case tracks =>
    refine invariant.tracks_set found rfl ?_ (fun elsewhere _ _ _ _ _ _ => ⟨rfl, unseen elsewhere⟩)
      ?_
    · intro made same
      obtain rfl := Option.some.inj same
      refine ⟨context, current, ?_⟩
      simp only [Tracks] at tracks ⊢
      rw [unseen, tracks]
      simp [CtxState.duplicate, view]
    · rintro address other - ⟨there, here, drafts⟩
      exact List.getElem?_append_left (owned.draft_lt here drafts)
  case spread => exact invariant.spread.of_setting found (Nat.le_refl _) rfl

theorem Invariant.store {fresh : Nat} {key : String} {value : Value} (invariant : state.Invariant)
    (found : state.threads[index]? = some thread)
    (sets : thread.setting = some (.copied fresh key value)) :
    (state.store index thread fresh key value).Invariant := by
  obtain ⟨owners, owned⟩ := invariant.owned
  obtain ⟨context, current, tracks⟩ := invariant.tracks index thread _ found sets
  have owns := owned.draft index thread fresh found (by rw [sets]; rfl)
  have unseen (elsewhere : Nat) :
      (state.store index thread fresh key value).view elsewhere = state.view elsewhere :=
    owned.view_modify owns (by simp) _ rfl rfl
  constructor
  case owned =>
    refine ⟨owners, ?_, owned.shared, ?_, owned.snapshot⟩
    · simp [CtxState.store, owned.size]
    · refine owned.draft_set found rfl ?_ fun _ _ _ held => held
      intro address drafts
      obtain rfl := Option.some.inj drafts
      exact owns
  case tracks =>
    refine invariant.tracks_set found rfl ?_ (fun elsewhere _ _ _ _ _ _ => ⟨rfl, unseen elsewhere⟩)
      ?_
    · intro made same
      obtain rfl := Option.some.inj same
      refine ⟨context, current, ?_⟩
      simp only [Tracks] at tracks ⊢
      rw [unseen]
      simp [CtxState.store, tracks]
    · rintro address other different ⟨there, here, drafts⟩
      have apart : fresh ≠ address := by
        rintro rfl
        rw [owned.draft other there fresh here drafts] at owns
        exact different (DictOwner.draft.inj (Option.some.inj owns)).symm
      simp [CtxState.store, apart]
  case spread => exact invariant.spread.of_setting found (Nat.le_refl _) rfl

theorem Invariant.publish {fresh : Nat} {key : String} {value : Value} (invariant : state.Invariant)
    (found : state.threads[index]? = some thread) (current : thread.current? = some context)
    (sets : thread.setting = some (.stored fresh key value)) :
    (state.publish index context thread fresh).Invariant ∧
      ∀ elsewhere < state.contexts.length,
        (state.publish index context thread fresh).view elsewhere =
          if context = elsewhere then (state.view context).insert key value
          else state.view elsewhere := by
  obtain ⟨owners, owned⟩ := invariant.owned
  obtain ⟨inside, same, written⟩ := invariant.tracks index thread _ found sets
  obtain rfl := Option.some.inj (current.symm.trans same)
  have owns := owned.draft index thread fresh found (by rw [sets]; rfl)
  have seen (elsewhere : Nat) (known : elsewhere < state.contexts.length) :=
    view_publish index context thread fresh known written
  have apart (address : Nat) (owner : DictOwner) (owns' : owners[address]? = some owner)
      (different : owner ≠ .draft index) : fresh ≠ address := by
    rintro rfl
    exact different (Option.some.inj (owns'.symm.trans owns))
  have kept (address : Nat) (owner : DictOwner) (owns' : owners[address]? = some owner)
      (different : owner ≠ .draft index) :
      (owners.set fresh .shared)[address]? = some owner := by
    rw [List.getElem?_set_ne (apart address owner owns' different)]
    exact owns'
  refine ⟨?_, seen⟩
  constructor
  case owned =>
    refine ⟨owners.set fresh .shared, ?_, ?_, ?_, ?_⟩
    · simp [CtxState.publish, owned.size]
    · intro other address held
      simp only [CtxState.publish, List.getElem?_set] at held
      split at held
      · split at held
        · obtain rfl := Option.some.inj (Option.some.inj held)
          rw [List.getElem?_set_self (List.getElem?_eq_some_iff.mp owns).1]
        · cases held
      · exact kept address _ (owned.shared other address held) (by simp)
    · refine owned.draft_set found rfl (fun address drafts => by cases drafts) ?_
      exact fun address other different held =>
        kept address _ held (by simpa using Ne.symm different)
    · exact fun address given => kept address _ (owned.snapshot address given) (by simp)
  case tracks =>
    refine invariant.tracks_set found rfl (fun made same => by cases same) ?_ fun _ _ _ _ => rfl
    intro elsewhere known other there different here inside
    have other := invariant.ne_of_current found current here inside different
    rw [seen elsewhere known, if_neg other]
    refine ⟨?_, rfl⟩
    rw [CtxState.publish, List.getElem?_set_ne other]
  case spread => exact invariant.spread.of_setting found (by simp [CtxState.publish]) rfl

theorem Invariant.clear (invariant : state.Invariant)
    (found : state.threads[index]? = some thread) (current : thread.current? = some context)
    (unset : thread.setting = none) : (state.clear context).Invariant := by
  obtain ⟨owners, owned⟩ := invariant.owned
  constructor
  case owned =>
    refine ⟨owners, owned.size, ?_, owned.draft, owned.snapshot⟩
    intro other address held
    simp only [CtxState.clear, List.getElem?_set] at held
    split at held
    · split at held <;> cases held
    · exact owned.shared other address held
  case tracks =>
    intro other there setting here sets
    obtain ⟨elsewhere, inside, tracks⟩ := invariant.tracks other there setting here sets
    have different : index ≠ other := by
      rintro rfl
      obtain rfl := Option.some.inj (found.symm.trans here)
      rw [unset] at sets
      cases sets
    have apart := invariant.ne_of_current found current here inside different
    refine ⟨elsewhere, inside, tracks.congr ?_ ?_ fun _ _ => rfl⟩
    · rw [CtxState.clear, List.getElem?_set_ne apart]
    · rw [view_clear (invariant.lt_of_current here inside), if_neg apart]
  case spread =>
    exact invariant.spread.of_stacks (by simp [CtxState.clear])
      fun other there here => ⟨there, here, rfl⟩

theorem Invariant.snapshot (invariant : state.Invariant) (context : Nat) :
    (state.snapshot context).Invariant := by
  obtain ⟨owners, owned⟩ := invariant.owned
  have kept (address : Nat) (owner : DictOwner) (owns : owners[address]? = some owner) :
      (owners ++ [.snapshot])[address]? = some owner := by
    rw [List.getElem?_append_left (List.getElem?_eq_some_iff.mp owns).1]
    exact owns
  constructor
  case owned =>
    refine ⟨owners ++ [.snapshot], ?_, ?_, ?_, ?_⟩
    · simp [CtxState.snapshot, owned.size]
    · exact fun other address held => kept address _ (owned.shared other address held)
    · exact fun other there address here drafts =>
        kept address _ (owned.draft other there address here drafts)
    · intro address given
      obtain old | fresh := List.mem_append.mp given
      · exact kept address _ (owned.snapshot address old)
      · rw [List.mem_singleton.mp fresh, ← owned.size, List.getElem?_append_right (Nat.le_refl _),
          Nat.sub_self]
        rfl
  case tracks =>
    intro other there setting here sets
    obtain ⟨elsewhere, inside, tracks⟩ := invariant.tracks other there setting here sets
    refine ⟨elsewhere, inside,
      tracks.congr rfl (owned.view_append rfl rfl) fun address drafts => ?_⟩
    exact List.getElem?_append_left (owned.draft_lt here (by rw [sets]; exact drafts))
  case spread =>
    exact invariant.spread.of_stacks (Nat.le_refl _) fun other there here => ⟨there, here, rfl⟩

/-- The program changes only what it was given. -/
theorem Invariant.mutate {address : Nat} (invariant : state.Invariant)
    (given : address ∈ state.snapshots) (change : CtxDict Value → CtxDict Value) :
    { state with heap := state.heap.modify address change }.Invariant ∧
      ∀ context, CtxState.view { state with heap := state.heap.modify address change } context =
        state.view context := by
  obtain ⟨owners, owned⟩ := invariant.owned
  have owns := owned.snapshot address given
  have unseen (context : Nat) :
      CtxState.view { state with heap := state.heap.modify address change } context =
        state.view context := owned.view_modify owns (by simp) change rfl rfl
  refine ⟨?_, unseen⟩
  constructor
  case owned => exact ⟨owners, by simp [owned.size], owned.shared, owned.draft, owned.snapshot⟩
  case tracks =>
    intro other there setting here sets
    obtain ⟨elsewhere, inside, tracks⟩ := invariant.tracks other there setting here sets
    refine ⟨elsewhere, inside, tracks.congr rfl (unseen elsewhere) fun drafted drafts => ?_⟩
    have apart : address ≠ drafted := by
      rintro rfl
      rw [owned.draft other there address here (by rw [sets]; exact drafts)] at owns
      cases owns
    simp [apart]
  case spread =>
    exact invariant.spread.of_stacks (Nat.le_refl _) fun other there here => ⟨there, here, rfl⟩

theorem Invariant.startThread (invariant : state.Invariant)
    (fired : state.step .startThread = some next) : next.Invariant := by
  obtain rfl := Option.some.inj fired
  obtain ⟨owners, owned⟩ := invariant.owned
  have lookup (other : Nat) (there : CtxThread Value)
      (here : (state.threads ++
        [{ stack := [.base state.contexts.length], setting := none }])[other]? = some there) :
      state.threads[other]? = some there ∨ other = state.threads.length ∧
        there = { stack := [.base state.contexts.length], setting := none } := by
    rw [List.getElem?_append] at here
    split at here
    · exact .inl here
    · have same := List.mem_singleton.mp (List.mem_of_getElem? here)
      have bound := (List.getElem?_eq_some_iff.mp here).1
      rw [List.length_singleton] at bound
      exact .inr ⟨by omega, same⟩
  constructor
  case owned =>
    refine ⟨owners, owned.size, ?_, ?_, owned.snapshot⟩
    · intro context address held
      have joined := join_append_none state.contexts context
      simp only [held, Option.join_some] at joined
      exact owned.shared context address (Option.join_eq_some_iff.mp joined.symm)
    · intro other there address here drafts
      obtain here | ⟨-, rfl⟩ := lookup other there here
      · exact owned.draft other there address here drafts
      · cases drafts
  case tracks =>
    intro other there setting here sets
    obtain here | ⟨-, rfl⟩ := lookup other there here
    · obtain ⟨elsewhere, inside, tracks⟩ := invariant.tracks other there setting here sets
      have known := invariant.lt_of_current here inside
      refine ⟨elsewhere, inside, tracks.congr (join_append_none _ _) ?_ fun _ _ => rfl⟩
      exact view_eq_of_heap (List.getElem?_append_left known) fun _ _ => rfl
    · cases sets
  case spread =>
    have fresh (elsewhere : Nat)
        (inside : elsewhere ∈ ({ stack := [.base state.contexts.length], setting := none } :
          CtxThread Value).entered) : elsewhere = state.contexts.length := by
      exact List.mem_singleton.mp inside
    constructor
    case inContexts =>
      intro other there here context inside
      obtain here | ⟨-, rfl⟩ := lookup other there here
      · exact (invariant.spread.inContexts other there here context inside).trans
          (by simp)
      · rw [fresh context inside]
        simp
    case once =>
      intro other there here
      obtain here | ⟨-, rfl⟩ := lookup other there here
      · exact invariant.spread.once other there here
      · exact List.nodup_singleton _
    case apart =>
      intro first second thread₁ thread₂ context one two inOne inTwo
      obtain one | ⟨rfl, rfl⟩ := lookup first thread₁ one
      · obtain two | ⟨rfl, rfl⟩ := lookup second thread₂ two
        · exact invariant.spread.apart first second thread₁ thread₂ context one two inOne inTwo
        · have known := invariant.spread.inContexts first thread₁ one context inOne
          exact absurd known (by rw [fresh context inTwo]; exact Nat.lt_irrefl _)
      · obtain two | ⟨rfl, rfl⟩ := lookup second thread₂ two
        · have known := invariant.spread.inContexts second thread₂ two context inTwo
          exact absurd known (by rw [fresh context inOne]; exact Nat.lt_irrefl _)
        · rfl
    case loops =>
      intro other there here context inside
      obtain here | ⟨-, rfl⟩ := lookup other there here
      · exact (invariant.spread.loops other there here context inside).trans (by simp)
      · cases List.mem_singleton.mp inside

/-- What changes a context: a thread that is in it clears it, or publishes what it set. -/
def Changes (state next : CtxState Value) (event : CtxEvent Value) (context : Nat) : Prop :=
  ∃ (index : Nat) (thread : CtxThread Value), state.threads[index]? = some thread ∧
    thread.current? = some context ∧
      (event = .clear index ∧ next.view context = ∅ ∨
        ∃ fresh key value, event = .publish index ∧
          thread.setting = some (.stored fresh key value) ∧
            next.view context = (state.view context).insert key value)

/-- One step keeps the invariant, and changes a context only from inside. -/
theorem Invariant.operate (invariant : state.Invariant)
    (found : state.threads[index]? = some thread) (about : thread? event = some index)
    (current : thread.current? = some context)
    (fired : state.operate index context thread event = some next) :
    next.Invariant ∧ ∀ elsewhere < state.contexts.length,
      next.view elsewhere = state.view elsewhere ∨ Changes state next event elsewhere := by
  obtain ⟨owners, owned⟩ := invariant.owned
  have inside := invariant.lt_of_current found current
  unfold CtxState.operate at fired
  split at fired
  · obtain rfl := Option.some.inj fired
    exact ⟨invariant.copyContext context, fun _ known => .inl (view_copyContext known context)⟩
  · obtain rfl := Option.some.inj fired
    exact ⟨invariant.load found current _ _, fun _ _ => .inl rfl⟩
  · rename_i sets
    obtain rfl := Option.some.inj fired
    exact ⟨invariant.duplicate found sets, fun _ _ => .inl (owned.view_append rfl rfl)⟩
  · rename_i fresh key value sets
    obtain rfl := Option.some.inj fired
    have owns := owned.draft index thread fresh found (by rw [sets]; rfl)
    exact ⟨invariant.store found sets,
      fun _ _ => .inl (owned.view_modify owns (by simp) _ rfl rfl)⟩
  · rename_i fresh key value sets
    obtain rfl := Option.some.inj fired
    obtain ⟨kept, seen⟩ := invariant.publish found current sets
    refine ⟨kept, fun elsewhere known => ?_⟩
    by_cases same : context = elsewhere
    · subst same
      refine .inr ⟨index, thread, found, current, .inr ⟨fresh, key, value, ?_, sets, ?_⟩⟩
      · rw [Option.some.inj about]
      · rw [seen context inside, if_pos rfl]
    · rw [seen elsewhere known, if_neg same]
      exact .inl rfl
  · rename_i unset
    obtain rfl := Option.some.inj fired
    refine ⟨invariant.clear found current unset, fun elsewhere known => ?_⟩
    by_cases same : context = elsewhere
    · subst same
      refine .inr ⟨index, thread, found, current, .inl ⟨?_, ?_⟩⟩
      · rw [Option.some.inj about]
      · rw [view_clear inside, if_pos rfl]
    · rw [view_clear known, if_neg same]
      exact .inl rfl
  · obtain rfl := Option.some.inj fired
    exact ⟨invariant.snapshot context, fun _ _ => .inl (owned.view_append rfl rfl)⟩
  · cases fired

theorem step_cases (fired : state.step event = some next) :
    event = .startThread ∨
      (∃ address key value, address ∈ state.snapshots ∧ next =
        { state with heap := state.heap.modify address fun dict => dict.insert key value }) ∨
      ∃ index thread, thread? event = some index ∧ state.threads[index]? = some thread ∧
        (thread.setting.isNone = true ∧ state.restack index thread event = some next ∨
          ∃ context, thread.current? = some context ∧
            state.operate index context thread event = some next) := by
  unfold step at fired
  split at fired
  · exact .inl rfl
  · split at fired
    · rename_i given
      exact .inr (.inl ⟨_, _, _, given, (Option.some.inj fired).symm⟩)
    · cases fired
  · obtain ⟨index, about, fired⟩ := Option.bind_eq_some_iff.mp fired
    obtain ⟨thread, found, fired⟩ := Option.bind_eq_some_iff.mp fired
    refine .inr (.inr ⟨index, thread, about, found, ?_⟩)
    split at fired
    · split at fired
      · rename_i unset
        exact .inl ⟨unset, fired⟩
      · cases fired
    · obtain ⟨context, current, fired⟩ := Option.bind_eq_some_iff.mp fired
      exact .inr ⟨context, current, fired⟩

theorem Invariant.step (invariant : state.Invariant) (fired : state.step event = some next) :
    next.Invariant ∧ ∀ elsewhere < state.contexts.length,
      next.view elsewhere = state.view elsewhere ∨ Changes state next event elsewhere := by
  obtain rfl | ⟨address, key, value, given, rfl⟩ |
    ⟨index, thread, about, found, moved | operated⟩ := step_cases fired
  · refine ⟨invariant.startThread fired, fun elsewhere known => .inl ?_⟩
    obtain rfl := Option.some.inj fired
    exact view_eq_of_heap (List.getElem?_append_left known) fun _ _ => rfl
  · obtain ⟨kept, unseen⟩ := invariant.mutate given fun dict => dict.insert key value
    exact ⟨kept, fun elsewhere _ => .inl (unseen elsewhere)⟩
  · obtain ⟨stack, restacked⟩ := restack_spec moved.2
    exact ⟨invariant.restack found moved.1 moved.2,
      fun elsewhere _ => .inl (restacked.view elsewhere)⟩
  · obtain ⟨context, current, fired⟩ := operated
    exact invariant.operate found about current fired

end CtxState

theorem ctxState_invariant {Value : Type*} {state : CtxState Value}
    (reachable : (ctxMachine Value).Reachable state) : state.Invariant := by
  refine Machine.Reachable.invariant ?_ ?_ reachable
  case refine_2 => exact fun holds fired => (holds.step fired).1
  constructor
  case owned =>
    refine ⟨[], rfl, ?_, ?_, ?_⟩
    · exact fun context address held => by simp [ctxMachine, CtxState.start] at held
    · exact fun index thread address found => by simp [ctxMachine, CtxState.start] at found
    · exact fun address given => by simp [ctxMachine, CtxState.start] at given
  case tracks =>
    intro index thread setting found
    simp [ctxMachine, CtxState.start] at found
  case spread =>
    constructor
    · exact fun index thread found => by simp [ctxMachine, CtxState.start] at found
    · exact fun index thread found => by simp [ctxMachine, CtxState.start] at found
    · exact fun index other thread there context found => by
        simp [ctxMachine, CtxState.start] at found
    · exact fun index thread found => by simp [ctxMachine, CtxState.start] at found

/-! ## A request leaves no trace -/

namespace CtxState

variable {Value : Type*} {state next before after : CtxState Value} {index context : Nat}
  {thread : CtxThread Value} {event : CtxEvent Value} {base : List CtxFrame}

/-- A thread is inside something it entered on top of `base`. -/
def Above (state : CtxState Value) (index : Nat) (base : List CtxFrame) : Prop :=
  ∃ thread upper, state.threads[index]? = some thread ∧ thread.frames = upper ++ base ∧ upper ≠ []

/-- What a thread was in when it had entered `depth` things is below it, and its code does not run
in the context it was in then. -/
def Elsewhere (state : CtxState Value) (index depth context : Nat) : Prop :=
  ∀ thread, state.threads[index]? = some thread →
    depth < thread.frames.length ∧ thread.current? ≠ some context

/-- The frames of a thread, if it was started. -/
def frames? (state : CtxState Value) (index : Nat) : Option (List CtxFrame) :=
  (state.threads[index]?).map CtxThread.frames

theorem frames?_set {setting : Option (Setting Value)}
    (found : state.threads[index]? = some thread)
    (threads : next.threads = state.threads.set index { thread with setting }) (other : Nat) :
    next.frames? other = state.frames? other := by
  rw [frames?, frames?, threads, getElem?_set_thread found]
  split
  · rename_i same
    rw [← same, found]
    rfl
  · rfl

theorem frames?_operate (found : state.threads[index]? = some thread)
    (fired : state.operate index context thread event = some next) (other : Nat) :
    next.frames? other = state.frames? other := by
  unfold operate at fired
  split at fired
  · obtain rfl := Option.some.inj fired
    rfl
  · obtain rfl := Option.some.inj fired
    exact frames?_set found rfl other
  · obtain rfl := Option.some.inj fired
    exact frames?_set found rfl other
  · obtain rfl := Option.some.inj fired
    exact frames?_set found rfl other
  · obtain rfl := Option.some.inj fired
    exact frames?_set found rfl other
  · obtain rfl := Option.some.inj fired
    rfl
  · obtain rfl := Option.some.inj fired
    rfl
  · cases fired

/-- A step leaves a thread's frames, pushes on them, pops them or replaces the top. -/
theorem frames?_step (fired : state.step event = some next) {frames : List CtxFrame}
    (located : state.frames? index = some frames) :
    ∃ later, next.frames? index = some later ∧ Shape frames later := by
  obtain ⟨thread, found, rfl⟩ := Option.map_eq_some_iff.mp located
  obtain rfl | ⟨address, key, value, given, rfl⟩ |
    ⟨mover, moving, about, started, moved | operated⟩ := step_cases fired
  · obtain rfl := Option.some.inj fired
    refine ⟨thread.frames, ?_, .inl rfl⟩
    rw [frames?, List.getElem?_append_left (List.getElem?_eq_some_iff.mp found).1, found]
    rfl
  · exact ⟨thread.frames, located, .inl rfl⟩
  · obtain ⟨stack, restacked⟩ := restack_spec moved.2
    by_cases same : mover = index
    · subst same
      obtain rfl := Option.some.inj (started.symm.trans found)
      refine ⟨_, ?_, restacked.shape⟩
      rw [frames?, restacked.threads, getElem?_set_thread found, if_pos rfl]
      rfl
    · refine ⟨thread.frames, ?_, .inl rfl⟩
      rw [frames?, restacked.threads, getElem?_set_thread started, if_neg same, found]
      rfl
  · obtain ⟨context, current, fired⟩ := operated
    exact ⟨thread.frames, (frames?_operate started fired index).trans located, .inl rfl⟩

/-- Frames that stay longer than what they were built on keep it. -/
theorem exists_upper {upper later : List CtxFrame} (nonempty : upper ≠ [])
    (shape : Shape (upper ++ base) later) (longer : base.length < later.length) :
    ∃ above, later = above ++ base ∧ above ≠ [] := by
  obtain ⟨top, upper, rfl⟩ := List.exists_cons_of_ne_nil nonempty
  have last : later ≠ [] := by
    rintro rfl
    exact Nat.not_lt_zero _ longer
  obtain ⟨first, rest, rfl⟩ := List.exists_cons_of_ne_nil last
  obtain same | same | same | same := shape
  · exact ⟨top :: upper, same, List.cons_ne_nil _ _⟩
  · exact ⟨first :: top :: upper, congrArg (List.cons first) same, List.cons_ne_nil _ _⟩
  · refine ⟨upper, same, ?_⟩
    rintro rfl
    rw [same] at longer
    exact Nat.lt_irrefl _ longer
  · exact ⟨first :: upper, congrArg (List.cons first) same, List.cons_ne_nil _ _⟩

/-- Frames that are back at the length of what they were built on are that. -/
theorem eq_base {upper later : List CtxFrame} (nonempty : upper ≠ [])
    (shape : Shape (upper ++ base) later) (back : later.length = base.length) : later = base := by
  obtain ⟨top, upper, rfl⟩ := List.exists_cons_of_ne_nil nonempty
  have lengths : later.tail.length = later.length - 1 := List.length_tail
  obtain same | same | same | same := shape
  · rw [same, List.length_append, List.length_cons] at back
    omega
  · rw [same, List.length_append, List.length_cons] at lengths
    omega
  · rw [List.cons_append, List.tail_cons] at same
    rw [same, List.length_append] at back
    rw [same, List.eq_nil_of_length_eq_zero (by omega : upper.length = 0), List.nil_append]
  · rw [List.cons_append, List.tail_cons] at same
    rw [same, List.length_append] at lengths
    rw [List.eq_nil_of_length_eq_zero (by omega : later.length = 0),
      List.eq_nil_of_length_eq_zero (by omega : base.length = 0)]

theorem Above.step (above : state.Above index base) (fired : state.step event = some next)
    (elsewhere : next.Elsewhere index base.length context) : next.Above index base := by
  obtain ⟨thread, upper, found, stacked, nonempty⟩ := above
  have located : state.frames? index = some (upper ++ base) := by
    rw [frames?, found, Option.map_some, stacked]
  obtain ⟨later, there, shape⟩ := frames?_step fired located
  obtain ⟨after, here, rfl⟩ := Option.map_eq_some_iff.mp there
  obtain ⟨rest, same, remains⟩ := exists_upper nonempty shape (elsewhere after here).1
  exact ⟨after, rest, here, same, remains⟩

/-- While a thread is inside something else, nothing changes the context it was in before. -/
theorem Invariant.view_of_above (invariant : state.Invariant) (above : state.Above index base)
    (below : CtxFrame.current? base = some context)
    (elsewhere : state.Elsewhere index base.length context)
    (fired : state.step event = some next) : next.view context = state.view context := by
  obtain ⟨thread, upper, found, stacked, nonempty⟩ := above
  have member : context ∈ thread.entered := by
    rw [CtxThread.entered, stacked, List.filterMap_append]
    exact List.mem_append_right _ (mem_of_current below)
  have known := invariant.spread.inContexts index thread found context member
  refine ((invariant.step fired).2 context known).resolve_right ?_
  rintro ⟨other, there, here, current, -⟩
  obtain rfl := invariant.spread.apart index other thread there context found here member
    (mem_entered_of_current current)
  exact (elsewhere there here).2 current

theorem view_of_runFrom (reachable : (ctxMachine Value).Reachable before)
    (above : before.Above index base) (below : CtxFrame.current? base = some context)
    {schedule : List (CtxEvent Value)}
    (execution : (ctxMachine Value).runFrom before schedule = some after)
    (elsewhere : ∀ front, front <+: schedule → ∀ middle,
      (ctxMachine Value).runFrom before front = some middle →
        middle.Elsewhere index base.length context) :
    after.Above index base ∧ after.view context = before.view context := by
  induction schedule generalizing before with
  | nil =>
      obtain rfl := Option.some.inj execution
      exact ⟨above, rfl⟩
  | cons event schedule induction =>
      obtain ⟨middle, fired, execution⟩ := Option.bind_eq_some_iff.mp execution
      have onward {front : List (CtxEvent Value)} {reached : CtxState Value}
          (execution : (ctxMachine Value).runFrom middle front = some reached) :
          (ctxMachine Value).runFrom before (event :: front) = some reached :=
        Option.bind_eq_some_iff.mpr ⟨middle, fired, execution⟩
      have one := (Machine.runFrom_singleton _ _).trans fired
      have still := above.step fired (elsewhere [event] (by simp) middle one)
      obtain ⟨final, same⟩ := induction (reachable.runFrom one) still execution
        fun front initial reached run =>
          elsewhere (event :: front) (List.cons_prefix_cons.mpr ⟨rfl, initial⟩) reached (onward run)
      refine ⟨final, same.trans ?_⟩
      exact (ctxState_invariant reachable).view_of_above above below
        (elsewhere [] List.nil_prefix before rfl) fired

theorem step_restack (found : state.threads[index]? = some thread)
    (unset : thread.setting = none) (about : thread? event = some index)
    (moving : moves event = true) : state.step event = state.restack index thread event := by
  have free : thread.setting.isNone = true := Option.isNone_iff_eq_none.mpr unset
  unfold step
  split
  · cases moving
  · cases moving
  · rw [about, Option.bind_some, found, Option.bind_some, if_pos moving, if_pos free]

/-- What holds of the contexts at any moment. -/
structure Isolated (state : CtxState Value) : Prop where
  /-- No two threads are in one context. -/
  exclusive : ∀ (index other : Nat) (thread there : CtxThread Value) (context : Nat),
    state.threads[index]? = some thread → state.threads[other]? = some there →
      thread.current? = some context → there.current? = some context → index = other
  /-- What a context reads changes only by a `set` or a `clear` of the thread inside it. -/
  inside : ∀ event next, state.step event = some next → ∀ context < state.contexts.length,
    next.view context = state.view context ∨ Changes state next event context
  /-- A `set` that publishes a key and a value has had them since it began. -/
  sets : ∀ (index : Nat) (thread : CtxThread Value) (fresh : Nat) (key : String) (value : Value),
    state.threads[index]? = some thread → thread.setting = some (.stored fresh key value) →
      ∃ context, thread.current? = some context ∧
        state.heap[fresh]? = some ((state.view context).insert key value)
  /-- A request begins in a context of its own that holds nothing. -/
  fresh : ∀ index next, state.step (.begin index) = some next →
    next.view state.contexts.length = ∅ ∧ ∃ thread, next.threads[index]? = some thread ∧
      thread.current? = some state.contexts.length
  /-- A copy of a context begins with what the context reads. -/
  copies : ∀ (index : Nat) (thread : CtxThread Value) (context : Nat),
    state.threads[index]? = some thread → thread.setting = none →
    thread.current? = some context →
    ∃ next, state.step (.copy index) = some next ∧
      next.contexts.length = state.contexts.length + 1 ∧
        next.view state.contexts.length = state.view context
  /-- After an awaitable a request is back in its context, unless a thread is in that: then the
  request goes on in the context below, and that is logged. -/
  resumes : ∀ (index : Nat) (thread : CtxThread Value) (context : Nat) (rest : List Activation),
    state.threads[index]? = some thread → thread.setting = none →
    thread.stack = .loop context :: rest →
    ∃ next there, state.step (.resume index) = some next ∧
      next.threads[index]? = some there ∧
        (state.isEntered context = false ∧ next.log = state.log ∧
            there.current? = some context ∨
          state.isEntered context = true ∧ next.log = state.log ++ [reenteringFailed] ∧
            there.current? = CtxFrame.current? (rest.map Activation.frame))
  /-- A request that ends in its own context leaves its thread where it was. -/
  finishes : ∀ (index : Nat) (thread : CtxThread Value) (context : Nat) (rest : List Activation),
    state.threads[index]? = some thread → thread.setting = none →
    thread.stack = .request context :: rest →
    ∃ next, state.step (.finish index) = some next ∧ next.log = state.log ∧
      next.threads[index]? = some { thread with stack := rest }
  /-- A request whose context cannot be left logs that. -/
  complains : ∀ (index : Nat) (thread : CtxThread Value) (next : CtxState Value),
    state.threads[index]? = some thread → state.step (.finish index) = some next →
    (∃ context rest, thread.stack = .request context :: rest) ∨
      next.log = state.log ++ [leavingFailed] ∧
        (next.frames? index = some thread.frames ∨
          next.frames? index = some thread.frames.tail ∧
            CtxFrame.current? thread.frames.tail = thread.current?)
  /-- Back where it was before a request that never ran in the context it was in, a thread reads
  what it read then, whatever ran meanwhile. -/
  leavesNoTrace : ∀ (index : Nat) (thread : CtxThread Value) (context : Nat),
    state.threads[index]? = some thread → thread.current? = some context →
    ∀ begun inner served next, state.step (.begin index) = some begun →
      (ctxMachine Value).runFrom begun inner = some served →
      (∀ front, front <+: inner → ∀ middle, (ctxMachine Value).runFrom begun front = some middle →
        middle.Elsewhere index thread.frames.length context) →
      served.view context = state.view context ∧
        (served.step (.finish index) = some next →
          (next.frames? index).map List.length = some thread.frames.length →
          next.frames? index = some thread.frames ∧ next.view context = state.view context)

theorem Invariant.resumes (invariant : state.Invariant)
    (found : state.threads[index]? = some thread) (unset : thread.setting = none)
    {rest : List Activation} (looping : thread.stack = .loop context :: rest) :
    ∃ next there, state.step (.resume index) = some next ∧
      next.threads[index]? = some there ∧
        (state.isEntered context = false ∧ next.log = state.log ∧
            there.current? = some context ∨
          state.isEntered context = true ∧ next.log = state.log ++ [reenteringFailed] ∧
            there.current? = CtxFrame.current? (rest.map Activation.frame)) := by
  have known := invariant.spread.loops index thread found context (looping ▸ List.mem_cons_self)
  have bound := (List.getElem?_eq_some_iff.mp found).1
  have moves : state.step (.resume index) = state.restack index thread (.resume index) :=
    step_restack found unset rfl rfl
  simp only [CtxState.restack, looping] at moves
  cases free : state.isEntered context with
  | false =>
      rw [if_pos ⟨known, free⟩] at moves
      exact ⟨_, _, moves, List.getElem?_set_self bound, .inl ⟨rfl, rfl, rfl⟩⟩
  | true =>
      rw [if_neg (by rw [free]; exact fun both => Bool.noConfusion both.2)] at moves
      exact ⟨_, _, moves, List.getElem?_set_self bound, .inr ⟨rfl, rfl, rfl⟩⟩

theorem finish_request (found : state.threads[index]? = some thread)
    (unset : thread.setting = none) {rest : List Activation}
    (inside : thread.stack = .request context :: rest) :
    ∃ next, state.step (.finish index) = some next ∧ next.log = state.log ∧
      next.threads[index]? = some { thread with stack := rest } := by
  have moves : state.step (.finish index) = state.restack index thread (.finish index) :=
    step_restack found unset rfl rfl
  simp only [CtxState.restack, inside] at moves
  exact ⟨_, moves, rfl, List.getElem?_set_self (List.getElem?_eq_some_iff.mp found).1⟩

theorem finish_cases (found : state.threads[index]? = some thread)
    (fired : state.step (.finish index) = some next) :
    (∃ context rest, thread.stack = .request context :: rest) ∨
      next.log = state.log ++ [leavingFailed] ∧
        (next.frames? index = some thread.frames ∨
          next.frames? index = some thread.frames.tail ∧
            CtxFrame.current? thread.frames.tail = thread.current?) := by
  have bound := (List.getElem?_eq_some_iff.mp found).1
  have located (stack : List Activation) (line : String) :
      (state.complain index { thread with stack } line).frames? index =
        some (stack.map Activation.frame) := by
    rw [frames?, complain, List.getElem?_set_self bound]
    rfl
  obtain ⟨there, here, fired⟩ := Option.bind_eq_some_iff.mp fired
  obtain rfl := Option.some.inj (found.symm.trans here)
  rw [if_pos (show moves (.finish index : CtxEvent Value) = true from rfl)] at fired
  split at fired
  · simp only [CtxState.restack] at fired
    split at fired
    · rename_i stack
      exact .inl ⟨_, _, stack⟩
    · rename_i stack
      obtain rfl := Option.some.inj fired
      have frames := congrArg (List.map Activation.frame) stack
      refine .inr ⟨rfl, .inr ⟨?_, ?_⟩⟩
      · rw [located, CtxThread.frames, frames]
        rfl
      · rw [CtxThread.current?, CtxThread.frames, frames]
        rfl
    · obtain ⟨stack, left, rfl⟩ := Option.map_eq_some_iff.mp fired
      exact .inr ⟨rfl, .inl (by rw [located, frames_leaveBehind left]; rfl)⟩
  · cases fired

theorem step_copy (found : state.threads[index]? = some thread) (unset : thread.setting = none)
    (current : thread.current? = some context) :
    state.step (.copy index) = some (state.copyContext context) := by
  simp only [step, thread?, Option.bind_some, found, moves, current, operate, unset,
    Bool.false_eq_true, if_false]

end CtxState

theorem begin_cases {Value : Type*} {state next : CtxState Value} {index : Nat}
    (fired : state.step (.begin index) = some next) :
    ∃ thread, state.threads[index]? = some thread ∧ next =
      { state with
        contexts := state.contexts ++ [none]
        threads := state.threads.set index
          { thread with stack := .request state.contexts.length :: thread.stack } } := by
  obtain ⟨thread, found, fired⟩ := Option.bind_eq_some_iff.mp fired
  rw [if_pos (show CtxState.moves (.begin index : CtxEvent Value) = true from rfl)] at fired
  split at fired
  · obtain ⟨context, -, rfl⟩ := Option.map_eq_some_iff.mp fired
    exact ⟨thread, found, rfl⟩
  · cases fired

/-- A request that sets a key, awaits a task and ends. -/
def oneSets : List (CtxEvent Nat) :=
  [.startThread, .begin 0, .load 0 "user" 7, .duplicate 0, .store 0, .publish 0, .copy 0,
    .suspend 0, .wake 0 2, .snapshot 0, .yield 0, .mutate 1 "user" 9, .resume 0, .finish 0]

end Pyronova
