import Mathlib.Tactic
import Pyronova.Execution

/-!
# RSS sampling

Every server that serves with metrics holds the sampling.  The first holder starts the sampler
thread and the last one stops and joins it, under the lock that a new first holder needs, so there
is never a second thread.  What the metrics show is what the thread read last, and nothing once no
server samples.
-/

namespace Pyronova

/-- Where a run of `sample_rss_until_stopped` is. -/
inductive SamplerStage
  | reading
  /-- It has read and not yet published. -/
  | read (rss : Option Nat)
  /-- In `recv_timeout`. -/
  | waiting
  | exited (panicked : Bool)
  deriving DecidableEq

structure SamplerThread where
  stage : SamplerStage
  /-- The sender is not dropped. -/
  connected : Bool
  warnOnFailure : Bool
  /-- What it read, `none` where the read failed. -/
  reads : List (Option Nat)
  warnings : Nat
  /-- What it published last. -/
  published : Option Nat

/-- Who has the lock of the sampler. -/
inductive SamplerLock
  | free
  /-- The last holder's drop, which joins a thread. -/
  | joining (thread : Nat)
  /-- The last holder's drop, before it clears what the metrics show. -/
  | clearing
  deriving DecidableEq

structure Sampling where
  users : Nat
  /-- The thread of the sampler, one of those there ever were. -/
  thread : Option Nat
  threads : List SamplerThread
  lock : SamplerLock
  /-- `MEMORY_RSS_BYTES`. -/
  rss : Option Nat
  /-- The threads that were found panicked. -/
  panics : Nat

inductive SamplerStep
  | read (rss : Option Nat)
  | publish
  | timeOut
  | disconnect
  | panic

inductive SamplingEvent
  /-- `RssSampling::start`, where the thread can be spawned or not. -/
  | start (spawned : Bool)
  /-- A drop, as far as it needs no thread to end. -/
  | drop
  | join
  | clear
  | thread (index : Nat) (step : SamplerStep)

namespace SamplerThread

/-- A thread as it is spawned. -/
def spawned : SamplerThread where
  stage := .reading
  connected := true
  warnOnFailure := true
  reads := []
  warnings := 0
  published := none

/-- A failed read warns if the last one did not fail. -/
def afterRead (thread : SamplerThread) (rss : Option Nat) : SamplerThread :=
  { thread with
    stage := .read rss
    reads := thread.reads ++ [rss]
    warnOnFailure := rss.isSome
    warnings := if rss = none ∧ thread.warnOnFailure then thread.warnings + 1
      else thread.warnings }

def step (thread : SamplerThread) : SamplerStep → Option SamplerThread
  | .read rss => if thread.stage = .reading then some (thread.afterRead rss) else none
  | .publish =>
      match thread.stage with
      | .read rss => some { thread with stage := .waiting, published := rss }
      | _ => none
  | .timeOut =>
      if thread.stage = .waiting ∧ thread.connected then some { thread with stage := .reading }
      else none
  | .disconnect =>
      if thread.stage = .waiting ∧ ¬ thread.connected then
        some { thread with stage := .exited false }
      else none
  | .panic => if thread.stage = .reading then some { thread with stage := .exited true } else none

def isExited (thread : SamplerThread) : Bool :=
  match thread.stage with
  | .exited _ => true
  | _ => false

end SamplerThread

/-- What the metrics show after a step. -/
def SamplerStep.shown (rss : Option Nat) (after : SamplerThread) : SamplerStep → Option Nat
  | .publish => after.published
  | _ => rss

namespace Sampling

def init : Sampling where
  users := 0
  thread := none
  threads := []
  lock := .free
  rss := none
  panics := 0

/-- A thread goes on; publishing writes what the metrics show. -/
def advance (sampling : Sampling) (index : Nat) (thread : SamplerThread) (step : SamplerStep) :
    Option Sampling :=
  (thread.step step).map fun after =>
    { sampling with
      threads := sampling.threads.set index after
      rss := step.shown sampling.rss after }

def step (sampling : Sampling) : SamplingEvent → Option Sampling
  | .start spawned =>
      if sampling.lock = .free then
        if sampling.users = 0 ∧ spawned then
          some { sampling with
            users := 1
            thread := some sampling.threads.length
            threads := sampling.threads ++ [.spawned] }
        else some { sampling with users := sampling.users + 1 }
      else none
  | .drop =>
      if sampling.lock = .free ∧ 0 < sampling.users then
        if 1 < sampling.users then some { sampling with users := sampling.users - 1 }
        else
          match sampling.thread with
          | none => some { sampling with users := 0, lock := .clearing }
          | some index =>
              some { sampling with
                users := 0
                thread := none
                lock := .joining index
                threads := sampling.threads.modify index fun thread =>
                  { thread with connected := false } }
      else none
  | .join =>
      match sampling.lock with
      | .joining index =>
          match sampling.threads[index]?.map SamplerThread.stage with
          | some (.exited panicked) =>
              some { sampling with
                lock := .clearing
                panics := if panicked then sampling.panics + 1 else sampling.panics }
          | _ => none
      | _ => none
  | .clear =>
      if sampling.lock = .clearing then some { sampling with rss := none, lock := .free } else none
  | .thread index next =>
      sampling.threads[index]?.bind fun thread => sampling.advance index thread next

end Sampling

def samplingMachine : Machine Sampling SamplingEvent where
  init := .init
  step := Sampling.step

/-! ## What a thread keeps -/

/-- How many times a read failed right after one that did not, or at first. -/
def failureStreaks (fresh : Bool) : List (Option Nat) → Nat
  | [] => 0
  | some _ :: reads => failureStreaks true reads
  | none :: reads => (if fresh then 1 else 0) + failureStreaks false reads

/-- Whether a failure after these reads is the first of its streak. -/
def isFresh (fresh : Bool) (reads : List (Option Nat)) : Bool :=
  (reads.getLast?.map Option.isSome).getD fresh

theorem failureStreaks_concat (fresh : Bool) (reads : List (Option Nat)) (rss : Option Nat) :
    failureStreaks fresh (reads ++ [rss]) =
      failureStreaks fresh reads + if rss = none ∧ isFresh fresh reads then 1 else 0 := by
  induction reads generalizing fresh with
  | nil => cases rss <;> cases fresh <;> rfl
  | cons first reads induction =>
      have last : isFresh fresh (first :: reads) = isFresh first.isSome reads := by
        cases reads with
        | nil => rfl
        | cons second reads => simp [isFresh, List.getLast?_cons]
      rw [last]
      cases first with
      | some bytes =>
          rw [List.cons_append, failureStreaks, failureStreaks, induction]
          rfl
      | none =>
          rw [List.cons_append, failureStreaks, failureStreaks, induction, Nat.add_assoc]
          rfl

namespace SamplerThread

structure Sound (thread : SamplerThread) : Prop where
  warnings : thread.warnings = failureStreaks true thread.reads
  fresh : thread.warnOnFailure = isFresh true thread.reads
  /-- Without a panic the thread exits only once the sender is dropped. -/
  exited : thread.stage = .exited false → thread.connected = false
  /-- What it has to publish, and what it published before it waits, is what it read last. -/
  read : ∀ rss, thread.stage = .read rss → thread.reads.getLast? = some rss
  published : thread.stage = .waiting → thread.reads.getLast? = some thread.published

variable {thread after : SamplerThread}

theorem sound_spawned : spawned.Sound where
  warnings := rfl
  fresh := rfl
  exited := by
    intro other
    cases other
  read := by
    intro _ other
    cases other
  published := by
    intro other
    cases other

theorem Sound.disconnected (sound : thread.Sound) : Sound { thread with connected := false } where
  warnings := sound.warnings
  fresh := sound.fresh
  exited := fun _ => rfl
  read := sound.read
  published := sound.published

theorem Sound.afterRead (sound : thread.Sound) (rss : Option Nat) :
    (thread.afterRead rss).Sound where
  warnings := by
    show (if rss = none ∧ thread.warnOnFailure then thread.warnings + 1 else thread.warnings) =
      failureStreaks true (thread.reads ++ [rss])
    rw [failureStreaks_concat, ← sound.warnings, ← sound.fresh]
    split <;> rfl
  fresh := by
    show rss.isSome = isFresh true (thread.reads ++ [rss])
    rw [isFresh, List.getLast?_concat]
    rfl
  exited := by
    intro other
    cases other
  read := by
    rintro _ ⟨⟩
    exact List.getLast?_concat
  published := by
    intro other
    cases other

theorem connected_of_step {next : SamplerStep} (fired : thread.step next = some after) :
    after.connected = thread.connected := by
  cases next <;> rw [step] at fired <;> split at fired
  all_goals first
    | (obtain rfl := Option.some.inj fired
       rfl)
    | cases fired

theorem running_of_step {next : SamplerStep} (fired : thread.step next = some after) :
    thread.isExited = false := by
  cases stage : thread.stage with
  | exited => cases next <;> simp [step, stage] at fired
  | reading | read | waiting => rw [isExited, stage]

theorem Sound.step (sound : thread.Sound) {next : SamplerStep}
    (fired : thread.step next = some after) : after.Sound := by
  cases next with
  | read rss =>
      rw [SamplerThread.step] at fired
      split at fired
      · obtain rfl := Option.some.inj fired
        exact sound.afterRead rss
      · cases fired
  | publish =>
      rw [SamplerThread.step] at fired
      split at fired
      · rename_i rss stage
        obtain rfl := Option.some.inj fired
        exact ⟨sound.warnings, sound.fresh, nofun, nofun, fun _ => sound.read rss stage⟩
      · cases fired
  | disconnect =>
      rw [SamplerThread.step] at fired
      split at fired
      · rename_i stopped
        obtain rfl := Option.some.inj fired
        exact ⟨sound.warnings, sound.fresh, fun _ => by simpa using stopped.2, nofun, nofun⟩
      · cases fired
  | timeOut | panic =>
      rw [SamplerThread.step] at fired
      split at fired
      · obtain rfl := Option.some.inj fired
        exact ⟨sound.warnings, sound.fresh, nofun, nofun, nofun⟩
      · cases fired

end SamplerThread

/-! ## What every run keeps -/

namespace Sampling

def AllExited (sampling : Sampling) : Prop := ∀ thread ∈ sampling.threads, thread.isExited

/-- The thread with the index is the newest, and what it published is what the metrics show. -/
def Current (sampling : Sampling) (index : Nat) (connected : Bool) : Prop :=
  index + 1 = sampling.threads.length ∧ ∃ thread, sampling.threads[index]? = some thread ∧
    thread.connected = connected ∧ sampling.rss = thread.published

/-- Where the sampler stands, by who has its lock. -/
def Stands (sampling : Sampling) : SamplerLock → Prop
  | .free =>
      (∀ index, sampling.thread = some index → 0 < sampling.users ∧ sampling.Current index true) ∧
        (sampling.thread = none → sampling.AllExited ∧ sampling.rss = none)
  | .joining index => sampling.users = 0 ∧ sampling.thread = none ∧ sampling.Current index false
  | .clearing => sampling.users = 0 ∧ sampling.thread = none ∧ sampling.AllExited

structure Sound (sampling : Sampling) : Prop where
  threads : ∀ thread ∈ sampling.threads, thread.Sound
  /-- Every thread but the newest is gone. -/
  older : ∀ (index : Nat) thread, sampling.threads[index]? = some thread →
    index + 1 < sampling.threads.length → thread.isExited
  stands : sampling.Stands sampling.lock

variable {sampling after : Sampling}

theorem sound_init : init.Sound where
  threads := by
    intro thread member
    cases member
  older := by
    intro index thread found
    cases found
  stands := by
    refine ⟨nofun, fun _ => ⟨?_, rfl⟩⟩
    intro thread member
    cases member

/-- The newest thread has gone too. -/
theorem Sound.allExited (sound : sampling.Sound) {index : Nat} {thread : SamplerThread}
    (newest : index + 1 = sampling.threads.length) (found : sampling.threads[index]? = some thread)
    (exited : thread.isExited) : sampling.AllExited := by
  intro other member
  obtain ⟨place, bound, rfl⟩ := List.getElem_of_mem member
  by_cases last : place = index
  · obtain rfl := last
    rw [List.getElem?_eq_getElem bound] at found
    rwa [Option.some.inj found]
  · exact sound.older place _ (List.getElem?_eq_getElem bound) (by omega)

theorem Sound.spawn (sound : sampling.Sound) (idle : sampling.AllExited)
    (nothing : sampling.rss = none) (free : sampling.lock = .free) :
    ({ sampling with
        users := 1
        thread := some sampling.threads.length
        threads := sampling.threads ++ [.spawned] } : Sampling).Sound := by
  refine ⟨?_, ?_, ?_⟩
  · intro thread member
    rcases List.mem_append.mp member with old | new
    · exact sound.threads thread old
    · obtain rfl := List.mem_singleton.mp new
      exact SamplerThread.sound_spawned
  · intro index thread found older
    rw [List.length_append, List.length_singleton] at older
    rw [List.getElem?_append_left (by omega)] at found
    exact idle thread (List.mem_of_getElem? found)
  · show Stands _ sampling.lock
    rw [free]
    refine ⟨?_, nofun⟩
    rintro index ⟨⟩
    refine ⟨Nat.one_pos, ?_, .spawned, List.getElem?_concat_length, rfl, nothing⟩
    rw [List.length_append, List.length_singleton]

/-- A step of a thread: it is the newest, for the others are gone. -/
theorem Sound.thread (sound : sampling.Sound) {index : Nat} {thread next : SamplerThread}
    {step : SamplerStep} (found : sampling.threads[index]? = some thread)
    (fired : thread.step step = some next) {rss : Option Nat}
    (shown : rss = step.shown sampling.rss next) :
    ({ sampling with threads := sampling.threads.set index next, rss } : Sampling).Sound := by
  have running := SamplerThread.running_of_step fired
  have bound := (List.getElem?_eq_some_iff.mp found).1
  have newest : index + 1 = sampling.threads.length := by
    by_contra other
    have gone := sound.older index thread found (by omega)
    rw [running] at gone
    cases gone
  have busy : ¬ sampling.AllExited := by
    intro gone
    have none := gone thread (List.mem_of_getElem? found)
    rw [running] at none
    cases none
  -- only publishing changes what the thread has published
  have same (held : sampling.rss = thread.published) : rss = next.published := by
    rw [shown]
    cases step with
    | publish => rfl
    | read | timeOut | disconnect | panic =>
        rw [SamplerThread.step] at fired
        split at fired
        · obtain rfl := Option.some.inj fired
          exact held
        · cases fired
  have current {connected : Bool} (place : Nat) (held : sampling.Current place connected) :
      ({ sampling with threads := sampling.threads.set index next, rss } : Sampling).Current place
        connected := by
    obtain ⟨last, owner, owned, sender, published⟩ := held
    obtain rfl : place = index := by omega
    obtain rfl := Option.some.inj (found.symm.trans owned)
    refine ⟨last.trans (List.length_set).symm, next, List.getElem?_set_self bound, ?_,
      same published⟩
    exact (SamplerThread.connected_of_step fired).trans sender
  refine ⟨?_, ?_, ?_⟩
  · intro other member
    rcases List.mem_or_eq_of_mem_set member with old | rfl
    · exact sound.threads other old
    · exact (sound.threads thread (List.mem_of_getElem? found)).step fired
  · intro place other owned older
    have apart : index ≠ place := by
      rintro rfl
      rw [List.length_set] at older
      omega
    rw [List.length_set] at older
    exact sound.older place other ((List.getElem?_set_ne apart).symm.trans owned) older
  · have stands := sound.stands
    show Stands _ sampling.lock
    cases lock : sampling.lock with
    | free =>
        rw [lock] at stands
        refine ⟨?_, fun none => absurd (stands.2 none).1 busy⟩
        intro place named
        obtain ⟨some, held⟩ := stands.1 place named
        exact ⟨some, current place held⟩
    | joining place =>
        rw [lock] at stands
        exact ⟨stands.1, stands.2.1, current place stands.2.2⟩
    | clearing =>
        rw [lock] at stands
        exact absurd stands.2.2 busy

theorem Sound.start (sound : sampling.Sound) {spawned : Bool}
    (fired : sampling.step (.start spawned) = some after) : after.Sound := by
  have stands := sound.stands
  rw [Sampling.step] at fired
  split at fired
  · rename_i free
    rw [free] at stands
    split at fired
    · rename_i first
      obtain rfl := Option.some.inj fired
      have none : sampling.thread = none := by
        cases thread : sampling.thread with
        | none => rfl
        | some index => exact absurd first.1 (stands.1 index thread).1.ne'
      obtain ⟨idle, nothing⟩ := stands.2 none
      exact sound.spawn idle nothing free
    · obtain rfl := Option.some.inj fired
      refine ⟨sound.threads, sound.older, ?_⟩
      show Stands _ sampling.lock
      rw [free]
      exact ⟨fun index named => ⟨Nat.succ_pos _, (stands.1 index named).2⟩, stands.2⟩
  · cases fired

/-- The last holder hangs up on the thread. -/
theorem Sound.hangUp (sound : sampling.Sound) {index : Nat} (held : sampling.Current index true) :
    ({ sampling with
        users := 0
        thread := none
        lock := .joining index
        threads := sampling.threads.modify index fun thread =>
          { thread with connected := false } } : Sampling).Sound := by
  obtain ⟨newest, owner, found, _, published⟩ := held
  have modified (place : Nat) (thread : SamplerThread)
      (owned : (sampling.threads.modify index fun thread =>
        { thread with connected := false })[place]? = some thread) :
      ∃ before, sampling.threads[place]? = some before ∧
        (thread = before ∨ place = index ∧ thread = { before with connected := false }) := by
    rw [List.getElem?_modify] at owned
    obtain ⟨before, held, rfl⟩ := Option.map_eq_some_iff.mp owned
    refine ⟨before, held, ?_⟩
    by_cases same : index = place
    · exact .inr ⟨same.symm, if_pos same⟩
    · exact .inl (if_neg same)
  refine ⟨?_, ?_, rfl, rfl, ?_⟩
  · intro thread member
    obtain ⟨place, bound, same⟩ := List.getElem_of_mem member
    obtain ⟨before, held, rfl | ⟨_, rfl⟩⟩ :=
      modified place thread (List.getElem?_eq_some_iff.mpr ⟨bound, same⟩)
    · exact sound.threads _ (List.mem_of_getElem? held)
    · exact (sound.threads before (List.mem_of_getElem? held)).disconnected
  · intro place thread owned older
    rw [List.length_modify] at older
    obtain ⟨before, held, rfl | ⟨same, _⟩⟩ := modified place thread owned
    · exact sound.older place _ held older
    · omega
  · refine ⟨newest.trans (List.length_modify _ _ _).symm, { owner with connected := false }, ?_,
      rfl, published⟩
    rw [List.getElem?_modify_eq, found]
    rfl

theorem Sound.drop (sound : sampling.Sound) (fired : sampling.step .drop = some after) :
    after.Sound := by
  have stands := sound.stands
  rw [Sampling.step] at fired
  split at fired
  · rename_i held
    rw [held.1] at stands
    split at fired
    · obtain rfl := Option.some.inj fired
      refine ⟨sound.threads, sound.older, ?_⟩
      show Stands _ sampling.lock
      rw [held.1]
      refine ⟨fun index named => ⟨?_, (stands.1 index named).2⟩, stands.2⟩
      show 0 < sampling.users - 1
      omega
    · split at fired
      · rename_i none
        obtain rfl := Option.some.inj fired
        exact ⟨sound.threads, sound.older, rfl, none, (stands.2 none).1⟩
      · rename_i index named
        obtain rfl := Option.some.inj fired
        exact sound.hangUp (stands.1 index named).2
  · cases fired

theorem Sound.join (sound : sampling.Sound) (fired : sampling.step .join = some after) :
    after.Sound := by
  have stands := sound.stands
  rw [Sampling.step] at fired
  split at fired
  · rename_i index joining
    split at fired
    · rename_i panicked ended
      obtain rfl := Option.some.inj fired
      rw [joining] at stands
      obtain ⟨thread, found, exited⟩ := Option.map_eq_some_iff.mp ended
      have gone := sound.allExited stands.2.2.1 found (by rw [SamplerThread.isExited, exited])
      exact ⟨sound.threads, sound.older, stands.1, stands.2.1, gone⟩
    · cases fired
  · cases fired

theorem Sound.clear (sound : sampling.Sound) (fired : sampling.step .clear = some after) :
    after.Sound := by
  have stands := sound.stands
  rw [Sampling.step] at fired
  split at fired
  · rename_i clearing
    obtain rfl := Option.some.inj fired
    rw [clearing] at stands
    refine ⟨sound.threads, sound.older, ?_, fun _ => ⟨stands.2.2, rfl⟩⟩
    intro index named
    rw [stands.2.1] at named
    cases named
  · cases fired

theorem Sound.step (sound : sampling.Sound) {event : SamplingEvent}
    (fired : sampling.step event = some after) : after.Sound := by
  cases event with
  | start spawned => exact sound.start fired
  | drop => exact sound.drop fired
  | join => exact sound.join fired
  | clear => exact sound.clear fired
  | thread index next =>
      obtain ⟨thread, found, advanced⟩ := Option.bind_eq_some_iff.mp fired
      obtain ⟨stepped, moved, rfl⟩ := Option.map_eq_some_iff.mp advanced
      exact sound.thread found moved rfl

/-! ## The last drop -/

/-- From the sampler's lock on, the drop comes to its end: the thread needs no one else. -/
def Returns (sampling : Sampling) : Prop :=
  ∃ schedule after, samplingMachine.runFrom sampling schedule = some after ∧ after.lock = .free ∧
    (∀ event ∈ schedule, event = .join ∨ event = .clear ∨ ∃ index step, event = .thread index step)

theorem Returns.of_step (event : SamplingEvent) (fired : sampling.step event = some after)
    (own : event = .join ∨ event = .clear ∨ ∃ index step, event = .thread index step)
    (returns : after.Returns) : sampling.Returns := by
  obtain ⟨schedule, last, execution, free, owns⟩ := returns
  refine ⟨event :: schedule, last, Option.bind_eq_some_iff.mpr ⟨after, fired, execution⟩, free, ?_⟩
  intro other member
  rcases List.mem_cons.mp member with rfl | later
  · exact own
  · exact owns other later

theorem returns_of_clearing (clearing : sampling.lock = .clearing) : sampling.Returns := by
  refine Returns.of_step .clear (if_pos clearing) (.inr (.inl rfl)) ⟨[], _, rfl, rfl, ?_⟩
  intro event member
  cases member

variable {index : Nat} {thread : SamplerThread}

theorem returns_of_exited {panicked : Bool} (joining : sampling.lock = .joining index)
    (found : sampling.threads[index]? = some thread) (exited : thread.stage = .exited panicked) :
    sampling.Returns := by
  have fired : sampling.step .join = some { sampling with
      lock := .clearing
      panics := if panicked then sampling.panics + 1 else sampling.panics } := by
    simp only [Sampling.step, joining, found, Option.map_some, exited]
  exact Returns.of_step .join fired (.inl rfl) (returns_of_clearing rfl)

/-- A step of the thread that is joined. -/
theorem Returns.of_thread {next : SamplerThread} {step : SamplerStep}
    (found : sampling.threads[index]? = some thread) (moved : thread.step step = some next)
    (returns : Returns { sampling with
      threads := sampling.threads.set index next
      rss := step.shown sampling.rss next }) : sampling.Returns := by
  refine Returns.of_step (.thread index step) ?_ (.inr (.inr ⟨index, step, rfl⟩)) returns
  rw [Sampling.step, found, Option.bind_some, advance, moved]
  rfl

theorem returns_of_waiting (joining : sampling.lock = .joining index)
    (found : sampling.threads[index]? = some thread) (alone : thread.connected = false)
    (waiting : thread.stage = .waiting) : sampling.Returns := by
  have bound := (List.getElem?_eq_some_iff.mp found).1
  have leaves : thread.step .disconnect = some { thread with stage := .exited false } := by
    rw [SamplerThread.step, if_pos ⟨waiting, by simp [alone]⟩]
  exact .of_thread found leaves (returns_of_exited joining (List.getElem?_set_self bound) rfl)

theorem returns_of_read {rss : Option Nat} (joining : sampling.lock = .joining index)
    (found : sampling.threads[index]? = some thread) (alone : thread.connected = false)
    (read : thread.stage = .read rss) : sampling.Returns := by
  have bound := (List.getElem?_eq_some_iff.mp found).1
  have publishes :
      thread.step .publish = some { thread with stage := .waiting, published := rss } := by
    rw [SamplerThread.step, read]
  exact .of_thread found publishes
    (returns_of_waiting joining (List.getElem?_set_self bound) alone rfl)

/-- A thread that was hung up on reads once more at most. -/
theorem returns_of_joining (joining : sampling.lock = .joining index)
    (found : sampling.threads[index]? = some thread) (alone : thread.connected = false) :
    sampling.Returns := by
  have bound := (List.getElem?_eq_some_iff.mp found).1
  cases stage : thread.stage with
  | reading =>
      have reads : thread.step (.read none) = some (thread.afterRead none) := if_pos stage
      exact .of_thread found reads
        (returns_of_read joining (List.getElem?_set_self bound) alone rfl)
  | read rss => exact returns_of_read joining found alone stage
  | waiting => exact returns_of_waiting joining found alone stage
  | exited panicked => exact returns_of_exited joining found stage

/-- What the sampler comes to, whichever servers start and stop. -/
structure SamplingSound (sampling : Sampling) : Prop where
  single : ∀ (one other : Nat) first second, sampling.threads[one]? = some first →
    sampling.threads[other]? = some second → ¬ first.isExited → ¬ second.isExited → one = other
  /-- With no holder nothing runs, and the metrics show nothing. -/
  idle : sampling.lock = .free → sampling.users = 0 → sampling.AllExited ∧ sampling.rss = none
  /-- From its start until it is joined, the metrics show what the sampler's thread, the newest,
  published last. -/
  shown : ∀ index, sampling.lock = .free ∧ sampling.thread = some index ∨
      sampling.lock = .joining index →
    ∃ thread, sampling.threads[index]? = some thread ∧
      sampling.threads.getLast? = some thread ∧ sampling.rss = thread.published
  /-- Without a thread, they show nothing. -/
  unsampled : sampling.lock = .free → sampling.thread = none →
    sampling.AllExited ∧ sampling.rss = none
  /-- A failing read is warned about once for each time it begins to fail. -/
  warned : ∀ thread ∈ sampling.threads, thread.warnings = failureStreaks true thread.reads
  /-- What a waiting thread has published is what it read last. -/
  published : ∀ thread ∈ sampling.threads, thread.stage = .waiting →
    thread.reads.getLast? = some thread.published
  returns : sampling.lock ≠ .free → sampling.Returns

end Sampling

theorem sampling_sound {sampling : Sampling} (reachable : samplingMachine.Reachable sampling) :
    sampling.SamplingSound := by
  have sound : sampling.Sound := by
    refine Machine.Reachable.invariant ?_ ?_ reachable
    case refine_1 => exact Sampling.sound_init
    case refine_2 => exact fun held fired => held.step fired
  have stands := sound.stands
  have newest {index : Nat} {connected : Bool} (current : sampling.Current index connected) :
      ∃ thread, sampling.threads[index]? = some thread ∧
        sampling.threads.getLast? = some thread ∧ sampling.rss = thread.published := by
    obtain ⟨last, thread, found, -, published⟩ := current
    refine ⟨thread, found, ?_, published⟩
    rw [List.getLast?_eq_getElem?, ← last, Nat.add_sub_cancel, found]
  refine ⟨?_, ?_, ?_, ?_, fun thread member => (sound.threads thread member).warnings,
    fun thread member => (sound.threads thread member).published, ?_⟩
  · intro one other first second foundOne foundOther runs runsOther
    have short := (List.getElem?_eq_some_iff.mp foundOne).1
    have shortOther := (List.getElem?_eq_some_iff.mp foundOther).1
    have last : ¬ one + 1 < sampling.threads.length := fun older =>
      runs (sound.older one first foundOne older)
    have lastOther : ¬ other + 1 < sampling.threads.length := fun older =>
      runsOther (sound.older other second foundOther older)
    omega
  · intro free none
    rw [free] at stands
    apply stands.2
    cases thread : sampling.thread with
    | none => rfl
    | some index => exact absurd none (stands.1 index thread).1.ne'
  · rintro index (⟨free, thread⟩ | joining)
    · rw [free] at stands
      exact newest (stands.1 index thread).2
    · rw [joining] at stands
      exact newest stands.2.2
  · intro free thread
    rw [free] at stands
    exact stands.2 thread
  · intro held
    cases lock : sampling.lock with
    | free => exact absurd lock held
    | joining index =>
        rw [lock] at stands
        obtain ⟨_, _, _, thread, found, alone, _⟩ := stands
        exact Sampling.returns_of_joining lock found alone
    | clearing => exact Sampling.returns_of_clearing lock

/-- Two servers sample, the read fails twice, and both stop. -/
def twoServersSample : List SamplingEvent :=
  [.start true, .thread 0 (.read (some 4096)), .start true, .thread 0 .publish, .drop,
    .thread 0 .timeOut, .thread 0 (.read none), .thread 0 .publish, .thread 0 .timeOut,
    .thread 0 (.read none), .drop, .thread 0 .publish, .thread 0 .disconnect, .join, .clear,
    .start true]

theorem sampling_sound_twoServersSample :
    ∃ sampling, samplingMachine.run twoServersSample = some sampling ∧
      sampling.threads.map SamplerThread.warnings = [1, 0] ∧ sampling.SamplingSound :=
  ⟨_, rfl, rfl, sampling_sound ⟨twoServersSample, rfl⟩⟩

end Pyronova
