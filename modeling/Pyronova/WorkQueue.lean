import Mathlib.Tactic

/-!
# A bounded queue of work

Senders put items into a bounded queue without waiting, and workers take them out.  An item is taken
by one worker at most.  Workers leave once the queue is closed and empty, and one may be lost at any
moment, with the item it has; with the last worker goes what is still queued.
-/

inductive ItemPlace
  /-- Not sent, or refused. -/
  | outside
  | queued
  | taken (worker : Nat)
  /-- Let go by the worker that had it, or discarded. -/
  | done
  deriving DecidableEq, Repr

inductive QueueWorker
  | idle
  | busy (item : Nat)
  | gone
  deriving DecidableEq, Repr

inductive SendRefusal
  | full
  | disconnected
  deriving DecidableEq, Repr

structure WorkQueue where
  capacity : Nat
  isOpen : Bool
  workers : List QueueWorker
  queue : List Nat
  /-- Every item there is, by number. -/
  items : List ItemPlace

namespace WorkQueue

def new (capacity : Nat) : WorkQueue where
  capacity
  isOpen := true
  workers := []
  queue := []
  items := []

def hire (work : WorkQueue) : WorkQueue := { work with workers := work.workers ++ [.idle] }

def close (work : WorkQueue) : WorkQueue := { work with isOpen := false }

/-- Another item, not sent so far. -/
def add (work : WorkQueue) : WorkQueue := { work with items := work.items ++ [.outside] }

/-- No worker is there to receive. -/
def isDeserted (work : WorkQueue) : Bool := work.workers.all (· == .gone)

def trySend (work : WorkQueue) (item : Nat) : Except SendRefusal WorkQueue :=
  if work.isDeserted then .error .disconnected
  else if work.queue.length < work.capacity then
    .ok { work with queue := work.queue ++ [item], items := work.items.set item .queued }
  else .error .full

/-- An idle worker takes the first item of the queue. -/
def take (work : WorkQueue) (worker : Nat) : Option (Nat × WorkQueue) :=
  match work.workers[worker]?, work.queue with
  | some .idle, item :: queue =>
      some (item,
        { work with
          workers := work.workers.set worker (.busy item)
          queue
          items := work.items.set item (.taken worker) })
  | _, _ => none

/-- A worker is done with its item. -/
def finish (work : WorkQueue) (worker : Nat) : Option (Nat × WorkQueue) :=
  match work.workers[worker]? with
  | some (.busy item) =>
      some (item,
        { work with
          workers := work.workers.set worker .idle
          items := work.items.set item .done })
  | _ => none

/-- A worker finds the queue closed and empty. -/
def leave (work : WorkQueue) (worker : Nat) : Option WorkQueue :=
  match work.workers[worker]? with
  | some .idle =>
      if work.isOpen = false ∧ work.queue = [] then
        some { work with workers := work.workers.set worker .gone }
      else none
  | _ => none

/-- Where an item is once a worker is lost. -/
def afterLoss (deserted : Bool) (worker : Nat) (place : ItemPlace) : ItemPlace :=
  if place = .taken worker ∨ (deserted = true ∧ place = .queued) then .done else place

/-- A worker is lost, whatever it was at. -/
def lose (work : WorkQueue) (worker : Nat) : WorkQueue :=
  let workers := work.workers.set worker .gone
  let deserted := workers.all (· == .gone)
  { work with
    workers
    queue := if deserted then [] else work.queue
    items := work.items.map (afterLoss deserted worker) }

/-! ## Where the items are -/

structure Sound (work : WorkQueue) : Prop where
  queued : ∀ item : Nat, item ∈ work.queue ↔ work.items[item]? = some .queued
  nodup : work.queue.Nodup
  taken : ∀ worker item : Nat,
    work.workers[worker]? = some (.busy item) ↔ work.items[item]? = some (.taken worker)
  bounded : work.queue.length ≤ work.capacity
  staffed : work.queue ≠ [] → ∃ worker ∈ work.workers, worker ≠ .gone

variable {work next : WorkQueue} {worker item : Nat}

theorem sound_new (capacity : Nat) : (new capacity).Sound where
  queued item := by simp [new]
  nodup := List.nodup_nil
  taken worker item := by simp [new]
  bounded := Nat.zero_le _
  staffed nonempty := absurd rfl nonempty

theorem isDeserted_iff : work.isDeserted = true ↔ ∀ worker ∈ work.workers, worker = .gone := by
  simp [isDeserted]

theorem Sound.close (sound : work.Sound) : work.close.Sound :=
  ⟨sound.queued, sound.nodup, sound.taken, sound.bounded, sound.staffed⟩

theorem Sound.hire (sound : work.Sound) : work.hire.Sound where
  queued := sound.queued
  nodup := sound.nodup
  taken worker item := by
    refine Iff.trans ?_ (sound.taken worker item)
    rw [WorkQueue.hire, List.getElem?_append]
    split
    · rfl
    · rename_i late
      rw [List.getElem?_eq_none (Nat.le_of_not_lt late)]
      cases worker - work.workers.length <;> simp
  bounded := sound.bounded
  staffed nonempty := by
    obtain ⟨worker, member, here⟩ := sound.staffed nonempty
    exact ⟨worker, List.mem_append_left _ member, here⟩

/-- One more item, which is nowhere yet, changes nothing for the others. -/
theorem items_add {place : ItemPlace} (sent : place ≠ .outside) (item : Nat) :
    work.add.items[item]? = some place ↔ work.items[item]? = some place := by
  rw [add, List.getElem?_append]
  split
  · rfl
  · rename_i late
    rw [List.getElem?_eq_none (Nat.le_of_not_lt late)]
    cases item - work.items.length with
    | zero => simpa using sent.symm
    | succ more => simp

theorem Sound.add (sound : work.Sound) : work.add.Sound where
  queued item := (sound.queued item).trans (items_add (by simp) item).symm
  nodup := sound.nodup
  taken worker item := (sound.taken worker item).trans (items_add (by simp) item).symm
  bounded := sound.bounded
  staffed := sound.staffed

/-- A place that an item had before, or has now. -/
theorem items_set {place other : ItemPlace} (known : item < work.items.length) (there : Nat) :
    (work.items.set item place)[there]? = some other ↔
      if item = there then place = other else work.items[there]? = some other := by
  rw [List.getElem?_set, if_pos known]
  split <;> simp

theorem lt_of_place {place : ItemPlace} (found : work.items[item]? = some place) :
    item < work.items.length := (List.getElem?_eq_some_iff.mp found).1

theorem Sound.trySend (sound : work.Sound) (outside : work.items[item]? = some .outside)
    (sent : work.trySend item = .ok next) :
    next.Sound ∧ next.items = work.items.set item .queued := by
  unfold WorkQueue.trySend at sent
  split at sent
  · cases sent
  · rename_i staffed
    split at sent
    · rename_i room
      obtain rfl := Except.ok.inj sent
      have known := lt_of_place outside
      have new : item ∉ work.queue := by
        rw [sound.queued, outside]
        simp
      refine ⟨⟨?_, ?_, ?_, ?_, ?_⟩, rfl⟩
      case refine_1 =>
        intro there
        rw [items_set known, List.mem_append, List.mem_singleton]
        split
        · rename_i same
          simp [same]
        · rename_i different
          rw [sound.queued]
          simp [Ne.symm different]
      case refine_2 => exact List.nodup_append.mpr ⟨sound.nodup, by simp, by
        intro a member b other
        rw [List.mem_singleton.mp other]
        rintro rfl
        exact new member⟩
      case refine_3 =>
        intro worker there
        rw [items_set known, sound.taken]
        split
        · rename_i same
          rw [← same, outside]
          simp
        · rfl
      case refine_4 =>
        rw [List.length_append, List.length_singleton]
        exact room
      case refine_5 =>
        intro _
        by_contra none
        refine staffed (isDeserted_iff.mpr fun worker member => ?_)
        by_contra here
        exact none ⟨worker, member, here⟩
    · cases sent

theorem Sound.take (sound : work.Sound) (fired : work.take worker = some (item, next)) :
    next.Sound ∧ work.items[item]? = some .queued ∧
      next.items = work.items.set item (.taken worker) := by
  unfold WorkQueue.take at fired
  split at fired
  · rename_i first queue idle nonempty
    obtain ⟨rfl, rfl⟩ := Prod.mk.inj (Option.some.inj fired)
    have queued : work.items[first]? = some .queued := by
      rw [← sound.queued, nonempty]
      exact List.mem_cons_self
    have known := lt_of_place queued
    have nodup := sound.nodup
    rw [nonempty, List.nodup_cons] at nodup
    refine ⟨⟨?_, nodup.2, ?_, ?_, ?_⟩, queued, rfl⟩
    case refine_1 =>
      intro there
      rw [items_set known]
      split
      · rename_i same
        subst same
        simp [nodup.1]
      · rename_i different
        rw [← sound.queued, nonempty, List.mem_cons]
        simp [Ne.symm different]
    case refine_2 =>
      intro other there
      rw [items_set known, List.getElem?_set, if_pos (List.getElem?_eq_some_iff.mp idle).1]
      by_cases sameWorker : worker = other
      · subst sameWorker
        rw [if_pos rfl]
        by_cases same : first = there
        · simp [same]
        · rw [if_neg same, ← sound.taken, idle]
          simp [same]
      · rw [if_neg sameWorker, sound.taken]
        by_cases same : first = there
        · subst same
          rw [if_pos rfl, queued]
          simp [sameWorker]
        · rw [if_neg same]
    case refine_3 =>
      have bound := sound.bounded
      rw [nonempty, List.length_cons] at bound
      exact (Nat.le_succ _).trans bound
    case refine_4 =>
      intro _
      refine ⟨.busy first, List.mem_iff_getElem?.mpr ⟨worker, ?_⟩, by simp⟩
      exact List.getElem?_set_self (List.getElem?_eq_some_iff.mp idle).1
  · cases fired

theorem Sound.finish (sound : work.Sound) (fired : work.finish worker = some (item, next)) :
    next.Sound ∧ work.items[item]? = some (.taken worker) ∧
      next.items = work.items.set item .done := by
  unfold WorkQueue.finish at fired
  split at fired
  · rename_i own busy
    obtain ⟨rfl, rfl⟩ := Prod.mk.inj (Option.some.inj fired)
    have taken := (sound.taken worker own).mp busy
    have known := lt_of_place taken
    refine ⟨⟨?_, sound.nodup, ?_, sound.bounded, ?_⟩, taken, rfl⟩
    case refine_1 =>
      intro there
      rw [items_set known, sound.queued]
      split
      · rename_i same
        rw [← same, taken]
        simp
      · rfl
    case refine_2 =>
      intro other there
      rw [items_set known, List.getElem?_set, if_pos (List.getElem?_eq_some_iff.mp busy).1]
      by_cases sameWorker : worker = other
      · subst sameWorker
        rw [if_pos rfl]
        by_cases same : own = there
        · simp [same]
        · rw [if_neg same, ← sound.taken, busy]
          simp [same]
      · rw [if_neg sameWorker, sound.taken]
        by_cases same : own = there
        · subst same
          rw [if_pos rfl, taken]
          simp [sameWorker]
        · rw [if_neg same]
    case refine_3 =>
      intro _
      refine ⟨.idle, List.mem_iff_getElem?.mpr ⟨worker, ?_⟩, by simp⟩
      exact List.getElem?_set_self (List.getElem?_eq_some_iff.mp busy).1
  · cases fired

theorem Sound.leave (sound : work.Sound) (fired : work.leave worker = some next) :
    next.Sound ∧ next.items = work.items := by
  unfold WorkQueue.leave at fired
  split at fired
  · rename_i idle
    split at fired
    · rename_i empty
      obtain rfl := Option.some.inj fired
      refine ⟨⟨sound.queued, sound.nodup, fun other there => ?_, sound.bounded, ?_⟩, rfl⟩
      · rw [← sound.taken, List.getElem?_set, if_pos (List.getElem?_eq_some_iff.mp idle).1]
        by_cases same : worker = other
        · subst same
          rw [if_pos rfl, idle]
          simp
        · rw [if_neg same]
      · exact fun nonempty => absurd empty.2 nonempty
    · cases fired
  · cases fired

theorem afterLoss_eq_queued {deserted : Bool} {place : ItemPlace} :
    afterLoss deserted worker place = .queued ↔ deserted = false ∧ place = .queued := by
  unfold afterLoss
  split
  · rename_i lost
    cases deserted <;> simp_all
  · rename_i kept
    cases deserted <;> simp_all

theorem afterLoss_eq_taken {deserted : Bool} {place : ItemPlace} {other : Nat} :
    afterLoss deserted worker place = .taken other ↔ other ≠ worker ∧ place = .taken other := by
  unfold afterLoss
  split
  · rename_i lost
    rcases lost with rfl | ⟨-, rfl⟩
    · simpa using fun different same => different same.symm
    · simp
  · rename_i kept
    simp only [not_or] at kept
    constructor
    · rintro rfl
      refine ⟨?_, rfl⟩
      rintro rfl
      exact kept.1 rfl
    · exact fun same => same.2

theorem Sound.lose (sound : work.Sound) (known : worker < work.workers.length) :
    (work.lose worker).Sound := by
  have places (item : Nat) (place : ItemPlace) (deserted : Bool) :
      (work.items.map (afterLoss deserted worker))[item]? = some place ↔
        ∃ before, work.items[item]? = some before ∧ afterLoss deserted worker before = place := by
    rw [List.getElem?_map, Option.map_eq_some_iff]
  unfold WorkQueue.lose
  constructor
  case queued =>
    intro item
    simp only [places, afterLoss_eq_queued]
    split
    · rename_i deserted
      simp [deserted]
    · rename_i staffed
      simp [staffed, sound.queued]
  case nodup =>
    simp only
    split
    · exact List.nodup_nil
    · exact sound.nodup
  case taken =>
    intro other item
    simp only [places, afterLoss_eq_taken]
    rw [List.getElem?_set, if_pos known]
    split
    · rename_i same
      simp [same]
    · rename_i different
      rw [sound.taken]
      simp [Ne.symm different]
  case bounded =>
    simp only
    split
    · exact Nat.zero_le _
    · exact sound.bounded
  case staffed =>
    simp only
    split
    · exact fun nonempty => absurd rfl nonempty
    · rename_i staffed
      intro _
      by_contra none
      refine staffed (List.all_eq_true.mpr fun other member => beq_iff_eq.mpr ?_)
      by_contra here
      exact none ⟨other, member, here⟩

/-- A loss leaves an item where it is, or one that was queued or taken is done with. -/
theorem place_lose {before later : ItemPlace} (found : work.items[item]? = some before)
    (lost : (work.lose worker).items[item]? = some later) :
    later = before ∨ later = .done ∧ (before = .queued ∨ before = .taken worker) := by
  simp only [lose, List.getElem?_map, found, Option.map_some, Option.some.injEq] at lost
  subst lost
  unfold afterLoss
  split
  · rename_i gone
    exact .inr ⟨rfl, gone.symm.imp_left And.right⟩
  · exact .inl rfl

/-- What the lost worker had is no longer with it. -/
theorem not_taken_lose : (work.lose worker).items[item]? ≠ some (.taken worker) := by
  intro lost
  simp only [lose, List.getElem?_map] at lost
  obtain ⟨before, -, after⟩ := Option.map_eq_some_iff.mp lost
  exact (afterLoss_eq_taken.mp after).1 rfl

/-- What another worker has stays with it. -/
theorem taken_lose {other : Nat} (taken : work.items[item]? = some (.taken other))
    (different : other ≠ worker) :
    (work.lose worker).items[item]? = some (.taken other) := by
  simp only [lose, List.getElem?_map, taken, Option.map_some, Option.some.injEq]
  exact afterLoss_eq_taken.mpr ⟨different, rfl⟩

/-- A worker that takes an item has none. -/
theorem take_idle {other : Nat} (fired : work.take worker = some (item, next)) :
    work.workers[worker]? ≠ some (.busy other) := by
  unfold take at fired
  split at fired
  · rename_i idle _
    simp [idle]
  · cases fired

/-- The queue is the same one, and no worker comes back. -/
structure Keeps (work next : WorkQueue) : Prop where
  capacity : next.capacity = work.capacity
  isOpen : next.isOpen = work.isOpen
  length : next.workers.length = work.workers.length
  gone : ∀ worker : Nat, work.workers[worker]? = some .gone → next.workers[worker]? = some .gone

/-- One worker changes that was not gone, or is gone now. -/
theorem keeps_set {after : QueueWorker} {queue : List Nat} {items : List ItemPlace}
    (there : after = .gone ∨ work.workers[worker]? ≠ some .gone) :
    work.Keeps { work with workers := work.workers.set worker after, queue, items } where
  capacity := rfl
  isOpen := rfl
  length := List.length_set
  gone other here := by
    have known := (List.getElem?_eq_some_iff.mp here).1
    rw [List.getElem?_set]
    split
    · rename_i same
      subst same
      obtain rfl | alive := there
      · rw [if_pos known]
      · exact absurd here alive
    · exact here

theorem keeps_trySend (sent : work.trySend item = .ok next) : work.Keeps next := by
  unfold trySend at sent
  split at sent
  · cases sent
  · split at sent
    · obtain rfl := Except.ok.inj sent
      exact ⟨rfl, rfl, rfl, fun _ here => here⟩
    · cases sent

theorem keeps_take (fired : work.take worker = some (item, next)) : work.Keeps next := by
  unfold take at fired
  split at fired
  · rename_i idle nonempty
    obtain ⟨-, rfl⟩ := Prod.mk.inj (Option.some.inj fired)
    exact keeps_set (.inr (by simp [idle]))
  · cases fired

theorem keeps_finish (fired : work.finish worker = some (item, next)) : work.Keeps next := by
  unfold finish at fired
  split at fired
  · rename_i busy
    obtain ⟨-, rfl⟩ := Prod.mk.inj (Option.some.inj fired)
    exact keeps_set (.inr (by simp [busy]))
  · cases fired

theorem keeps_leave (fired : work.leave worker = some next) : work.Keeps next := by
  unfold leave at fired
  split at fired
  · split at fired
    · obtain rfl := Option.some.inj fired
      exact keeps_set (.inl rfl)
    · cases fired
  · cases fired

theorem keeps_lose (work : WorkQueue) (worker : Nat) : work.Keeps (work.lose worker) :=
  keeps_set (.inl rfl)

/-- With no worker left nothing is queued and nothing is taken. -/
theorem Sound.settled (sound : work.Sound) (gone : ∀ worker ∈ work.workers, worker = .gone) :
    work.queue = [] ∧ ∀ (item : Nat) (place : ItemPlace), work.items[item]? = some place →
      place = .outside ∨ place = .done := by
  have empty : work.queue = [] := by
    by_contra nonempty
    obtain ⟨worker, member, here⟩ := sound.staffed nonempty
    exact here (gone worker member)
  refine ⟨empty, fun item place found => ?_⟩
  cases place with
  | outside => exact .inl rfl
  | done => exact .inr rfl
  | queued =>
      rw [← sound.queued, empty] at found
      cases found
  | taken worker =>
      have busy := (sound.taken worker item).mpr found
      cases gone _ (List.mem_of_getElem? busy)

end WorkQueue
