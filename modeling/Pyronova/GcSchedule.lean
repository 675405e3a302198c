import Pyronova.Execution

/-!
# When a worker collects garbage

A worker counts the requests it runs and collects when as many ran as its threshold says; in idle
mode it also collects at a tick that finds it quiet.  The two triggers share the worker's counters,
which are words that wrap.
-/

namespace Pyronova

/-- When a worker runs `gc.collect()`: every `threshold` requests, never by count if it is zero. -/
structure GcSchedule where
  threshold : UInt64
  served : UInt64
  collectedAt : UInt64

/-- The counter of the worker at the last tick. -/
structure IdleGc where
  servedAtLastTick : UInt64

/-- How a call of `gc.collect` ends: a raised exception is logged, a panic unwinds. -/
inductive Collection (Payload : Type*)
  | returned
  | raised
  | panicked (payload : Payload)

namespace GcSchedule

def sinceCollect (schedule : GcSchedule) : UInt64 := schedule.served - schedule.collectedAt

def due (schedule : GcSchedule) : Bool :=
  0 < schedule.threshold && schedule.threshold ≤ schedule.sinceCollect

/-- The count is taken before the collection runs, however it ends. -/
def collect (schedule : GcSchedule) : GcSchedule :=
  { schedule with collectedAt := schedule.served }

/-- The request is counted as it is dispatched. -/
def dispatch (schedule : GcSchedule) : GcSchedule :=
  { schedule with served := schedule.served + 1 }

variable {Payload Response : Type*}

/-- One request: the handler, then a collection if one is due.  A panic of either unwinds to here
and answers for the request; one of the handler skips the check. -/
def serve (panic : Payload → Response) (schedule : GcSchedule)
    (handled : Except Payload Response) (collection : Collection Payload) :
    GcSchedule × Response :=
  match handled with
  | .error payload => (schedule.dispatch, panic payload)
  | .ok response =>
      if schedule.dispatch.due then
        match collection with
        | .panicked payload => (schedule.dispatch.collect, panic payload)
        | _ => (schedule.dispatch.collect, response)
      else (schedule.dispatch, response)

theorem serve_ok (panic : Payload → Response) (schedule : GcSchedule) (response : Response)
    (collection : Collection Payload) :
    (schedule.serve panic (.ok response) collection).1 =
      if schedule.dispatch.due then schedule.dispatch.collect else schedule.dispatch := by
  unfold serve
  cases schedule.dispatch.due with
  | false => rfl
  | true => cases collection <;> rfl

theorem due_iff {schedule : GcSchedule} :
    schedule.due = true ↔
      0 < schedule.threshold ∧ schedule.threshold ≤ schedule.sinceCollect := by
  simp [due]

@[simp] theorem collect_threshold (schedule : GcSchedule) :
    schedule.collect.threshold = schedule.threshold := rfl

@[simp] theorem dispatch_threshold (schedule : GcSchedule) :
    schedule.dispatch.threshold = schedule.threshold := rfl

@[simp] theorem sinceCollect_collect (schedule : GcSchedule) : schedule.collect.sinceCollect = 0 :=
  UInt64.sub_self schedule.served

theorem add_one_sub (left right : UInt64) : left + 1 - right = left - right + 1 := by
  rw [UInt64.sub_eq_add_neg, UInt64.sub_eq_add_neg, UInt64.add_assoc, UInt64.add_assoc,
    UInt64.add_comm 1]

theorem ofNat_succ (count : Nat) : UInt64.ofNat (count + 1) = UInt64.ofNat count + 1 := by
  rw [UInt64.ofNat_add]
  rfl

theorem sinceCollect_dispatch (schedule : GcSchedule) :
    schedule.dispatch.sinceCollect = schedule.sinceCollect + 1 := by
  exact add_one_sub schedule.served schedule.collectedAt

/-- A request that did not panic leaves fewer than the threshold uncollected. -/
theorem sinceCollect_serve_lt (panic : Payload → Response) {schedule : GcSchedule}
    (positive : 0 < schedule.threshold) (response : Response) (collection : Collection Payload) :
    (schedule.serve panic (.ok response) collection).1.sinceCollect < schedule.threshold := by
  rw [serve_ok]
  split
  · rw [sinceCollect_collect]
    exact positive
  · rename_i notDue
    exact UInt64.not_le.mp fun reached => notDue (due_iff.mpr ⟨positive, reached⟩)

end GcSchedule

/-- Whether to collect at a tick, given the worker's counters now. -/
def IdleGc.onTick (idle : IdleGc) (served sinceCollect : UInt64) : Bool × IdleGc :=
  (served == idle.servedAtLastTick && 0 < sinceCollect, ⟨served⟩)

/-- What happened on a worker: a request, a tick, and a collection by count or at a tick. -/
inductive GcEntry
  | request (panicked : Bool)
  | tick
  | byCount
  | byTick
deriving DecidableEq

namespace GcEntry

def isRequest : GcEntry → Bool
  | .request _ => true
  | _ => false

def isTick : GcEntry → Bool
  | .tick => true
  | _ => false

def isCollection : GcEntry → Bool
  | .byCount | .byTick => true
  | _ => false

/-- The requests of a history, the latest entry first, that came after the last entry of a kind. -/
def requestsSince (kind : GcEntry → Bool) : List GcEntry → Nat
  | [] => 0
  | entry :: earlier =>
      if kind entry then 0
      else requestsSince kind earlier + if entry.isRequest then 1 else 0

@[simp] theorem requestsSince_nil (kind : GcEntry → Bool) : requestsSince kind [] = 0 := rfl

theorem requestsSince_of_kind {kind : GcEntry → Bool} {entry : GcEntry} (last : kind entry = true)
    (earlier : List GcEntry) : requestsSince kind (entry :: earlier) = 0 := if_pos last

theorem requestsSince_of_other {kind : GcEntry → Bool} {entry : GcEntry}
    (other : kind entry = false) (earlier : List GcEntry) :
    requestsSince kind (entry :: earlier) =
      requestsSince kind earlier + if entry.isRequest then 1 else 0 := by
  rw [requestsSince, other]
  rfl

theorem requestsSince_le (kind : GcEntry → Bool) (history : List GcEntry) :
    requestsSince kind history ≤ history.countP isRequest := by
  induction history with
  | nil => exact le_rfl
  | cons entry earlier induction =>
      rw [List.countP_cons]
      unfold requestsSince
      split
      · exact Nat.zero_le _
      · exact Nat.add_le_add_right induction _

/-- Behind a window without the kind the count starts at the entry before it. -/
theorem requestsSince_append {kind : GcEntry → Bool} {window : List GcEntry} {last : GcEntry}
    (without : ∀ entry ∈ window, kind entry = false) (isKind : kind last = true)
    (earlier : List GcEntry) :
    requestsSince kind (window ++ last :: earlier) = window.countP isRequest := by
  induction window with
  | nil => exact requestsSince_of_kind isKind earlier
  | cons entry window induction =>
      obtain ⟨other, rest⟩ := List.forall_mem_cons.mp without
      rw [List.cons_append, requestsSince_of_other other, induction rest, List.countP_cons]

theorem exists_isRequest {kind : GcEntry → Bool} {window : List GcEntry} {last : GcEntry}
    (isKind : kind last = true) {earlier : List GcEntry}
    (some : 0 < requestsSince kind (window ++ last :: earlier)) :
    ∃ entry ∈ window, entry.isRequest = true := by
  induction window with
  | nil =>
      rw [List.nil_append, requestsSince_of_kind isKind] at some
      cases some
  | cons entry window induction =>
      by_cases request : entry.isRequest = true
      · exact ⟨entry, List.mem_cons_self, request⟩
      · have later : 0 < requestsSince kind (window ++ last :: earlier) := by
          rw [List.cons_append, requestsSince] at some
          split at some
          · cases some
          · rwa [Nat.add_zero] at some
        obtain ⟨found, member, isRequest⟩ := induction later
        exact ⟨found, List.mem_cons_of_mem _ member, isRequest⟩

end GcEntry

/-- A worker between two events, with what happened on it, the latest entry first. -/
structure GcState where
  schedule : GcSchedule
  idle : IdleGc
  history : List GcEntry

/-- What a worker's thread does: a request, and a tick of the idle mode.  Each carries how a
collection ends that it may run. -/
inductive GcEvent (Payload Response : Type*)
  | serve (handled : Except Payload Response) (collection : Collection Payload)
  | tick (collection : Collection Payload)

namespace GcState

variable {Payload Response : Type*}

/-- The entries a request adds. -/
def record (schedule : GcSchedule) (handled : Except Payload Response) : List GcEntry :=
  match handled with
  | .error _ => [.request true]
  | .ok _ => if schedule.dispatch.due then [.byCount, .request false] else [.request false]

/-- `idle_gc_tick`: a collection that raises or panics is logged and leaves the same counters. -/
def idleGcTick (state : GcState) : GcState :=
  let decided := state.idle.onTick state.schedule.served state.schedule.sinceCollect
  if decided.1 then
    { schedule := state.schedule.collect, idle := decided.2,
      history := .byTick :: .tick :: state.history }
  else { state with idle := decided.2, history := .tick :: state.history }

def step (panic : Payload → Response) (state : GcState) : GcEvent Payload Response → GcState
  | .serve handled collection =>
      { state with
        schedule := (state.schedule.serve panic handled collection).1
        history := record state.schedule handled ++ state.history }
  | .tick _ => state.idleGcTick

/-- A worker that served nothing yet. -/
def machine (panic : Payload → Response) (threshold : UInt64) :
    Machine GcState (GcEvent Payload Response) where
  init := { schedule := ⟨threshold, 0, 0⟩, idle := ⟨0⟩, history := [] }
  step state event := some (step panic state event)

variable {before after : GcState}

/-- What one event does: a request that is not due or is, a tick that stays or collects. -/
inductive Moves (before : GcState) : GcState → Prop
  | request {panicked : Bool} (notDue : panicked = false → before.schedule.dispatch.due = false) :
      Moves before ⟨before.schedule.dispatch, before.idle, .request panicked :: before.history⟩
  | byCount (due : before.schedule.dispatch.due = true) :
      Moves before ⟨before.schedule.dispatch.collect, before.idle,
        .byCount :: .request false :: before.history⟩
  | tick (stays : ¬(before.schedule.served = before.idle.servedAtLastTick ∧
        0 < before.schedule.sinceCollect)) :
      Moves before ⟨before.schedule, ⟨before.schedule.served⟩, .tick :: before.history⟩
  | byTick (quiet : before.schedule.served = before.idle.servedAtLastTick)
      (some : 0 < before.schedule.sinceCollect) :
      Moves before ⟨before.schedule.collect, ⟨before.schedule.served⟩,
        .byTick :: .tick :: before.history⟩

theorem step_moves (panic : Payload → Response) (before : GcState)
    (event : GcEvent Payload Response) : Moves before (step panic before event) := by
  cases event with
  | serve handled collection =>
      cases handled with
      | error payload => exact .request fun impossible => by cases impossible
      | ok response =>
          simp only [step, record, GcSchedule.serve_ok]
          cases reached : before.schedule.dispatch.due with
          | false => exact .request fun _ => reached
          | true => exact .byCount reached
  | tick collection =>
      simp only [step, idleGcTick]
      split
      · rename_i decided
        simp only [IdleGc.onTick, Bool.and_eq_true, beq_iff_eq, decide_eq_true_eq] at decided
        exact .byTick decided.1 decided.2
      · rename_i decided
        simp only [IdleGc.onTick, Bool.and_eq_true, beq_iff_eq, decide_eq_true_eq] at decided
        exact .tick decided

/-- No request panicked since the last collection. -/
def Calm (history : List GcEntry) : Prop :=
  ∀ entry ∈ history.takeWhile fun entry => !entry.isCollection, entry ≠ .request true

/-- Between two collections by count with no panic and no other collection `count` requests ran. -/
def Spaced (count : Nat) (history : List GcEntry) : Prop :=
  ∀ newer window older : List GcEntry,
    history = newer ++ .byCount :: (window ++ .byCount :: older) →
      (∀ entry ∈ window, entry.isCollection = false ∧ entry ≠ .request true) →
        window.countP GcEntry.isRequest = count

/-- A request ran between a collection at a tick and the collection before it. -/
def ServedBetween (history : List GcEntry) : Prop :=
  ∀ (newer window : List GcEntry) (last : GcEntry) (older : List GcEntry),
    history = newer ++ .byTick :: (window ++ last :: older) →
      last.isCollection = true → ∃ entry ∈ window, entry.isRequest = true

theorem Spaced.cons {count : Nat} {history : List GcEntry} (spaced : Spaced count history)
    {entry : GcEntry} (other : entry ≠ .byCount) : Spaced count (entry :: history) := by
  intro newer window older whole calm
  cases newer with
  | nil => exact absurd (List.cons.inj whole).1 other
  | cons first newer => exact spaced newer window older (List.cons.inj whole).2 calm

theorem ServedBetween.cons {history : List GcEntry} (served : ServedBetween history)
    {entry : GcEntry} (other : entry ≠ .byTick) : ServedBetween (entry :: history) := by
  intro newer window last older whole collection
  cases newer with
  | nil => exact absurd (List.cons.inj whole).1 other
  | cons first newer => exact served newer window last older (List.cons.inj whole).2 collection

theorem calm_append {window older : List GcEntry} {last : GcEntry}
    (calm : ∀ entry ∈ window, entry.isCollection = false ∧ entry ≠ .request true)
    (collection : last.isCollection = true) : Calm (window ++ last :: older) := by
  have stops : (window ++ last :: older).takeWhile (fun entry => !entry.isCollection) = window := by
    rw [List.takeWhile_append_of_pos fun entry member => by rw [(calm entry member).1]; rfl,
      List.takeWhile_cons_of_neg (by rw [collection]; decide), List.append_nil]
  intro entry member
  rw [stops] at member
  exact (calm entry member).2

/-- The counters count the requests of the history, whole and since the last collection and tick,
up to a multiple of the word. -/
structure Invariant (threshold : UInt64) (state : GcState) : Prop where
  limit : state.schedule.threshold = threshold
  served : state.schedule.served = UInt64.ofNat (state.history.countP GcEntry.isRequest)
  since : state.schedule.sinceCollect =
    UInt64.ofNat (GcEntry.requestsSince GcEntry.isCollection state.history)
  quiet : state.schedule.served - state.idle.servedAtLastTick =
    UInt64.ofNat (GcEntry.requestsSince GcEntry.isTick state.history)
  below : 0 < threshold → Calm state.history →
    GcEntry.requestsSince GcEntry.isCollection state.history < threshold.toNat
  spaced : Spaced threshold.toNat state.history
  disabled : threshold = 0 → GcEntry.byCount ∉ state.history
  servedBetween : ServedBetween state.history

theorem Invariant.initial (panic : Payload → Response) (threshold : UInt64) :
    Invariant threshold (machine panic threshold).init where
  limit := rfl
  served := rfl
  since := UInt64.sub_self 0
  quiet := UInt64.sub_self 0
  below := fun positive _ => UInt64.lt_iff_toNat_lt.mp positive
  spaced := fun newer _ _ whole => by simp [machine] at whole
  disabled := fun _ member => by cases member
  servedBetween := fun newer _ _ _ whole => by simp [machine] at whole

variable {threshold : UInt64}

/-- One more request since the last collection, of which so many ran before. -/
theorem Invariant.since_dispatch (invariant : Invariant threshold before) :
    before.schedule.dispatch.sinceCollect = UInt64.ofNat
      (GcEntry.requestsSince GcEntry.isCollection before.history + 1) := by
  rw [GcSchedule.sinceCollect_dispatch, GcSchedule.ofNat_succ, invariant.since]

/-- After a calm window a request is due exactly when it is the one with the threshold's number. -/
theorem Invariant.due_iff (invariant : Invariant threshold before) (positive : 0 < threshold)
    (calm : Calm before.history) :
    before.schedule.dispatch.due = true ↔
      GcEntry.requestsSince GcEntry.isCollection before.history + 1 = threshold.toNat := by
  have bounded := invariant.below positive calm
  have small := threshold.toNat_lt
  rw [GcSchedule.due_iff, GcSchedule.dispatch_threshold, invariant.limit,
    invariant.since_dispatch, UInt64.le_iff_toNat_le, UInt64.toNat_ofNat',
    Nat.mod_eq_of_lt (by omega)]
  constructor
  · rintro ⟨-, reached⟩
    omega
  · intro reached
    exact ⟨positive, reached.ge⟩

theorem calm_cons {entry : GcEntry} {history : List GcEntry} (calm : Calm (entry :: history))
    (other : entry.isCollection = false) : entry ≠ .request true ∧ Calm history := by
  rw [Calm, List.takeWhile_cons_of_pos (by rw [other]; rfl), List.forall_mem_cons] at calm
  exact calm

theorem Invariant.request (invariant : Invariant threshold before) {panicked : Bool}
    (notDue : panicked = false → before.schedule.dispatch.due = false) :
    Invariant threshold
      ⟨before.schedule.dispatch, before.idle, .request panicked :: before.history⟩ where
  limit := invariant.limit
  served := by
    rw [List.countP_cons_of_pos rfl, GcSchedule.ofNat_succ, ← invariant.served]
    rfl
  since := invariant.since_dispatch
  quiet := by
    rw [GcEntry.requestsSince_of_other rfl]
    change before.schedule.served + 1 - _ = UInt64.ofNat (_ + 1)
    rw [GcSchedule.add_one_sub, GcSchedule.ofNat_succ, invariant.quiet]
  below := by
    intro positive calm
    obtain ⟨survived, before⟩ := calm_cons calm rfl
    have returned : panicked = false := by
      cases panicked with
      | false => rfl
      | true => exact absurd rfl survived
    have early : GcEntry.requestsSince GcEntry.isCollection _ + 1 ≠ threshold.toNat :=
      fun reached => by
        have due := (invariant.due_iff positive before).mpr reached
        rw [notDue returned] at due
        cases due
    have bounded := invariant.below positive before
    rw [GcEntry.requestsSince_of_other rfl]
    change _ + 1 < _
    omega
  spaced := invariant.spaced.cons (by simp)
  disabled := fun zero =>
    List.not_mem_cons_of_ne_of_not_mem (by simp) (invariant.disabled zero)
  servedBetween := invariant.servedBetween.cons (by simp)

theorem Invariant.byCount (invariant : Invariant threshold before)
    (due : before.schedule.dispatch.due = true) :
    Invariant threshold ⟨before.schedule.dispatch.collect, before.idle,
      .byCount :: .request false :: before.history⟩ where
  limit := invariant.limit
  served := by
    rw [List.countP_cons_of_neg (by decide), List.countP_cons_of_pos rfl, GcSchedule.ofNat_succ,
      ← invariant.served]
    rfl
  since := by
    rw [GcEntry.requestsSince_of_kind rfl, GcSchedule.sinceCollect_collect]
    rfl
  quiet := by
    rw [GcEntry.requestsSince_of_other rfl, GcEntry.requestsSince_of_other rfl]
    change before.schedule.served + 1 - _ = UInt64.ofNat (_ + 1)
    rw [GcSchedule.add_one_sub, GcSchedule.ofNat_succ, invariant.quiet]
  below := fun positive _ => by
    rw [GcEntry.requestsSince_of_kind rfl]
    exact UInt64.lt_iff_toNat_lt.mp positive
  spaced := by
    intro newer window older whole calm
    cases newer with
    | cons first newer =>
        have earlier := invariant.spaced.cons (by simp : GcEntry.request false ≠ .byCount)
        exact earlier newer window older (List.cons.inj whole).2 calm
    | nil =>
        have rest := (List.cons.inj whole).2
        cases window with
        | nil => cases (List.cons.inj rest).1
        | cons first window =>
            obtain rfl := (List.cons.inj rest).1
            have split : before.history = window ++ .byCount :: older := (List.cons.inj rest).2
            have calmly := (List.forall_mem_cons.mp calm).2
            have positive : 0 < threshold := by
              rw [← invariant.limit]
              exact (GcSchedule.due_iff.mp due).1
            have reached := (invariant.due_iff positive (split ▸ calm_append calmly rfl)).mp due
            rw [split, GcEntry.requestsSince_append (fun entry member => (calmly entry member).1)
              rfl] at reached
            rw [List.countP_cons_of_pos rfl]
            exact reached
  disabled := by
    intro zero
    have positive := (GcSchedule.due_iff.mp due).1
    rw [GcSchedule.dispatch_threshold, invariant.limit, zero] at positive
    exact absurd positive (UInt64.lt_irrefl 0)
  servedBetween := (invariant.servedBetween.cons (by simp)).cons (by simp)

theorem Invariant.tick (invariant : Invariant threshold before) :
    Invariant threshold
      ⟨before.schedule, ⟨before.schedule.served⟩, .tick :: before.history⟩ where
  limit := invariant.limit
  served := invariant.served
  since := invariant.since
  quiet := UInt64.sub_self _
  below := fun positive calm => invariant.below positive (calm_cons calm rfl).2
  spaced := invariant.spaced.cons (by simp)
  disabled := fun zero =>
    List.not_mem_cons_of_ne_of_not_mem (by simp) (invariant.disabled zero)
  servedBetween := invariant.servedBetween.cons (by simp)

theorem Invariant.byTick (invariant : Invariant threshold before)
    (some : 0 < before.schedule.sinceCollect) :
    Invariant threshold ⟨before.schedule.collect, ⟨before.schedule.served⟩,
      .byTick :: .tick :: before.history⟩ where
  limit := invariant.limit
  served := invariant.served
  since := GcSchedule.sinceCollect_collect _
  quiet := UInt64.sub_self _
  below := fun positive _ => UInt64.lt_iff_toNat_lt.mp positive
  spaced := (invariant.spaced.cons (by simp)).cons (by simp)
  disabled := fun zero =>
    List.not_mem_cons_of_ne_of_not_mem (by simp)
      (List.not_mem_cons_of_ne_of_not_mem (by simp) (invariant.disabled zero))
  servedBetween := by
    intro newer window last older whole collection
    cases newer with
    | cons first newer =>
        have earlier := invariant.servedBetween.cons (by simp : GcEntry.tick ≠ .byTick)
        exact earlier newer window last older (List.cons.inj whole).2 collection
    | nil =>
        have rest := (List.cons.inj whole).2
        have ran : 0 < GcEntry.requestsSince GcEntry.isCollection before.history := by
          rw [invariant.since] at some
          refine Nat.pos_of_ne_zero fun zero => ?_
          rw [zero] at some
          exact absurd some (UInt64.lt_irrefl 0)
        cases window with
        | nil =>
            obtain ⟨rfl, -⟩ := List.cons.inj rest
            cases collection
        | cons first window =>
            have split : before.history = window ++ last :: older := (List.cons.inj rest).2
            rw [split] at ran
            obtain ⟨entry, member, request⟩ := GcEntry.exists_isRequest collection ran
            exact ⟨entry, List.mem_cons_of_mem _ member, request⟩

theorem Invariant.moves (invariant : Invariant threshold before) (moves : Moves before after) :
    Invariant threshold after := by
  cases moves with
  | request notDue => exact invariant.request notDue
  | byCount due => exact invariant.byCount due
  | tick _ => exact invariant.tick
  | byTick _ some => exact invariant.byTick some

theorem Invariant.of_run {panic : Payload → Response} {events : List (GcEvent Payload Response)}
    {state : GcState} (reached : (machine panic threshold).run events = some state) :
    Invariant threshold state := by
  refine Machine.Reachable.invariant (Invariant.initial panic threshold) ?_ ⟨events, reached⟩
  intro before after event invariant stepped
  obtain rfl := Option.some.inj stepped
  exact invariant.moves (step_moves panic before event)

theorem Invariant.collectedAt_le (invariant : Invariant threshold before)
    (few : before.history.countP GcEntry.isRequest < 2 ^ 64) :
    before.schedule.collectedAt ≤ before.schedule.served := by
  have fewSince := GcEntry.requestsSince_le GcEntry.isCollection before.history
  have total := congrArg UInt64.toNat invariant.served
  have difference := congrArg UInt64.toNat invariant.since
  have small := before.schedule.collectedAt.toNat_lt
  rw [UInt64.toNat_ofNat', Nat.mod_eq_of_lt few] at total
  rw [GcSchedule.sinceCollect, UInt64.toNat_sub, UInt64.toNat_ofNat',
    Nat.mod_eq_of_lt (fewSince.trans_lt few)] at difference
  rw [UInt64.le_iff_toNat_le]
  omega

theorem ofNat_eq_zero_iff {count : Nat} (few : count < 2 ^ 64) :
    UInt64.ofNat count = 0 ↔ count = 0 := by
  rw [← UInt64.toNat_inj, UInt64.toNat_ofNat', Nat.mod_eq_of_lt few]
  rfl

/-- The worker's counters show a tick whether a request ran since the last collection and none
since the last tick. -/
theorem Invariant.onTick_iff (invariant : Invariant threshold before)
    (few : before.history.countP GcEntry.isRequest < 2 ^ 64) :
    (before.idle.onTick before.schedule.served before.schedule.sinceCollect).1 = true ↔
      0 < GcEntry.requestsSince GcEntry.isCollection before.history ∧
        GcEntry.requestsSince GcEntry.isTick before.history = 0 := by
  have fewSince := (GcEntry.requestsSince_le GcEntry.isCollection before.history).trans_lt few
  have fewTick := (GcEntry.requestsSince_le GcEntry.isTick before.history).trans_lt few
  have quiet : before.schedule.served = before.idle.servedAtLastTick ↔
      GcEntry.requestsSince GcEntry.isTick before.history = 0 := by
    rw [← ofNat_eq_zero_iff fewTick, ← invariant.quiet]
    constructor
    · intro same
      rw [same]
      exact UInt64.sub_self _
    · intro none
      have back := UInt64.sub_add_cancel before.schedule.served before.idle.servedAtLastTick
      rwa [none, UInt64.zero_add, eq_comm] at back
  have ran : 0 < before.schedule.sinceCollect ↔
      0 < GcEntry.requestsSince GcEntry.isCollection before.history := by
    rw [invariant.since, UInt64.lt_iff_toNat_lt, UInt64.toNat_ofNat', Nat.mod_eq_of_lt fewSince]
    rfl
  rw [IdleGc.onTick, Bool.and_eq_true, beq_iff_eq, decide_eq_true_eq, quiet, ran, and_comm]

/-- Whatever a worker serves and however its collections end, as long as it served fewer than
`2 ^ 64` requests the count at the last collection is at most its count, and a tick collects exactly
when a request ran since the last collection and none since the tick before.  A request that did
not panic leaves fewer than the threshold uncollected, the collections by count are the threshold
apart or never happen, and between a collection at a tick and the one before it a request ran. -/
theorem gc_triggers (panic : Payload → Response) (threshold : UInt64)
    (events : List (GcEvent Payload Response)) (state : GcState)
    (reached : (machine panic threshold).run events = some state) :
    (state.history.countP GcEntry.isRequest < 2 ^ 64 →
      state.schedule.collectedAt ≤ state.schedule.served ∧
        state.schedule.sinceCollect.toNat =
          GcEntry.requestsSince GcEntry.isCollection state.history ∧
        ∀ collection : Collection Payload,
          (step panic state (.tick collection)).history =
            if 0 < GcEntry.requestsSince GcEntry.isCollection state.history ∧
                GcEntry.requestsSince GcEntry.isTick state.history = 0
            then .byTick :: .tick :: state.history else .tick :: state.history) ∧
      (0 < threshold → ∀ (response : Response) (collection : Collection Payload),
        (step panic state (.serve (.ok response) collection)).schedule.sinceCollect < threshold) ∧
      (∀ newer window older : List GcEntry,
        state.history = newer ++ .byCount :: (window ++ .byCount :: older) →
          (∀ entry ∈ window, entry.isCollection = false ∧ entry ≠ .request true) →
            window.countP GcEntry.isRequest = threshold.toNat) ∧
      (threshold = 0 → GcEntry.byCount ∉ state.history) ∧
      ∀ (newer window : List GcEntry) (last : GcEntry) (older : List GcEntry),
        state.history = newer ++ .byTick :: (window ++ last :: older) →
          last.isCollection = true → ∃ entry ∈ window, entry.isRequest = true := by
  have invariant := Invariant.of_run reached
  refine ⟨?_, ?_, invariant.spaced, invariant.disabled, invariant.servedBetween⟩
  · intro few
    have fewSince := (GcEntry.requestsSince_le GcEntry.isCollection state.history).trans_lt few
    refine ⟨invariant.collectedAt_le few, ?_, ?_⟩
    · rw [invariant.since, UInt64.toNat_ofNat', Nat.mod_eq_of_lt fewSince]
    · intro collection
      have decided := invariant.onTick_iff few
      simp only [step, idleGcTick]
      split
      · rename_i collects
        rw [if_pos (decided.mp collects)]
      · rename_i stays
        rw [if_neg fun conditions => stays (decided.mpr conditions)]
  · intro positive response collection
    have limited : 0 < state.schedule.threshold := invariant.limit.symm ▸ positive
    have below := GcSchedule.sinceCollect_serve_lt panic limited response collection
    rwa [invariant.limit] at below

/-- A worker that collects at its second request of two. -/
theorem gc_triggers_two :
    ∃ state : GcState, (machine (fun _ : Unit => ()) 2).run
        (List.replicate 4 (.serve (.ok ()) .raised)) = some state ∧
      state.schedule.sinceCollect.toNat = 0 := by
  have reached : ∃ state : GcState, (machine (fun _ : Unit => ()) 2).run
        (List.replicate 4 (.serve (.ok ()) .raised)) = some state ∧
      state.history = [.byCount, .request false, .request false, .byCount, .request false,
        .request false] := ⟨_, rfl, rfl⟩
  obtain ⟨state, execution, history⟩ := reached
  have triggers := gc_triggers (fun _ : Unit => ()) 2 _ state execution
  refine ⟨state, execution, (triggers.1 ?_).2.1.trans ?_⟩
  · rw [history]
    decide
  · rw [history]
    rfl

/-- Without a count trigger requests only move the count of those served. -/
theorem runFrom_replicate_serve {state : GcState} (never : state.schedule.threshold = 0)
    (count : Nat) :
    ∃ after, (machine (fun _ : Unit => ()) 0).runFrom state
        (List.replicate count (.serve (.ok ()) .returned)) = some after ∧
      after.schedule.served = state.schedule.served + UInt64.ofNat count ∧
      after.schedule.collectedAt = state.schedule.collectedAt := by
  induction count generalizing state with
  | zero => exact ⟨state, rfl, (UInt64.add_zero _).symm, rfl⟩
  | succ count induction =>
      have notDue : state.schedule.dispatch.due = false := by
        rw [GcSchedule.due, GcSchedule.dispatch_threshold, never]
        rfl
      have counted : (step (fun _ : Unit => ()) state (.serve (.ok ()) .returned)).schedule =
          state.schedule.dispatch := by
        rw [step, GcSchedule.serve_ok, notDue]
        rfl
      obtain ⟨after, execution, served, collected⟩ :=
        @induction (step (fun _ : Unit => ()) state (.serve (.ok ()) .returned))
          (by rw [counted]; exact never)
      refine ⟨after, execution, ?_, ?_⟩
      · rw [served, counted, GcSchedule.ofNat_succ, UInt64.add_comm (UInt64.ofNat count),
          ← UInt64.add_assoc]
        rfl
      · rw [collected, counted]
        rfl

theorem run_after_collection (count : Nat) :
    ∃ state : GcState, (machine (fun _ : Unit => ()) 0).run
        ([.serve (.ok ()) .returned, .tick .returned, .tick .returned] ++
          List.replicate count (.serve (.ok ()) .returned)) = some state ∧
      state.schedule.served = 1 + UInt64.ofNat count ∧ state.schedule.collectedAt = 1 := by
  have collected : ∃ state : GcState, (machine (fun _ : Unit => ()) 0).run
        [.serve (.ok ()) .returned, .tick .returned, .tick .returned] = some state ∧
      state.schedule.threshold = 0 ∧ state.schedule.served = 1 ∧
      state.schedule.collectedAt = 1 := ⟨_, rfl, rfl, rfl, rfl⟩
  obtain ⟨first, begun, never, served, collectedAt⟩ := collected
  obtain ⟨last, execution, wrapped, kept⟩ := runFrom_replicate_serve never count
  rw [Machine.run] at begun
  refine ⟨last, ?_, served ▸ wrapped, collectedAt ▸ kept⟩
  rw [Machine.run, Machine.runFrom_append, begun]
  exact execution

/-- A worker that collected after its first request and then served the word once around. -/
theorem served_lt_collectedAt :
    ∃ state : GcState, (machine (fun _ : Unit => ()) 0).run
        ([.serve (.ok ()) .returned, .tick .returned, .tick .returned] ++
          List.replicate (2 ^ 64 - 1) (.serve (.ok ()) .returned)) = some state ∧
      ¬state.schedule.collectedAt ≤ state.schedule.served := by
  obtain ⟨state, execution, served, collectedAt⟩ := run_after_collection (2 ^ 64 - 1)
  refine ⟨state, execution, ?_⟩
  rw [served, collectedAt]
  decide

end GcState

end Pyronova
