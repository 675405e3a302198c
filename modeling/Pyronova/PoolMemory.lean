import Mathlib.Tactic
import Pyronova.PoolAnswers

/-!
# Large bodies in the worker pool

The admission gate gives out a permit for every large body, so that only so many of them are in
memory.  The permit is with the caller, the body goes with the request.  A caller that is done
first, because it timed out, its client is gone or its response is ready before the engine lets go
of the job, gives the permit back while the body is still there.
-/

namespace Pyronova

namespace PoolServer

variable {Data Exc : Type*}

/-- The bodies past the gate's size that are collected, queued or with a worker. -/
def largeBodies (server : PoolServer Data Exc) : Nat := server.calls.countP PoolCall.large

def permitsTaken (server : PoolServer Data Exc) : Nat :=
  server.calls.weigh fun call => call.permit.toNat

/-- No caller is done before its large body is: none that is still queued or with a worker. -/
def KeepsPermit (server : PoolServer Data Exc) (event : Event Data Exc) : Prop :=
  event.endsCaller = true → ∀ call ∈ event.call.bind fun id => server.calls[id]?,
    call.large = true → call.place = .caller

instance KeepsPermit.decidable (server : PoolServer Data Exc) (event : Event Data Exc) :
    Decidable (server.KeepsPermit event) :=
  inferInstanceAs (Decidable (event.endsCaller = true →
    ∀ call ∈ event.call.bind fun id => server.calls[id]?, call.large = true → call.place = .caller))

/-- Every permit is free or with a caller, and every large body has one. -/
structure Admitted (permits : Nat) (server : PoolServer Data Exc) : Prop where
  coherent : server.Coherent
  total : server.free + server.permitsTaken = permits
  guarded : ∀ call ∈ server.calls, call.large = true → call.permit = true

variable {server next : PoolServer Data Exc} {event : Event Data Exc} {permits maxBody : Nat}
  {lane : Lane}

theorem Admitted.largeBodies_le (admitted : server.Admitted permits) :
    server.largeBodies ≤ permits := by
  have holders : server.largeBodies ≤ server.calls.countP PoolCall.permit :=
    List.countP_mono_left admitted.guarded
  have taken : server.calls.countP PoolCall.permit = server.permitsTaken :=
    List.countP_eq_weigh _ _
  have total := admitted.total
  omega

theorem Admitted.arrive (admitted : server.Admitted permits) (route : RouteId) (kind : HandlerKind)
    (contentLength : Option Nat) :
    (server.arrive route kind contentLength).Admitted permits := by
  obtain ⟨call, -, calls, -, -, empty, free, -⟩ := arrive_spec server route kind contentLength
  refine ⟨admitted.coherent.arrive route kind contentLength, ?_, ?_⟩
  · have total := admitted.total
    rw [permitsTaken, calls, List.weigh_append, List.weigh_cons, List.weigh_nil, ← permitsTaken]
    omega
  · intro other member large
    rw [calls, List.mem_append, List.mem_singleton] at member
    rcases member with earlier | rfl
    · exact admitted.guarded other earlier large
    · simp [PoolCall.large, empty] at large

theorem Admitted.pickup (admitted : server.Admitted permits)
    (fired : server.pickup lane = some next) : next.Admitted permits := by
  refine ⟨admitted.coherent.pickup fired, ?_, ?_⟩
  all_goals obtain ⟨request, requests, call, queue, found, -, rfl⟩ := pickup_spec fired
  · have total := admitted.total
    have exchanged := List.weigh_set (fun call => call.permit.toNat) found
      { call with place := .picked lane }
    dsimp only [permitsTaken, setCall] at total exchanged ⊢
    omega
  · intro other member large
    have queued := admitted.coherent.place_of_queue queue found
    rcases List.mem_or_eq_of_mem_set member with earlier | rfl
    · exact admitted.guarded other earlier large
    · apply admitted.guarded call (List.mem_of_getElem? found)
      simp only [PoolCall.large, Bool.and_eq_true, decide_eq_true_eq] at large ⊢
      exact ⟨large.1, by simp [queued]⟩

theorem Admitted.endWorker (admitted : server.Admitted permits)
    (fired : server.endWorker lane = some next) : next.Admitted permits := by
  obtain ⟨-, -, free, ⟨-, calls⟩ | ⟨-, calls⟩⟩ := endWorker_spec fired
  · refine ⟨admitted.coherent.endWorker fired, ?_, ?_⟩
    · have same : next.permitsTaken = server.permitsTaken := by
        rw [permitsTaken, permitsTaken, calls, discard, List.weigh, List.weigh, List.map_map]
        congr 2
        funext call
        simp only [Function.comp_apply]
        split <;> rfl
      rw [free, same]
      exact admitted.total
    · intro changed member large
      rw [calls, discard, List.mem_map] at member
      obtain ⟨call, member, rfl⟩ := member
      split at large
      · simp [PoolCall.large, PoolCall.drop] at large
      · rename_i elsewhere
        rw [if_neg elsewhere]
        exact admitted.guarded call member large
  · refine ⟨admitted.coherent.endWorker fired, ?_, ?_⟩
    · rw [free, permitsTaken, calls]
      exact admitted.total
    · rw [calls]
      exact admitted.guarded

theorem Admitted.step (admitted : server.Admitted permits) (keeps : server.KeepsPermit event)
    (fired : server.step maxBody event = some next) : next.Admitted permits := by
  rcases step_cases fired with ⟨route, kind, contentLength, -, rfl⟩ | ⟨lane, -, taken⟩ |
    ⟨-, -, rfl⟩ | ⟨lane, -, ended⟩ | ⟨id, call, about, found, changed⟩
  · exact admitted.arrive route kind contentLength
  · exact admitted.pickup taken
  · exact ⟨admitted.coherent.fetcherDone, admitted.total, admitted.guarded⟩
  · exact admitted.endWorker ended
  · have wired := admitted.coherent.wired found
    obtain ⟨after, effect⟩ := callStep_effect wired found changed
    refine ⟨admitted.coherent.effect found effect, ?_, ?_⟩
    · have total := admitted.total
      have exchanged := List.weigh_set (fun call => call.permit.toNat) found after
      have balance := effect.permits
      rw [permitsTaken, effect.calls]
      rw [permitsTaken] at total
      omega
    · intro other member large
      rw [effect.calls] at member
      rcases List.mem_or_eq_of_mem_set member with earlier | rfl
      · exact admitted.guarded other earlier large
      · have before := admitted.guarded call (List.mem_of_getElem? found)
        rcases effect.guarded before large with kept | ⟨ends, waits, wasLarge⟩
        · exact kept
        · have about : call ∈ event.call.bind fun id => server.calls[id]? := by
            rw [about]
            exact found
          exact absurd (wired.collecting.mpr (keeps ends call about wasLarge)) waits

section Bound

variable {StartError SpawnError : Type*} {split : WorkerSplit}
  {build : Nat → Except StartError Unit} {spawn : Nat → Except SpawnError Unit}
  {pool : InterpreterPool Nat}

/-- As long as no caller is done before its large body is, there are at most as many large bodies as
permits. -/
theorem large_bodies_bounded (started : InterpreterPool.new split build spawn = .ok pool)
    {schedule : List (Event Data Exc)}
    (keeps : (poolServerMachine Data Exc maxBody pool).AllSteps KeepsPermit schedule) :
    (poolServerMachine Data Exc maxBody pool).AllStates
      (fun server => server.largeBodies ≤ pool.permits) schedule := by
  have initial : (poolServerMachine Data Exc maxBody pool).init.Admitted pool.permits := by
    have reachable : (poolServerMachine Data Exc maxBody pool).Reachable
        (poolServerMachine Data Exc maxBody pool).init := ⟨[], rfl⟩
    refine ⟨(invariant_of_reachable started reachable).coherent, rfl, ?_⟩
    intro call member
    cases member
  have throughout := Machine.allStates_of_allSteps initial
    (fun admitted keeps fired => admitted.step keeps fired) keeps
  intro front earlier server execution
  exact (throughout front earlier server execution).largeBodies_le

end Bound

/-- The pool of one sync worker. -/
def onePool : InterpreterPool Nat where
  syncWork := { capacity := 128, workers := [.sync], queue := [] }
  asyncWork := none
  permits := 128

/-- A large body served to the end, and the next one collected. -/
def servedInTurn : List (Event Nat Unit) :=
  [.arrive 0 .sync (some 70000), .frame 0 70000, .bodyEnds 0, .pickup .sync, .check 0,
    .start 0, .complete 0 (.ok 7), .receive 0, .respond 0, .arrive 0 .sync none, .frame 1 70000]

theorem large_bodies_bounded_inTurn :
    ∃ server, (poolServerMachine Nat Unit 1000000 onePool).run servedInTurn = some server ∧
      server.largeBodies = 1 ∧ server.free = 127 ∧ server.largeBodies ≤ 128 := by
  have meets : (poolServerMachine Nat Unit 1000000 onePool).MeetsFrom KeepsPermit
      (poolServerMachine Nat Unit 1000000 onePool).init servedInTurn := by decide +kernel
  have started : InterpreterPool.new { syncWorkers := 1, asyncWorkers := 0 }
      (fun _ => (.ok () : Except Unit Unit)) (fun _ => (.ok () : Except Unit Unit)) =
    .ok onePool := rfl
  refine ⟨_, rfl, by decide +kernel, by decide +kernel, ?_⟩
  exact (large_bodies_bounded started meets.allSteps).final rfl

/-- A large body is with the worker when its caller times out; then as many as there are permits
come. -/
def overrun : List (Event Nat Unit) :=
  [.arrive 0 .sync none, .frame 0 70000, .bodyEnds 0, .pickup .sync, .check 0, .start 0,
    .timeout 0] ++
    (List.range 128).flatMap fun earlier =>
      [.arrive 0 .sync none, .frame (earlier + 1) 70000, .bodyEnds (earlier + 1)]

/-- A request before its body is read. -/
def begun : PoolCall Nat Unit where
  route := 0
  kind := .sync
  size := 0
  permit := false
  caller := .collecting
  place := .caller
  reply := .absent
  handedOut := false
  answers := 0

def collected : PoolCall Nat Unit := { begun with size := 70000, permit := true }

/-- The body that is with the worker, and those queued after it. -/
def crowd (queued : Nat) : PoolServer Nat Unit where
  pool :=
    { onePool with
      syncWork :=
        { onePool.syncWork with
          queue := (List.range queued).map fun earlier => ⟨0, .sync, earlier + 1⟩ } }
  free := 128 - queued
  stopping := 0
  calls :=
    { collected with permit := false, caller := .ended .timedOut, place := .running
                     reply := .pending } ::
      List.replicate queued
        { collected with caller := .awaiting, place := .queued .sync, reply := .pending }

/-- One more request, still with its caller. -/
def crowdAnd (queued free : Nat) (call : PoolCall Nat Unit) : PoolServer Nat Unit :=
  { crowd queued with free, calls := (crowd queued).calls ++ [call] }

section Crowd

variable {queued : Nat}

theorem largeBodies_crowd : (crowd queued).largeBodies = queued + 1 := by
  simp [crowd, largeBodies, List.countP_replicate, PoolCall.large, ADMISSION_SKIP_BYTES,
    collected]

theorem crowdAnd_last (free : Nat) (call : PoolCall Nat Unit) :
    (crowdAnd queued free call).calls[queued + 1]? = some call := by
  have length : (crowd queued).calls.length = queued + 1 := by simp [crowd]
  rw [crowdAnd, ← length, List.getElem?_concat_length]

theorem crowdAnd_set_last (free : Nat) (call after : PoolCall Nat Unit) :
    (crowdAnd queued free call).calls.set (queued + 1) after =
      (crowd queued).calls ++ [after] := by
  have length : (crowd queued).calls.length = queued + 1 := by simp [crowd]
  rw [crowdAnd, ← length, List.set_append_right _ _ (le_refl _), Nat.sub_self, List.set_cons_zero]

theorem crowd_arrive :
    step 1000000 (crowd queued) (.arrive 0 .sync none) =
      some (crowdAnd queued (128 - queued) begun) := by
  rw [step, arrive, if_neg (by simp)]
  rfl

theorem crowd_frame (room : queued < 128) :
    step 1000000 (crowdAnd queued (128 - queued) begun) (.frame (queued + 1) 70000) =
      some (crowdAnd queued (128 - (queued + 1)) collected) := by
  have left : 128 - queued ≠ 0 := by omega
  have admitted : (@admission String ADMISSION_SKIP_BYTES).admitBody
      { free := (crowdAnd queued (128 - queued) begun).free, permit := begun.permit }
        (begun.size + 70000) = .ok { free := 128 - queued - 1, permit := true } := by
    simp [admission, ADMISSION_SKIP_BYTES, crowdAnd, begun, left]
  have framed : (crowdAnd queued (128 - queued) begun).frame 1000000 (queued + 1) begun 70000 =
      crowdAnd queued (128 - (queued + 1)) collected := by
    rw [frame, if_neg (by decide), admitted, ← Nat.sub_sub]
    dsimp only
    rw [crowdAnd_set_last]
    rfl
  simp only [step, Event.call, crowdAnd_last, Option.bind_some, callStep, framed]
  rfl

theorem crowd_submit (room : queued < 128) :
    step 1000000 (crowdAnd queued (128 - (queued + 1)) collected) (.bodyEnds (queued + 1)) =
      some (crowd (queued + 1)) := by
  have submitted : (crowdAnd queued (128 - (queued + 1)) collected).submit (queued + 1) collected =
      crowd (queued + 1) := by
    rw [submit, crowdAnd_set_last]
    simp [collected, begun, InterpreterPool.submit, WorkChannel.trySend, crowdAnd, crowd, onePool,
      room, InterpreterPool.lane, List.range_succ, List.replicate_succ']
  simp only [step, Event.call, crowdAnd_last, Option.bind_some, callStep, submitted]
  rfl

theorem crowd_upload (room : queued < 128) :
    (poolServerMachine Nat Unit 1000000 onePool).runFrom (crowd queued)
        [.arrive 0 .sync none, .frame (queued + 1) 70000, .bodyEnds (queued + 1)] =
      some (crowd (queued + 1)) := by
  simp only [Machine.runFrom, poolServerMachine, crowd_arrive, crowd_frame room,
    crowd_submit room, Option.bind_eq_bind, Option.bind_some]

end Crowd

theorem crowd_uploads {queued : Nat} (room : queued ≤ 128) :
    (poolServerMachine Nat Unit 1000000 onePool).runFrom (crowd 0)
        ((List.range queued).flatMap fun earlier =>
          [.arrive 0 .sync none, .frame (earlier + 1) 70000, .bodyEnds (earlier + 1)]) =
      some (crowd queued) := by
  induction queued with
  | zero => rfl
  | succ queued induction =>
      rw [List.range_succ, List.flatMap_append, Machine.runFrom_append, induction (by omega),
        List.flatMap_singleton, Option.bind_eq_bind, Option.bind_some, crowd_upload room]

theorem run_overrun :
    (poolServerMachine Nat Unit 1000000 onePool).run overrun = some (crowd 128) := by
  have timedOut : (poolServerMachine Nat Unit 1000000 onePool).runFrom
      (poolServerMachine Nat Unit 1000000 onePool).init
      [.arrive 0 .sync none, .frame 0 70000, .bodyEnds 0, .pickup .sync, .check 0, .start 0,
        .timeout 0] = some (crowd 0) := by rfl
  rw [Machine.run, overrun, Machine.runFrom_append, timedOut, Option.bind_eq_bind,
    Option.bind_some, crowd_uploads (le_refl 128)]

theorem timedOut_exceeds_permits :
    ¬ ∀ (split : WorkerSplit) (pool : InterpreterPool Nat) (maxBody : Nat),
      InterpreterPool.new split (fun _ => (.ok () : Except Unit Unit))
          (fun _ => (.ok () : Except Unit Unit)) = .ok pool →
        ∀ server, (poolServerMachine Nat Unit maxBody pool).Reachable server →
          server.largeBodies ≤ pool.permits := by
  intro claimed
  have bounded := claimed { syncWorkers := 1, asyncWorkers := 0 } onePool 1000000 rfl
  have few : (crowd 128).largeBodies ≤ onePool.permits := bounded _ ⟨overrun, run_overrun⟩
  rw [largeBodies_crowd] at few
  exact absurd few (by decide)

end PoolServer

end Pyronova
