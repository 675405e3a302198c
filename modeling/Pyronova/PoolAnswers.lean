import Mathlib.Tactic
import Pyronova.PoolSteps
import Pyronova.Weight

/-!
# Answers of the worker pool

Whatever the order in which workers, engines, callers and clients act: a request is answered at most
once, one that an engine had exactly once, and no caller waits for a request that no one has.

A worker looks at the caller once, when it has taken the request.  What it then starts has a caller
only if none leaves in between, which on an engine's loop can be any time.
-/

namespace Pyronova

namespace PoolServer

variable {Data Exc : Type*} {server next : PoolServer Data Exc} {event : Event Data Exc}
  {id maxBody : Nat} {call after : PoolCall Data Exc} {lane : Lane}

/-! ## The server's invariant -/

/-- The requests in the queue of a lane, by their numbers. -/
def waiting (server : PoolServer Data Exc) (lane : Lane) : List Nat :=
  (server.pool.queued lane).map WorkRequest.payload

/-- The request says that it is in the queue of the lane. -/
def Queued (server : PoolServer Data Exc) (lane : Lane) (id : Nat) : Prop :=
  ∃ call, server.calls[id]? = some call ∧ call.place = .queued lane

/-- Every request is wired, and the queues hold exactly the requests that say they are queued, where
a worker takes from. -/
structure Coherent (server : PoolServer Data Exc) : Prop where
  wired : ∀ {id : Nat} {call : PoolCall Data Exc}, server.calls[id]? = some call → call.Wired
  queued : ∀ lane id, id ∈ server.waiting lane ↔ server.Queued lane id
  nodup : ∀ lane, (server.waiting lane).Nodup
  connected : ∀ lane, server.waiting lane ≠ [] → server.pool.workersOn lane ≠ []

theorem calls_set (found : server.calls[id]? = some call) (other : Nat) :
    (server.calls.set id after)[other]? =
      if other = id then some after else server.calls[other]? := by
  obtain ⟨inside, -⟩ := List.getElem?_eq_some_iff.mp found
  rw [List.getElem?_set]
  by_cases same : other = id
  · rw [if_pos same.symm, if_pos same, if_pos inside]
  · rw [if_neg (Ne.symm same), if_neg same]

theorem Effect.lookup (effect : server.Effect next event id call after)
    (found : server.calls[id]? = some call) (other : Nat) :
    next.calls[other]? = if other = id then some after else server.calls[other]? := by
  rw [effect.calls, calls_set found]

/-- Requests that stay where they are leave the queues as they are. -/
theorem Coherent.of_queued (coherent : server.Coherent)
    (wired : ∀ {id : Nat} {call : PoolCall Data Exc}, next.calls[id]? = some call → call.Wired)
    (waiting : ∀ lane, next.waiting lane = server.waiting lane)
    (workers : ∀ lane, server.pool.workersOn lane ≠ [] → next.pool.workersOn lane ≠ [])
    (queued : ∀ lane id, next.Queued lane id ↔ server.Queued lane id) : next.Coherent := by
  refine ⟨wired, fun lane id => ?_, fun lane => ?_, fun lane nonempty => ?_⟩
  · rw [waiting, queued]
    exact coherent.queued lane id
  · rw [waiting]
    exact coherent.nodup lane
  · rw [waiting] at nonempty
    exact workers lane (coherent.connected lane nonempty)

/-- The queue of one lane changes, and with it what says that it is queued there. -/
theorem Coherent.of_lane (coherent : server.Coherent) (lane : Lane) (requests : List Nat)
    (wired : ∀ {id : Nat} {call : PoolCall Data Exc}, next.calls[id]? = some call → call.Wired)
    (waiting : ∀ other,
      next.waiting other = if other = lane then requests else server.waiting other)
    (workers : ∀ other, other ≠ lane →
      next.pool.workersOn other = server.pool.workersOn other)
    (elsewhere : ∀ other id, other ≠ lane → (next.Queued other id ↔ server.Queued other id))
    (queued : ∀ id, id ∈ requests ↔ next.Queued lane id) (nodup : requests.Nodup)
    (connected : requests ≠ [] → next.pool.workersOn lane ≠ []) : next.Coherent := by
  refine ⟨wired, fun other id => ?_, fun other => ?_, fun other nonempty => ?_⟩
  · rw [waiting]
    split
    · rename_i here
      rw [here]
      exact queued id
    · rename_i different
      rw [elsewhere other id different]
      exact coherent.queued other id
  · rw [waiting]
    split
    · exact nodup
    · exact coherent.nodup other
  · rw [waiting] at nonempty
    split at nonempty
    · rename_i here
      rw [here]
      exact connected nonempty
    · rename_i different
      rw [workers other different]
      exact coherent.connected other nonempty

/-- One request changes. -/
theorem queued_set (calls : next.calls = server.calls.set id after)
    (found : server.calls[id]? = some call) (other : Nat) :
    next.Queued lane other ↔
      if other = id then after.place = .queued lane else server.Queued lane other := by
  rw [Queued, calls, calls_set found]
  split
  · simp
  · rfl

theorem Coherent.wired_set (coherent : server.Coherent)
    (calls : next.calls = server.calls.set id after) (found : server.calls[id]? = some call)
    (wired : after.Wired) {other : Nat} {changed : PoolCall Data Exc}
    (lookup : next.calls[other]? = some changed) : changed.Wired := by
  rw [calls, calls_set found] at lookup
  split at lookup
  · obtain rfl := Option.some.inj lookup
    exact wired
  · exact coherent.wired lookup

theorem queued_iff_place (found : server.calls[id]? = some call) :
    server.Queued lane id ↔ call.place = .queued lane := by
  rw [Queued, found]
  simp

theorem Coherent.effect (coherent : server.Coherent) (found : server.calls[id]? = some call)
    (effect : server.Effect next event id call after) : next.Coherent := by
  have wired {other : Nat} {changed : PoolCall Data Exc}
      (lookup : next.calls[other]? = some changed) : changed.Wired :=
    coherent.wired_set effect.calls found effect.wired lookup
  rcases effect.queue with ⟨pool, stays⟩ | ⟨lane, request, own, queued, rfl, taken, workers, grown⟩
  · refine coherent.of_queued wired ?_ ?_ ?_
    · intro lane
      rw [waiting, waiting, pool]
    · intro lane taken
      rw [pool]
      exact taken
    · intro lane other
      rw [queued_set effect.calls found]
      split
      · rename_i same
        rw [same, queued_iff_place found]
        exact stays lane
      · rfl
  · have fresh (other : Lane) : request.payload ∉ server.waiting other := by
      rw [coherent.queued, queued_iff_place found, own]
      intro place
      cases place
    refine coherent.of_lane lane (server.waiting lane ++ [request.payload]) wired ?_ ?_ ?_ ?_ ?_ ?_
    · intro other
      rw [waiting, grown]
      split
      · rename_i here
        rw [here, List.map_append]
        rfl
      · rfl
    · intro other _
      exact workers other
    · intro other id different
      rw [queued_set effect.calls found]
      split
      · rename_i same
        rw [same, queued_iff_place found, queued, own]
        simpa using Ne.symm different
      · rfl
    · intro id
      rw [queued_set effect.calls found, List.mem_append, List.mem_singleton, coherent.queued]
      split
      · rename_i same
        exact iff_of_true (.inr same) queued
      · rename_i different
        exact or_iff_left different
    · have disjoint : List.Disjoint (server.waiting lane) [request.payload] := by
        rw [List.disjoint_singleton]
        exact fresh lane
      exact (coherent.nodup lane).append (List.nodup_singleton _) disjoint
    · intro _
      rw [workers]
      exact taken

/-- A new request, with its caller or refused. -/
theorem arrive_spec (server : PoolServer Data Exc) (route : RouteId) (kind : HandlerKind)
    (contentLength : Option Nat) :
    ∃ call, (server.arrive route kind contentLength).pool = server.pool ∧
      (server.arrive route kind contentLength).calls = server.calls ++ [call] ∧ call.Wired ∧
      (call.place = .caller ∨ call.place = .released) ∧ call.size = 0 ∧
      (server.arrive route kind contentLength).free + call.permit.toNat = server.free ∧
      (server.arrive route kind contentLength).stopping = server.stopping := by
  rw [arrive]
  dsimp only
  split
  · split
    · refine ⟨_, rfl, rfl, ?_, .inr rfl, rfl, rfl, rfl⟩
      constructor <;> simp [PoolCall.held]
    · rename_i free
      refine ⟨_, rfl, rfl, ?_, .inl rfl, rfl, ?_, rfl⟩
      · constructor <;> simp [PoolCall.held]
      · simp only [Bool.toNat_true]
        omega
  · refine ⟨_, rfl, rfl, ?_, .inl rfl, rfl, rfl, rfl⟩
    constructor <;> simp [PoolCall.held]

theorem Coherent.arrive (coherent : server.Coherent) (route : RouteId) (kind : HandlerKind)
    (contentLength : Option Nat) : (server.arrive route kind contentLength).Coherent := by
  obtain ⟨call, pool, calls, wired, place, -, -⟩ := arrive_spec server route kind contentLength
  refine coherent.of_queued ?_ ?_ ?_ ?_
  · intro id changed lookup
    rw [calls, List.getElem?_append] at lookup
    split at lookup
    · exact coherent.wired lookup
    · obtain rfl := List.mem_singleton.mp (List.mem_of_getElem? lookup)
      exact wired
  · intro lane
    rw [waiting, waiting, pool]
  · intro lane taken
    rw [pool]
    exact taken
  · intro lane id
    rw [Queued, Queued, calls, List.getElem?_append]
    split
    · rfl
    · rename_i outside
      rw [List.getElem?_eq_none (Nat.le_of_not_lt outside)]
      apply iff_of_false
      · rintro ⟨changed, lookup, queued⟩
        obtain rfl := List.mem_singleton.mp (List.mem_of_getElem? lookup)
        rcases place with same | same <;> rw [same] at queued <;> cases queued
      · rintro ⟨missing, lookup, -⟩
        cases lookup

/-- A worker takes the request at the head of its queue. -/
theorem pickup_spec (fired : server.pickup lane = some next) :
    ∃ request requests call, server.pool.queued lane = request :: requests ∧
      server.calls[request.payload]? = some call ∧ server.hasIdle lane = true ∧
      next = { (server.setCall request.payload { call with place := .picked lane }) with
        pool := server.pool.take lane } := by
  rw [PoolServer.pickup] at fired
  split at fired
  · cases fired
  · rename_i request requests queue
    split at fired
    · cases fired
    · rename_i call found
      split at fired
      · rename_i idle
        exact ⟨request, requests, call, queue, found, idle, (Option.some.inj fired).symm⟩
      · cases fired

theorem Coherent.place_of_queue (coherent : server.Coherent) {request : WorkRequest Nat}
    {requests : List (WorkRequest Nat)} (queue : server.pool.queued lane = request :: requests)
    (found : server.calls[request.payload]? = some call) : call.place = .queued lane := by
  have first : request.payload ∈ server.waiting lane := by
    rw [waiting, queue]
    exact List.mem_cons_self
  obtain ⟨same, lookup, place⟩ := (coherent.queued lane _).mp first
  obtain rfl := Option.some.inj (found.symm.trans lookup)
  exact place

theorem Coherent.pickup (coherent : server.Coherent) (fired : server.pickup lane = some next) :
    next.Coherent := by
  obtain ⟨request, requests, call, queue, found, -, rfl⟩ := pickup_spec fired
  have head : server.waiting lane = request.payload :: requests.map WorkRequest.payload := by
    rw [waiting, queue]
    rfl
  have queued : call.place = .queued lane := coherent.place_of_queue queue found
  have moved : PoolCall.Wired { call with place := .picked lane } :=
    (coherent.wired found).move ⟨lane, .inl queued⟩ (.inl ⟨lane, .inl rfl⟩)
  have nodup := coherent.nodup lane
  rw [head, List.nodup_cons] at nodup
  refine coherent.of_lane lane (requests.map WorkRequest.payload)
    (coherent.wired_set rfl found moved) ?_ ?_ ?_ ?_ nodup.2 ?_
  · intro other
    rw [waiting, InterpreterPool.queued_take]
    split
    · rw [queue]
      rfl
    · rfl
  · intro other _
    exact InterpreterPool.workersOn_take _ _ _
  · intro other id different
    rw [queued_set rfl found]
    split
    · rename_i same
      rw [same, queued_iff_place found, queued]
      simpa using Ne.symm different
    · rfl
  · intro id
    rw [queued_set rfl found, ← coherent.queued, head, List.mem_cons]
    split
    · rename_i same
      rw [same]
      exact iff_of_false nodup.1 (by simp)
    · rename_i different
      exact (or_iff_right different).symm
  · intro _
    rw [InterpreterPool.workersOn_take]
    apply coherent.connected
    rw [head]
    exact List.cons_ne_nil _ _

/-- With the last worker of its lane a queue goes. -/
theorem endWorker_spec (fired : server.endWorker lane = some next) :
    (lane = .sync ∧ server.hasIdle .sync = true ∧ next.stopping = server.stopping ∨
        lane = .async ∧ next.stopping + 1 = server.stopping) ∧
      next.pool = server.pool.endWorker lane ∧ next.free = server.free ∧
      ((server.pool.workersOn lane).tail = [] ∧ next.calls = (server.discard lane).calls ∨
        (server.pool.workersOn lane).tail ≠ [] ∧ next.calls = server.calls) := by
  rw [PoolServer.endWorker.eq_def] at fired
  dsimp only at fired
  rw [InterpreterPool.workersOn_endWorker, if_pos rfl] at fired
  obtain ⟨rest, same, free, stopping, calls⟩ : ∃ rest : PoolServer Data Exc,
      (if (server.pool.workersOn lane).tail = [] then server.discard lane else server) = rest ∧
        rest.free = server.free ∧ rest.stopping = server.stopping ∧
        ((server.pool.workersOn lane).tail = [] ∧ rest.calls = (server.discard lane).calls ∨
          (server.pool.workersOn lane).tail ≠ [] ∧ rest.calls = server.calls) := by
    by_cases last : (server.pool.workersOn lane).tail = []
    · exact ⟨_, if_pos last, rfl, rfl, .inl ⟨last, rfl⟩⟩
    · exact ⟨_, if_neg last, rfl, rfl, .inr ⟨last, rfl⟩⟩
  rw [same] at fired
  cases lane with
  | sync =>
      obtain ⟨idle, made⟩ := Option.ite_none_right_eq_some.mp fired
      obtain rfl := Option.some.inj made
      exact ⟨.inl ⟨rfl, idle, stopping⟩, rfl, free, calls⟩
  | async =>
      obtain ⟨stops, made⟩ := Option.ite_none_right_eq_some.mp fired
      obtain rfl := Option.some.inj made
      exact ⟨.inr ⟨rfl, Nat.sub_add_cancel stops⟩, rfl, free, calls⟩

theorem discard_lookup {changed : PoolCall Data Exc}
    (lookup : (server.discard lane).calls[id]? = some changed) :
    ∃ call, server.calls[id]? = some call ∧
      (call.place = .queued lane ∧ changed = call.drop ∨
        call.place ≠ .queued lane ∧ changed = call) := by
  rw [discard, List.getElem?_map, Option.map_eq_some_iff] at lookup
  obtain ⟨call, found, same⟩ := lookup
  refine ⟨call, found, ?_⟩
  split at same
  · rename_i queued
    exact .inl ⟨queued, same.symm⟩
  · rename_i elsewhere
    exact .inr ⟨elsewhere, same.symm⟩

theorem Coherent.endWorker (coherent : server.Coherent)
    (fired : server.endWorker lane = some next) : next.Coherent := by
  obtain ⟨-, pool, -, ⟨last, calls⟩ | ⟨others, calls⟩⟩ := endWorker_spec fired
  · -- The last receiver is gone: the queue is empty, and nothing says that it is in it.
    have queued_next (other : Lane) (id : Nat) :
        next.Queued other id ↔ other ≠ lane ∧ server.Queued other id := by
      rw [Queued, calls]
      constructor
      · rintro ⟨changed, lookup, queued⟩
        obtain ⟨call, found, ⟨-, rfl⟩ | ⟨elsewhere, rfl⟩⟩ := discard_lookup lookup
        · cases queued
        · refine ⟨?_, changed, found, queued⟩
          rintro rfl
          exact elsewhere queued
      · rintro ⟨different, call, found, queued⟩
        refine ⟨call, ?_, queued⟩
        rw [discard, List.getElem?_map, found, Option.map_some, if_neg]
        rw [queued]
        rintro ⟨rfl⟩
        exact different rfl
    refine coherent.of_lane lane [] ?_ ?_ ?_ ?_ ?_ List.nodup_nil ?_
    · intro id changed lookup
      rw [calls] at lookup
      obtain ⟨call, found, ⟨queued, rfl⟩ | ⟨-, rfl⟩⟩ := discard_lookup lookup
      · refine (coherent.wired found).drop ?_ ?_
        · rw [PoolCall.held, queued]
        · intro stage answered job
          rw [queued] at job
          cases job
      · exact coherent.wired found
    · intro other
      rw [waiting, pool, InterpreterPool.queued_endWorker]
      by_cases here : other = lane
      · rw [if_pos ⟨here, last⟩, if_pos here]
        rfl
      · rw [if_neg fun same => here same.1, if_neg here]
        rfl
    · intro other different
      rw [pool, InterpreterPool.workersOn_endWorker, if_neg different]
    · intro other id different
      rw [queued_next]
      exact and_iff_right different
    · intro id
      rw [queued_next]
      simp
    · intro nonempty
      exact absurd rfl nonempty
  · refine coherent.of_queued ?_ ?_ ?_ ?_
    · intro id call found
      rw [calls] at found
      exact coherent.wired found
    · intro other
      rw [waiting, pool, InterpreterPool.queued_endWorker, if_neg fun here => others here.2]
      rfl
    · intro other taken
      rw [pool, InterpreterPool.workersOn_endWorker]
      split
      · exact others
      · exact taken
    · intro other id
      rw [Queued, Queued, calls]

/-- What an event is: a new request, a worker that takes one, a fetcher or a worker that ends, or a
step of one request. -/
theorem step_cases (fired : server.step maxBody event = some next) :
    (∃ route kind contentLength, event = .arrive route kind contentLength ∧
        next = server.arrive route kind contentLength) ∨
      (∃ lane, event = .pickup lane ∧ server.pickup lane = some next) ∨
      (event = .fetcherEnds ∧ server.hasIdle .async = true ∧ next = server.fetcherDone) ∨
      (∃ lane, event = .endWorker lane ∧ server.endWorker lane = some next) ∨
      ∃ id call, event.call = some id ∧ server.calls[id]? = some call ∧
        server.callStep maxBody id call event = some next := by
  cases event with
  | arrive route kind contentLength =>
      exact .inl ⟨route, kind, contentLength, rfl, (Option.some.inj fired).symm⟩
  | pickup lane => exact .inr (.inl ⟨lane, rfl, fired⟩)
  | fetcherEnds =>
      simp only [step] at fired
      split at fired
      · rename_i idle
        exact .inr (.inr (.inl ⟨rfl, idle, (Option.some.inj fired).symm⟩))
      · cases fired
  | endWorker lane => exact .inr (.inr (.inr (.inl ⟨lane, rfl, fired⟩)))
  | _ =>
      obtain ⟨call, found, fired⟩ := Option.bind_eq_some_iff.mp fired
      exact .inr (.inr (.inr (.inr ⟨_, call, rfl, found, fired⟩)))

theorem Coherent.fetcherDone (coherent : server.Coherent) : server.fetcherDone.Coherent :=
  coherent.of_queued coherent.wired (fun _ => rfl) (fun _ => id) fun _ _ => Iff.rfl

theorem Coherent.step (coherent : server.Coherent) (fired : server.step maxBody event = some next) :
    next.Coherent := by
  rcases step_cases fired with ⟨route, kind, contentLength, -, rfl⟩ | ⟨lane, -, taken⟩ |
    ⟨-, -, rfl⟩ | ⟨lane, -, ended⟩ | ⟨id, call, -, found, changed⟩
  · exact coherent.arrive route kind contentLength
  · exact coherent.pickup taken
  · exact coherent.fetcherDone
  · exact coherent.endWorker ended
  · obtain ⟨after, effect⟩ := callStep_effect (coherent.wired found) found changed
    exact coherent.effect found effect

/-- The workers with a request and those that take no more are at most all of them. -/
def Staffed (server : PoolServer Data Exc) : Prop :=
  ∀ lane, server.calls.countP (PoolCall.occupies lane) + server.retired lane ≤
    (server.pool.workersOn lane).length

theorem countP_set_le {predicate : PoolCall Data Exc → Bool}
    (found : server.calls[id]? = some call)
    (kept : predicate after = true → predicate call = true) :
    (server.calls.set id after).countP predicate ≤ server.calls.countP predicate := by
  have exchanged := List.weigh_set (fun call => (predicate call).toNat) found after
  rw [← List.countP_eq_weigh, ← List.countP_eq_weigh] at exchanged
  have lighter : (predicate after).toNat ≤ (predicate call).toNat := Bool.toNat_le_toNat kept
  omega

theorem Staffed.arrive (staffed : server.Staffed) (route : RouteId) (kind : HandlerKind)
    (contentLength : Option Nat) : (server.arrive route kind contentLength).Staffed := by
  obtain ⟨call, pool, calls, -, place, -, -, stopping⟩ :=
    arrive_spec server route kind contentLength
  intro lane
  have free : call.occupies lane = false := by
    rcases place with same | same <;> rw [PoolCall.occupies, same]
  have retired : (server.arrive route kind contentLength).retired lane = server.retired lane := by
    rw [PoolServer.retired.eq_def, stopping]
    rfl
  rw [pool, calls, retired, List.countP_append, List.countP_singleton, free]
  exact staffed lane

theorem Staffed.pickup (staffed : server.Staffed) (fired : server.pickup lane = some next) :
    next.Staffed := by
  obtain ⟨request, requests, call, -, found, idle, rfl⟩ := pickup_spec fired
  intro other
  have retired : PoolServer.retired { (server.setCall request.payload
      { call with place := .picked lane }) with pool := server.pool.take lane } other =
      server.retired other := rfl
  rw [InterpreterPool.workersOn_take, retired]
  by_cases same : other = lane
  · subst same
    have exchanged := List.weigh_set (fun call => (call.occupies other).toNat) found
      { call with place := .picked other }
    rw [← List.countP_eq_weigh, ← List.countP_eq_weigh] at exchanged
    have enough := of_decide_eq_true idle
    have one := Bool.toNat_le (PoolCall.occupies other { call with place := .picked other })
    dsimp only [setCall]
    omega
  · refine (Nat.add_le_add_right (countP_set_le found ?_) _).trans (staffed other)
    intro occupied
    exact absurd (of_decide_eq_true occupied) (Ne.symm same)

theorem Staffed.fetcherDone (staffed : server.Staffed) (idle : server.hasIdle .async = true) :
    server.fetcherDone.Staffed := by
  intro lane
  cases lane with
  | sync => exact staffed .sync
  | async =>
      have enough : _ + server.stopping < _ := of_decide_eq_true idle
      exact enough

theorem Staffed.endWorker (staffed : server.Staffed) (fired : server.endWorker lane = some next) :
    next.Staffed := by
  obtain ⟨ends, pool, -, cases⟩ := endWorker_spec fired
  intro other
  have same : next.calls.countP (PoolCall.occupies other) =
      server.calls.countP (PoolCall.occupies other) := by
    rcases cases with ⟨-, calls⟩ | ⟨-, calls⟩
    · rw [calls, discard, List.countP_map]
      apply List.countP_congr
      intro call _
      by_cases queued : call.place = .queued lane
      · simp [queued, PoolCall.occupies, PoolCall.drop]
      · simp [queued]
    · rw [calls]
  have enough := staffed other
  rw [same, pool, InterpreterPool.workersOn_endWorker]
  rcases ends with ⟨rfl, idle, stopping⟩ | ⟨rfl, stopping⟩
  · cases other with
    | sync =>
        have idle := of_decide_eq_true idle
        rw [if_pos rfl, List.length_tail]
        exact Nat.le_sub_one_of_lt idle
    | async =>
        simp only [retired, stopping] at enough ⊢
        exact enough
  · cases other with
    | sync => exact enough
    | async =>
        simp only [retired] at enough
        simp only [retired, if_true, List.length_tail]
        omega

theorem Staffed.step (staffed : server.Staffed) (coherent : server.Coherent)
    (fired : server.step maxBody event = some next) : next.Staffed := by
  rcases step_cases fired with ⟨route, kind, contentLength, -, rfl⟩ | ⟨lane, -, taken⟩ |
    ⟨-, idle, rfl⟩ | ⟨lane, -, ended⟩ | ⟨id, call, -, found, changed⟩
  · exact staffed.arrive route kind contentLength
  · exact staffed.pickup taken
  · exact staffed.fetcherDone idle
  · exact staffed.endWorker ended
  · obtain ⟨after, effect⟩ := callStep_effect (coherent.wired found) found changed
    intro lane
    have workers : next.pool.workersOn lane = server.pool.workersOn lane := by
      rcases effect.queue with ⟨pool, -⟩ | ⟨_, _, -, -, -, -, workers, -⟩
      · rw [pool]
      · exact workers lane
    have exchanged := List.weigh_set (fun call => (call.occupies lane).toNat) found after
    rw [← List.countP_eq_weigh, ← List.countP_eq_weigh] at exchanged
    have occupied := effect.occupied lane
    have enough := staffed lane
    rw [effect.calls, workers]
    omega

/-! ## Every request over its life -/

/-- What one step can have done to one request. -/
inductive Change (server next : PoolServer Data Exc) (event : Event Data Exc) (id : Nat) :
    PoolCall Data Exc → PoolCall Data Exc → Prop
  | same (call : PoolCall Data Exc) : Change server next event id call call
  | picked (call : PoolCall Data Exc) (lane : Lane) :
      Change server next event id call { call with place := .picked lane }
  | discarded (call : PoolCall Data Exc) : Change server next event id call call.drop
  | own {call after : PoolCall Data Exc} (about : event.call = some id)
      (effect : server.Effect next event id call after) : Change server next event id call after

theorem Coherent.change (coherent : server.Coherent) (fired : server.step maxBody event = some next)
    (found : server.calls[id]? = some call) :
    ∃ after, next.calls[id]? = some after ∧ server.Change next event id call after := by
  rcases step_cases fired with ⟨route, kind, contentLength, -, rfl⟩ | ⟨lane, -, taken⟩ |
    ⟨-, -, rfl⟩ | ⟨lane, -, ended⟩ | ⟨target, changed, about, present, fired⟩
  · obtain ⟨added, -, calls, -⟩ := arrive_spec server route kind contentLength
    obtain ⟨inside, -⟩ := List.getElem?_eq_some_iff.mp found
    refine ⟨call, ?_, .same call⟩
    rw [calls, List.getElem?_append_left inside]
    exact found
  · obtain ⟨request, requests, head, -, present, -, rfl⟩ := pickup_spec taken
    dsimp only [setCall]
    rw [calls_set present]
    split
    · rename_i here
      rw [here, present] at found
      obtain rfl := Option.some.inj found
      exact ⟨_, rfl, .picked _ lane⟩
    · exact ⟨call, found, .same call⟩
  · exact ⟨call, found, .same call⟩
  · obtain ⟨-, -, -, ⟨-, calls⟩ | ⟨-, calls⟩⟩ := endWorker_spec ended
    · rw [calls, discard, List.getElem?_map, found]
      refine ⟨_, rfl, ?_⟩
      dsimp only
      split
      · exact .discarded call
      · exact .same call
    · rw [calls]
      exact ⟨call, found, .same call⟩
  · obtain ⟨after, effect⟩ := callStep_effect (coherent.wired present) present fired
    rw [effect.lookup present]
    split
    · rename_i here
      rw [here, present] at found
      obtain rfl := Option.some.inj found
      exact ⟨after, rfl, .own (here ▸ about) (here ▸ effect)⟩
    · exact ⟨call, found, .same call⟩

/-- A new request is with its caller, unless it is refused. -/
theorem Coherent.place_of_missing (coherent : server.Coherent)
    (fired : server.step maxBody event = some next) (lookup : next.calls[id]? = some after)
    (missing : server.calls[id]? = none) : after.place = .caller ∨ after.place = .released := by
  rcases step_cases fired with ⟨route, kind, contentLength, -, rfl⟩ | ⟨lane, -, taken⟩ |
    ⟨-, -, rfl⟩ | ⟨lane, -, ended⟩ | ⟨target, changed, -, present, fired⟩
  · obtain ⟨added, -, calls, -, place, -⟩ := arrive_spec server route kind contentLength
    rw [calls, List.getElem?_append_right (List.getElem?_eq_none_iff.mp missing)] at lookup
    obtain rfl := List.mem_singleton.mp (List.mem_of_getElem? lookup)
    exact place
  · obtain ⟨request, requests, head, -, present, -, rfl⟩ := pickup_spec taken
    dsimp only [setCall] at lookup
    rw [calls_set present] at lookup
    split at lookup
    · rename_i here
      rw [here, present] at missing
      cases missing
    · rw [missing] at lookup
      cases lookup
  · cases missing.symm.trans lookup
  · obtain ⟨-, -, -, ⟨-, calls⟩ | ⟨-, calls⟩⟩ := endWorker_spec ended
    · rw [calls, discard, List.getElem?_map, missing] at lookup
      cases lookup
    · rw [calls, missing] at lookup
      cases lookup
  · obtain ⟨before, effect⟩ := callStep_effect (coherent.wired present) present fired
    rw [effect.lookup present] at lookup
    split at lookup
    · rename_i here
      rw [here, present] at missing
      cases missing
    · rw [missing] at lookup
      cases lookup

/-- What runs after a step ran before, or its worker had looked at its caller. -/
theorem Coherent.runs_step (coherent : server.Coherent)
    (fired : server.step maxBody event = some next) (lookup : next.calls[id]? = some after)
    (runs : after.runs = true) :
    ∃ call, server.calls[id]? = some call ∧ (call.runs = true ∨ call.unstarted = true) := by
  cases found : server.calls[id]? with
  | none =>
      rcases coherent.place_of_missing fired lookup found with same | same <;>
        rw [PoolCall.runs, same] at runs <;> cases runs
  | some call =>
      obtain ⟨changed, present, change⟩ := coherent.change fired found
      obtain rfl := Option.some.inj (lookup.symm.trans present)
      refine ⟨call, rfl, ?_⟩
      cases change with
      | same => exact .inl runs
      | picked | discarded => cases runs
      | own _ effect => exact effect.runs runs

/-- A request whose worker has looked at the caller, and which is yet to start, has its caller. -/
def Attended (server : PoolServer Data Exc) : Prop :=
  ∀ (id : Nat) (call : PoolCall Data Exc), server.calls[id]? = some call →
    call.unstarted = true → call.callerGone = false

/-- No caller is done while its request waits for its start: between its worker's look at the caller
and the first hook or handler. -/
def KeepsCaller (server : PoolServer Data Exc) (event : Event Data Exc) : Prop :=
  event.endsCaller = true → ∀ call ∈ event.call.bind fun id => server.calls[id]?,
    call.unstarted = false

instance KeepsCaller.decidable (server : PoolServer Data Exc) (event : Event Data Exc) :
    Decidable (server.KeepsCaller event) :=
  inferInstanceAs (Decidable (event.endsCaller = true →
    ∀ call ∈ event.call.bind fun id => server.calls[id]?, call.unstarted = false))

theorem Attended.step (attended : server.Attended) (coherent : server.Coherent)
    (keeps : server.KeepsCaller event) (fired : server.step maxBody event = some next) :
    next.Attended := by
  intro id after lookup unstarted
  cases found : server.calls[id]? with
  | none =>
      rcases coherent.place_of_missing fired lookup found with same | same <;>
        rw [PoolCall.unstarted, same] at unstarted <;> cases unstarted
  | some call =>
      obtain ⟨changed, present, change⟩ := coherent.change fired found
      obtain rfl := Option.some.inj (lookup.symm.trans present)
      cases change with
      | same => exact attended _ _ found unstarted
      | picked | discarded => cases unstarted
      | own about effect =>
          by_contra gone
          rw [Bool.not_eq_false] at gone
          obtain ⟨before, left | ends⟩ := effect.live unstarted gone
          · rw [attended id call found before] at left
            cases left
          · have member : call ∈ event.call.bind fun id => server.calls[id]? := by
              rw [about]
              exact found
            rw [keeps ends call member] at before
            cases before

/-- Someone has the request: a queue that a worker takes from, a worker thread, or an engine that is
to answer it. -/
def Holds (server : PoolServer Data Exc) (id : Nat) (call : PoolCall Data Exc) : Prop :=
  (∃ lane, (id ∈ server.waiting lane ∨ call.occupies lane = true) ∧
    server.pool.workersOn lane ≠ []) ∨ ∃ stage, call.place = .job stage false

theorem Coherent.holds (coherent : server.Coherent) (staffed : server.Staffed)
    (found : server.calls[id]? = some call) (held : call.held = true) : server.Holds id call := by
  have threads {lane : Lane} (occupied : call.occupies lane = true) : server.Holds id call := by
    have some : 0 < server.calls.countP (PoolCall.occupies lane) :=
      List.countP_pos_iff.mpr ⟨call, List.mem_of_getElem? found, occupied⟩
    have enough := (Nat.le_add_right _ _).trans (staffed lane)
    exact .inl ⟨lane, .inr occupied, List.ne_nil_of_length_pos (some.trans_le enough)⟩
  cases place : call.place with
  | caller | released =>
      rw [PoolCall.held, place] at held
      cases held
  | queued lane =>
      have waits : id ∈ server.waiting lane := (coherent.queued lane id).mpr ⟨call, found, place⟩
      exact .inl ⟨lane, .inl waits, coherent.connected lane (List.ne_nil_of_mem waits)⟩
  | picked lane | looked lane =>
      have occupied : call.occupies lane = true := by
        rw [PoolCall.occupies, place]
        exact decide_eq_true rfl
      exact threads occupied
  | running =>
      have occupied : call.occupies .sync = true := by
        rw [PoolCall.occupies, place]
        rfl
      exact threads occupied
  | job stage answered =>
      cases answered with
      | false => exact .inr ⟨stage, place⟩
      | true =>
          rw [PoolCall.held, place] at held
          cases held

theorem step_about (found : server.calls[id]? = some call) (about : event.call = some id) :
    server.step maxBody event = server.callStep maxBody id call event := by
  cases event <;> simp only [Event.call, reduceCtorEq, Option.some.injEq] at about <;>
    simp only [step, Event.call, about, found, Option.bind_some]

/-- A waiting caller whose request no one has finds its reply, or the channel closed. -/
theorem Coherent.receive_enabled (coherent : server.Coherent)
    (found : server.calls[id]? = some call) (waits : call.caller = .awaiting)
    (free : call.held = false) :
    ∃ next after, server.step maxBody (.receive id) = some next ∧ next.calls[id]? = some after ∧
      after.caller ≠ .awaiting := by
  have wired := coherent.wired found
  rw [step_about found rfl]
  simp only [callStep, waits]
  cases slot : call.reply with
  | absent => exact absurd slot (wired.awaiting waits)
  | pending =>
      rw [wired.pending.mp slot] at free
      cases free
  | sent reply =>
      refine ⟨_, _, rfl, (calls_set found id).trans (if_pos rfl), ?_⟩
      intro waits
      cases waits
  | closed =>
      refine ⟨_, _, rfl, (calls_set found id).trans (if_pos rfl), ?_⟩
      intro waits
      cases waits

/-- Any engine call on an answered job raises, and nothing happens. -/
theorem engineCall_answered (found : server.calls[id]? = some call) {stage : JobStage}
    (answered : call.place = .job stage true) (response : WorkReply Data Exc) (exception : Exc) :
    server.step maxBody (.workerSend id response) = some server ∧
      server.step maxBody (.workerFail id exception) = some server ∧
      server.step maxBody (.workerTimedOut id) = some server := by
  have raises (reply : WorkReply Data Exc) : server.engineCall id call reply = some server := by
    simp only [engineCall, answered, answer, if_true]
  refine ⟨?_, ?_, ?_⟩
  · rw [step_about found rfl]
    exact raises response
  · rw [step_about found rfl]
    exact raises _
  · rw [step_about found rfl]
    exact raises _

/-- What holds of the server throughout. -/
structure Invariant (server : PoolServer Data Exc) : Prop where
  coherent : server.Coherent
  staffed : server.Staffed

theorem Invariant.step (invariant : server.Invariant)
    (fired : server.step maxBody event = some next) : next.Invariant :=
  ⟨invariant.coherent.step fired, invariant.staffed.step invariant.coherent fired⟩

/-! ## What the pool owes -/

/-- What holds of every request and its caller: it is answered at most once, and exactly once if an
engine had it; an engine cannot answer again.  A caller waits only for a request that someone has,
and ends once: with the answer, the timeout or the loss of the worker, unless its client leaves. -/
structure Answered (maxBody : Nat) (server : PoolServer Data Exc) : Prop where
  once : ∀ (id : Nat) (call : PoolCall Data Exc), server.calls[id]? = some call → call.answers ≤ 1
  handedOut : ∀ (id : Nat) (call : PoolCall Data Exc), server.calls[id]? = some call →
    call.handedOut = true →
      (∃ stage answered, call.place = .job stage answered ∧ call.answers = answered.toNat) ∨
        call.place = .released ∧ call.answers = 1
  second : ∀ (id : Nat) (call : PoolCall Data Exc) (stage : JobStage),
    server.calls[id]? = some call → call.place = .job stage true → ∀ reply exception,
      server.answer id call stage true reply = .error "this request was already answered" ∧
        server.step maxBody (.workerSend id reply) = some server ∧
        server.step maxBody (.workerFail id exception) = some server ∧
        server.step maxBody (.workerTimedOut id) = some server
  waiting : ∀ (id : Nat) (call : PoolCall Data Exc), server.calls[id]? = some call →
    call.caller = .awaiting → server.Holds id call ∨
      ∃ next after, server.step maxBody (.receive id) = some next ∧
        next.calls[id]? = some after ∧ after.caller ≠ .awaiting
  ended : ∀ (id : Nat) (call : PoolCall Data Exc), server.calls[id]? = some call →
    ∀ outcome, call.caller = .ended outcome → call.reply ≠ .absent →
      (∃ reply, outcome = .replied reply ∧ call.reply = .sent reply) ∨ outcome = .timedOut ∨
        (∃ what, outcome = .workerLost what) ∨ outcome = .disconnected
  stays : ∀ event next, server.step maxBody event = some next →
    ∀ (id : Nat) (call : PoolCall Data Exc), server.calls[id]? = some call →
      ∃ after, next.calls[id]? = some after ∧
      (∀ outcome, call.caller = .ended outcome → after.caller = .ended outcome) ∧
      (after.caller = .ended .disconnected →
        call.caller = .ended .disconnected ∨ event = .disconnect id)

/-- Whatever happens next, no hook and no handler begins for a caller that is gone. -/
def StartsForCallers (maxBody : Nat) (server : PoolServer Data Exc) : Prop :=
  ∀ event next, server.step maxBody event = some next →
    ∀ (id : Nat) (after : PoolCall Data Exc), next.calls[id]? = some after → after.runs = true →
      ∃ call, server.calls[id]? = some call ∧ (call.runs = true ∨ call.callerGone = false)

theorem Invariant.answered (invariant : server.Invariant) : server.Answered maxBody := by
  obtain ⟨coherent, staffed⟩ := invariant
  refine ⟨fun id call found => (coherent.wired found).once, fun id call found handed => ?_,
    fun id call stage found answered reply exception => ?_, fun id call found waits => ?_,
    fun id call found outcome ended submitted => ?_, fun event next fired id call found => ?_⟩
  · have wired := coherent.wired found
    rcases wired.handed handed with ⟨stage, answered, job⟩ | released
    · exact .inl ⟨stage, answered, job, (wired.job stage answered job).2⟩
    · exact .inr released
  · exact ⟨rfl, engineCall_answered found answered reply exception⟩
  · cases held : call.held with
    | true => exact .inl (coherent.holds staffed found held)
    | false => exact .inr (coherent.receive_enabled found waits held)
  · have wired := coherent.wired found
    have waited := wired.outcome outcome ended submitted
    cases outcome with
    | replied reply => exact .inl ⟨reply, rfl, wired.replied reply ended⟩
    | timedOut => exact .inr (.inl rfl)
    | workerLost what => exact .inr (.inr (.inl ⟨what, rfl⟩))
    | disconnected => exact .inr (.inr (.inr rfl))
    | overloaded | poolClosed | rejected => cases waited
  · obtain ⟨after, lookup, change⟩ := coherent.change fired found
    refine ⟨after, lookup, fun outcome ended => ?_, fun gone => ?_⟩
    · cases change with
      | same | picked | discarded => exact ended
      | own _ effect => exact effect.ended outcome ended
    · cases change with
      | same | picked | discarded => exact .inl gone
      | own about effect =>
          rcases effect.disconnected gone with before | ⟨client, rfl⟩
          · exact .inl before
          · exact .inr (congrArg _ (Option.some.inj about))

theorem Attended.startsForCallers (attended : server.Attended) (coherent : server.Coherent) :
    server.StartsForCallers maxBody := by
  intro event next fired id after lookup runs
  obtain ⟨call, found, before⟩ := coherent.runs_step fired lookup runs
  refine ⟨call, found, ?_⟩
  rcases before with running | unstarted
  · exact .inl running
  · exact .inr (attended id call found unstarted)

/-! ## A caller that leaves too soon -/

/-- The event that ends a caller leaves its request where it is. -/
theorem callStep_endsCaller (wired : call.Wired) (unstarted : call.unstarted = true)
    (ends : event.endsCaller = true) (fired : server.callStep maxBody id call event = some next) :
    ∃ after, next.calls = server.calls.set id after ∧ after.place = call.place ∧
      after.callerGone = true := by
  have submitted : call.caller ≠ .collecting := by
    intro collects
    rw [PoolCall.unstarted, wired.collecting.mp collects] at unstarted
    cases unstarted
  cases event with
  | respond | timeout =>
      simp only [callStep] at fired
      split at fired
      · obtain rfl := Option.some.inj fired
        exact ⟨_, rfl, rfl, rfl⟩
      · cases fired
  | disconnect =>
      simp only [callStep] at fired
      split at fired
      · rename_i collects
        exact absurd collects submitted
      · obtain rfl := Option.some.inj fired
        exact ⟨_, rfl, rfl, rfl⟩
      · obtain rfl := Option.some.inj fired
        exact ⟨_, rfl, rfl, rfl⟩
      · cases fired
  | _ => cases ends

/-- The step that starts a request asks for no caller. -/
theorem not_startsForCallers (found : server.calls[id]? = some call) (gone : call.callerGone = true)
    (ready : call.place = .looked .sync ∨ ∃ answered, call.place = .job .scheduled answered) :
    ¬ server.StartsForCallers maxBody := by
  intro starts
  obtain ⟨next, after, fired, lookup, runs, before⟩ :
      ∃ next after, server.step maxBody (.start id) = some next ∧ next.calls[id]? = some after ∧
        after.runs = true ∧ call.runs = false := by
    rw [step_about found rfl]
    rcases ready with looked | ⟨answered, scheduled⟩
    · refine ⟨server.setCall id { call with place := .running }, _, ?_,
        (calls_set found id).trans (if_pos rfl), rfl, ?_⟩
      · simp only [callStep, start, looked]
      · rw [PoolCall.runs, looked]
    · refine ⟨server.setCall id { call with place := .job .started answered }, _, ?_,
        (calls_set found id).trans (if_pos rfl), rfl, ?_⟩
      · simp only [callStep, start, scheduled]
      · rw [PoolCall.runs, scheduled]
  obtain ⟨same, present, running | there⟩ := starts _ next fired id after lookup runs
  · obtain rfl := Option.some.inj (found.symm.trans present)
    rw [before] at running
    cases running
  · obtain rfl := Option.some.inj (found.symm.trans present)
    rw [gone] at there
    cases there

/-- A fetcher puts a job on the loop, whether its caller is there or not. -/
theorem step_schedule (found : server.calls[id]? = some call) {answered : Bool}
    (fetched : call.place = .job .fetched answered) :
    server.step maxBody (.schedule id) =
      some (server.setCall id { call with place := .job .scheduled answered }) := by
  rw [step_about found rfl]
  simp only [callStep, fetched]

section Life

variable {StartError SpawnError : Type*} {split : WorkerSplit}
  {build : Nat → Except StartError Unit} {spawn : Nat → Except SpawnError Unit}
  {pool : InterpreterPool Nat}

/-- A request that waits for its start is started in the end, if its workers go on, and its caller
is gone. -/
theorem exists_late_start (found : server.calls[id]? = some call)
    (unstarted : call.unstarted = true) (gone : call.callerGone = true) :
    ∃ schedule late, (poolServerMachine Data Exc maxBody pool).runFrom server schedule = some late ∧
      ¬ late.StartsForCallers maxBody := by
  have scheduled (server : PoolServer Data Exc) (call : PoolCall Data Exc) (answered : Bool)
      (found : server.calls[id]? = some call) (gone : call.callerGone = true)
      (fetched : call.place = .job .fetched answered) :
      ∃ late, server.step maxBody (.schedule id) = some late ∧ ¬ late.StartsForCallers maxBody := by
    refine ⟨_, step_schedule found fetched, ?_⟩
    exact not_startsForCallers ((calls_set found id).trans (if_pos rfl)) gone (.inr ⟨_, rfl⟩)
  cases place : call.place with
  | caller | queued | picked | running | released =>
      rw [PoolCall.unstarted, place] at unstarted
      cases unstarted
  | looked lane =>
      cases lane with
      | sync => exact ⟨[], server, rfl, not_startsForCallers found gone (.inl place)⟩
      | async =>
          let job : PoolCall Data Exc :=
            { call with place := .job .fetched false, handedOut := true }
          have handedOut : server.step maxBody (.handOut id) = some (server.setCall id job) := by
            rw [step_about found rfl]
            simp only [callStep, place, if_true, job]
          obtain ⟨late, fired, starts⟩ := scheduled (server.setCall id job) job false
            ((calls_set found id).trans (if_pos rfl)) gone rfl
          refine ⟨[.handOut id, .schedule id], late, ?_, starts⟩
          exact Option.bind_eq_some_iff.mpr
            ⟨_, handedOut, Option.bind_eq_some_iff.mpr ⟨late, fired, rfl⟩⟩
  | job stage answered =>
      cases stage with
      | fetched =>
          obtain ⟨late, fired, starts⟩ := scheduled server call answered found gone place
          exact ⟨[.schedule id], late, Option.bind_eq_some_iff.mpr ⟨late, fired, rfl⟩, starts⟩
      | scheduled => exact ⟨[], server, rfl, not_startsForCallers found gone (.inr ⟨_, place⟩)⟩
      | started =>
          rw [PoolCall.unstarted, place] at unstarted
          cases unstarted

theorem Coherent.late_start (coherent : server.Coherent) (leaves : ¬ server.KeepsCaller event)
    (fired : server.step maxBody event = some next) :
    ∃ schedule late, (poolServerMachine Data Exc maxBody pool).runFrom next schedule = some late ∧
      ¬ late.StartsForCallers maxBody := by
  simp only [KeepsCaller, Classical.not_imp, not_forall, Bool.not_eq_false] at leaves
  obtain ⟨ends, call, member, unstarted⟩ := leaves
  obtain ⟨id, about, found⟩ := Option.bind_eq_some_iff.mp member
  rw [step_about found about] at fired
  obtain ⟨after, calls, place, gone⟩ :=
    callStep_endsCaller (coherent.wired found) unstarted ends fired
  have present : next.calls[id]? = some after := by rw [calls, calls_set found, if_pos rfl]
  apply exists_late_start present
  · rw [PoolCall.unstarted, place]
    exact unstarted
  · exact gone

theorem invariant_of_reachable (started : InterpreterPool.new split build spawn = .ok pool)
    (reachable : (poolServerMachine Data Exc maxBody pool).Reachable server) :
    server.Invariant := by
  refine Machine.Reachable.invariant ?_ (fun invariant fired => invariant.step fired) reachable
  obtain ⟨-, -, empty⟩ := InterpreterPool.new_spec started
  have none (lane : Lane) : (poolServerMachine Data Exc maxBody pool).init.waiting lane = [] := by
    change (pool.queued lane).map _ = []
    rw [empty, List.map_nil]
  refine ⟨⟨fun lookup => ?_, fun lane id => ?_, fun lane => ?_, fun lane nonempty => ?_⟩,
    fun lane => ?_⟩
  · cases lookup
  · rw [none]
    apply iff_of_false
    · exact List.not_mem_nil
    · rintro ⟨call, lookup, -⟩
      cases lookup
  · rw [none]
    exact List.nodup_nil
  · exact absurd (none lane) nonempty
  · cases lane <;> exact Nat.zero_le _

end Life

/-- The pool of one sync and one async worker. -/
def mixedPool : InterpreterPool Nat where
  syncWork := { capacity := 256, workers := [.sync], queue := [] }
  asyncWork := some { capacity := 256, workers := [.async], queue := [] }
  permits := 512

/-- An engine answers a request after its caller gave up, and then once more. -/
def answeredLate : List (Event Nat Unit) :=
  [.arrive 0 .async none, .frame 0 12, .bodyEnds 0, .pickup .async, .check 0, .handOut 0,
    .schedule 0, .start 0, .timeout 0, .workerSend 0 (.ok 7)]

/-- A job's task waits on the loop while its caller times out. -/
def startedLate : List (Event Nat Unit) :=
  [.arrive 0 .async none, .frame 0 12, .bodyEnds 0, .pickup .async, .check 0, .handOut 0,
    .schedule 0, .timeout 0]

end PoolServer

end Pyronova
