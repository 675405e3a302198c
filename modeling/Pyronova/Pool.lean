import Mathlib.Data.PNat.Defs
import Mathlib.Tactic
import Pyronova.WorkerStart

/-!
# The worker pool

`def` handlers run on sync workers and `async def` handlers on async ones.  How many there are of
each is decided at the start from the shape of the route table, and which queue a request goes to is
decided when it is submitted.  Both decisions agree: a request is never queued where no worker of
its kind takes from.
-/

namespace Pyronova

/-! ## Dividing the workers -/

structure WorkerSplit where
  syncWorkers : Nat
  asyncWorkers : Nat
  deriving DecidableEq, Repr

def WorkerSplit.total (split : WorkerSplit) : Nat := split.syncWorkers + split.asyncWorkers

inductive SplitError
  | noWorkers
  | oneWorkerForBothKinds
  deriving DecidableEq, Repr

def SplitError.text : SplitError → String
  | .noWorkers => "workers=0: the sub-interpreter pool needs at least one worker"
  | .oneWorkerForBothKinds =>
      "workers=1 cannot serve both sync (`def`) and async (`async def`) routes: the " ++
        "sub-interpreter pool runs each kind on workers of its own, so it needs at least 2 " ++
        "workers (or handlers of one kind only)"

def splitWorkers (n : Nat) (hasSync hasAsync : Bool) : Except SplitError WorkerSplit :=
  match hasSync, hasAsync with
  | false, false => .ok { syncWorkers := n, asyncWorkers := 0 }
  | true, true =>
      if n = 0 then .error .noWorkers
      else if n = 1 then .error .oneWorkerForBothKinds
      else .ok { syncWorkers := n - n / 2, asyncWorkers := n / 2 }
  | true, false =>
      if n = 0 then .error .noWorkers else .ok { syncWorkers := n, asyncWorkers := 0 }
  | false, true =>
      if n = 0 then .error .noWorkers else .ok { syncWorkers := 0, asyncWorkers := n }

def splitWorkersForRoutes (n : Nat) (requiresGil isAsync : List Bool) :
    Except SplitError WorkerSplit :=
  let pooledKinds := ((requiresGil.zip isAsync).filter fun (gil, _) => !gil).map Prod.snd
  splitWorkers n (pooledKinds.any fun isAsync => !isAsync) (pooledKinds.any id)

/-- Per route: whether it runs on main, and whether it is `async def` on a worker. -/
structure RouteShape where
  gil : List Bool
  isAsync : List Bool
  streamed : Nat
  deriving DecidableEq, Repr

namespace RouteShape

variable {Router Handler FastResponse : Type*}

def of (table : RouteTable Router Handler FastResponse) : RouteShape where
  gil := table.routes.map fun route => match route.dispatch with
    | .main _ => true
    | .worker _ => false
  isAsync := table.routes.map fun route => match route.dispatch with
    | .worker .async => true
    | _ => false
  streamed := (table.routes.filter fun route => route.dispatch = .main .streamed).length

def gilCount (shape : RouteShape) : Nat := (shape.gil.filter id).length

def asyncCount (shape : RouteShape) : Nat := (shape.isAsync.filter id).length

end RouteShape

/-! ## The pool -/

/-- Work-queue capacity per worker. -/
def QUEUE_SLOTS_PER_WORKER : Nat := 128

/-- What a request asks a worker for. -/
structure WorkRequest (Payload : Type*) where
  route : RouteId
  kind : HandlerKind
  payload : Payload

/-- A bounded channel, with the kinds of the worker threads that hold a receiver of it. -/
structure WorkChannel (Payload : Type*) where
  capacity : Nat
  workers : List HandlerKind
  queue : List (WorkRequest Payload)

inductive SubmitError
  | full
  | closed
  deriving DecidableEq, Repr

inductive PoolError (StartError SpawnError : Type*)
  | worker (error : StartError)
  | spawn (index : Nat) (source : SpawnError)

structure InterpreterPool (Payload : Type*) where
  syncWork : WorkChannel Payload
  asyncWork : Option (WorkChannel Payload)
  /-- Permits of the admission gate for large bodies. -/
  permits : Nat

/-- Which of the two channels. -/
inductive Lane
  | sync
  | async
  deriving DecidableEq, Repr

namespace WorkChannel

variable {Payload : Type*}

/-- `try_send`: a channel without receivers is disconnected. -/
def trySend (channel : WorkChannel Payload) (request : WorkRequest Payload) :
    Except SubmitError Unit × WorkChannel Payload :=
  if channel.workers = [] then (.error .closed, channel)
  else if channel.queue.length < channel.capacity then
    (.ok (), { channel with queue := channel.queue ++ [request] })
  else (.error .full, channel)

/-- A worker takes the next request. -/
def take (channel : WorkChannel Payload) : WorkChannel Payload :=
  { channel with queue := channel.queue.tail }

end WorkChannel

namespace InterpreterPool

variable {Payload StartError SpawnError : Type*}

/-- Runs `attempt` for every worker index in order, up to the first that fails. -/
def forEachWorker {Error : Type*} (attempt : Nat → Except Error Unit) :
    List Nat → Except (Nat × Error) Unit
  | [] => .ok ()
  | index :: indices =>
      match attempt index with
      | .error error => .error (index, error)
      | .ok () => forEachWorker attempt indices

/-- Builds all workers, then spawns their threads, the sync ones first. -/
def new (split : WorkerSplit) (build : Nat → Except StartError Unit)
    (spawn : Nat → Except SpawnError Unit) :
    Except (PoolError StartError SpawnError) (InterpreterPool Payload) :=
  let n := split.total
  let hasAnyAsync := 0 < split.asyncWorkers
  match forEachWorker build (List.range n) with
  | .error (_, error) => .error (.worker error)
  | .ok () =>
      match forEachWorker spawn (List.range n) with
      | .error (index, source) => .error (.spawn index source)
      | .ok () =>
          .ok
            { syncWork :=
                { capacity := n * QUEUE_SLOTS_PER_WORKER
                  workers := List.replicate split.syncWorkers .sync
                  queue := [] }
              asyncWork :=
                if hasAnyAsync then
                  some
                    { capacity := n * QUEUE_SLOTS_PER_WORKER
                      workers := List.replicate split.asyncWorkers .async
                      queue := [] }
                else none
              permits := n * QUEUE_SLOTS_PER_WORKER * if hasAnyAsync then 2 else 1 }

/-- The channel a request of a kind is sent to: without an async channel, the sync one. -/
def lane (pool : InterpreterPool Payload) (kind : HandlerKind) : Lane :=
  match kind, pool.asyncWork with
  | .async, some _ => .async
  | _, _ => .sync

def channel (pool : InterpreterPool Payload) : Lane → Option (WorkChannel Payload)
  | .sync => some pool.syncWork
  | .async => pool.asyncWork

/-- The kinds of the workers that take from a channel. -/
def workersOn (pool : InterpreterPool Payload) (lane : Lane) : List HandlerKind :=
  ((pool.channel lane).map WorkChannel.workers).getD []

def queued (pool : InterpreterPool Payload) (lane : Lane) : List (WorkRequest Payload) :=
  ((pool.channel lane).map WorkChannel.queue).getD []

def submit (pool : InterpreterPool Payload) (request : WorkRequest Payload) :
    Except SubmitError Unit × InterpreterPool Payload :=
  match request.kind, pool.asyncWork with
  | .async, some channel =>
      let (result, channel) := channel.trySend request
      (result, { pool with asyncWork := some channel })
  | _, _ =>
      let (result, channel) := pool.syncWork.trySend request
      (result, { pool with syncWork := channel })

/-- A change to the channel of one lane. -/
def onLane (pool : InterpreterPool Payload)
    (change : WorkChannel Payload → WorkChannel Payload) : Lane → InterpreterPool Payload
  | .sync => { pool with syncWork := change pool.syncWork }
  | .async => { pool with asyncWork := pool.asyncWork.map change }

/-- A worker of a lane takes its next request. -/
def take (pool : InterpreterPool Payload) (lane : Lane) : InterpreterPool Payload :=
  pool.onLane WorkChannel.take lane

end InterpreterPool

/-! ## Thread-per-core servers -/

/-- Async workers of a thread-per-core server: as many as threads, half of them (at least one) when
`def` routes share the cores. -/
def tpcAsyncWorkers (threads : ℕ+) (hasSync : Bool) : ℕ+ :=
  if hasSync then
    if half : 0 < (threads : Nat) / 2 then ⟨threads / 2, half⟩ else 1
  else threads

/-- Every thread owns a sync worker. -/
structure TpcServer (Payload : Type*) where
  threads : ℕ+
  asyncPool : Option (InterpreterPool Payload)

/-- Where a thread-per-core server dispatches a worker route. -/
inductive TpcPlace
  | inline
  | pooled (lane : Lane)
  /-- No async pool: the request is refused. -/
  | refused
  deriving DecidableEq, Repr

namespace TpcServer

variable {Payload StartError SpawnError Router Handler FastResponse : Type*}

/-- `serve_tpc_workers`: the async pool first, then the workers of the threads. -/
def start (threads : ℕ+) (table : RouteTable Router Handler FastResponse)
    (build buildAsync : Nat → Except StartError Unit)
    (spawnAsync : Nat → Except SpawnError Unit) :
    Except (PoolError StartError SpawnError) (TpcServer Payload) := do
  let shape := RouteShape.of table
  let asyncRoutes := shape.asyncCount
  let syncRoutes := shape.gil.length - shape.gilCount - asyncRoutes
  let asyncWorkers : Nat :=
    if 0 < asyncRoutes then tpcAsyncWorkers threads (0 < syncRoutes) else 0
  let asyncPool ←
    if 0 < asyncWorkers then
      (InterpreterPool.new { syncWorkers := 0, asyncWorkers } buildAsync spawnAsync).map some
    else .ok none
  match InterpreterPool.forEachWorker build (List.range threads) with
  | .error (_, error) => .error (.worker error)
  | .ok () => .ok { threads, asyncPool }

/-- `handle_request_tpc_inline` for a worker route. -/
def place (server : TpcServer Payload) : HandlerKind → TpcPlace
  | .sync => .inline
  | .async =>
      match server.asyncPool with
      | some pool => .pooled (pool.lane .async)
      | none => .refused

/-- The kinds of the workers that serve a place; the inline one is the thread's own. -/
def workersAt (server : TpcServer Payload) : TpcPlace → List HandlerKind
  | .inline => [.sync]
  | .pooled lane => (server.asyncPool.map (·.workersOn lane)).getD []
  | .refused => []

end TpcServer

/-! ## The split serves the table -/

section Split

variable {n : Nat} {hasSync hasAsync : Bool} {split : WorkerSplit}

theorem splitWorkers_ok (divided : splitWorkers n hasSync hasAsync = .ok split) :
    split.total = n ∧ (hasSync → 0 < split.syncWorkers) ∧ (hasAsync → 0 < split.asyncWorkers) := by
  cases hasSync <;> cases hasAsync <;> simp only [splitWorkers] at divided
  case false.false =>
    obtain rfl := Except.ok.inj divided
    simp [WorkerSplit.total]
  case true.false | false.true =>
    split at divided
    · simp at divided
    · rename_i some
      obtain rfl := Except.ok.inj divided
      simpa [WorkerSplit.total] using Nat.pos_of_ne_zero some
  case true.true =>
    split at divided
    · simp at divided
    split at divided
    · simp at divided
    · obtain rfl := Except.ok.inj divided
      simp only [WorkerSplit.total]
      omega

/-- The workers do not suffice exactly when there are fewer than kinds to serve. -/
theorem splitWorkers_error :
    (∃ error, splitWorkers n hasSync hasAsync = .error error) ↔
      n < hasSync.toNat + hasAsync.toNat := by
  cases hasSync <;> cases hasAsync <;> simp only [splitWorkers, Bool.toNat]
  case false.false => simp
  case true.false | false.true =>
    by_cases none : n = 0
    · simp [none]
    · simp [none]
  case true.true =>
    by_cases none : n = 0
    · simp [none]
    · by_cases one : n = 1
      · simp [one]
      · have enough : ¬ n < 2 := by omega
        simp [none, one, enough]

end Split

namespace RouteTable

variable {Router Handler FastResponse : Type*}

/-- A route of the table runs on a worker of a kind. -/
def needs (table : RouteTable Router Handler FastResponse) (kind : HandlerKind) : Bool :=
  table.routes.any fun route => route.dispatch = .worker kind

theorem needs_of_resolve {InsertError : Type*} {library : RouterLibrary Router InsertError}
    {table : RouteTable Router Handler FastResponse} {method path : String} {id : RouteId}
    {kind : HandlerKind} {params : Params}
    (resolved : table.resolve library method path = some (.worker id kind, params)) :
    table.needs kind := by
  obtain ⟨route, found, runs⟩ := route_of_resolve library resolved
  refine List.any_eq_true.mpr ⟨route, List.mem_of_getElem? found, ?_⟩
  simpa using runs

/-- Zipped, the two vectors of the shape tell which kinds the pool must serve. -/
theorem splitWorkersForRoutes_shape (table : RouteTable Router Handler FastResponse) (n : Nat) :
    splitWorkersForRoutes n (RouteShape.of table).gil (RouteShape.of table).isAsync =
      splitWorkers n (table.needs .sync) (table.needs .async) := by
  have pooled (kind : HandlerKind) :
      ((((RouteShape.of table).gil.zip (RouteShape.of table).isAsync).filter
        fun (gil, _) => !gil).map Prod.snd).any (· == decide (kind = .async)) =
        table.needs kind := by
    simp only [RouteShape.of, needs]
    induction table.routes with
    | nil => rfl
    | cons route routes induction =>
        simp only [List.map_cons, List.zip_cons_cons, List.any_cons]
        cases route.dispatch with
        | main body => simpa using induction
        | worker own =>
            rw [← induction]
            cases own <;> cases kind <;> simp
  have sync := pooled .sync
  have async := pooled .async
  simp only [splitWorkersForRoutes]
  rw [← sync, ← async]
  simp

end RouteTable

/-! ## A pool in use -/

inductive PoolEvent (Payload : Type*)
  | submit (request : WorkRequest Payload)
  | take (lane : Lane)

namespace InterpreterPool

variable {Payload StartError SpawnError : Type*}

def step (pool : InterpreterPool Payload) : PoolEvent Payload → InterpreterPool Payload
  | .submit request => (pool.submit request).2
  | .take lane => pool.take lane

def run (pool : InterpreterPool Payload) (events : List (PoolEvent Payload)) :
    InterpreterPool Payload :=
  events.foldl step pool

/-- A request of the kind goes where a worker of the kind takes from, an async one never to the
sync workers. -/
structure Serves (pool : InterpreterPool Payload) (kind : HandlerKind) : Prop where
  worker : kind ∈ pool.workersOn (pool.lane kind)
  apart : kind = .async → pool.lane kind = .async

/-- Submits and takes do not change who takes from where. -/
structure SameWorkers (before after : InterpreterPool Payload) : Prop where
  lane : ∀ kind, after.lane kind = before.lane kind
  workersOn : ∀ lane, after.workersOn lane = before.workersOn lane

theorem trySend_cases (channel : WorkChannel Payload) (request : WorkRequest Payload) :
    (channel.trySend request).2 = channel ∨
      (channel.trySend request).2 = { channel with queue := channel.queue ++ [request] } := by
  rw [WorkChannel.trySend]
  split
  · exact .inl rfl
  split
  · exact .inr rfl
  · exact .inl rfl

theorem submit_eq_onLane (pool : InterpreterPool Payload) (request : WorkRequest Payload) :
    (pool.submit request).2 =
      pool.onLane (fun channel => (channel.trySend request).2) (pool.lane request.kind) := by
  obtain ⟨sync, async, permits⟩ := pool
  cases kind : request.kind <;> cases async <;> simp [submit, lane, onLane, kind]

section OnLane

variable {change : WorkChannel Payload → WorkChannel Payload}
  (keeps : ∀ channel, (change channel).workers = channel.workers)
include keeps

theorem sameWorkers_onLane (pool : InterpreterPool Payload) (lane : Lane) :
    pool.SameWorkers (pool.onLane change lane) := by
  obtain ⟨sync, async, permits⟩ := pool
  constructor
  · intro kind
    cases lane <;> cases kind <;> cases async <;> rfl
  · intro other
    cases lane <;> cases other <;> cases async <;> simp [workersOn, channel, onLane, keeps]

omit keeps

theorem queued_onLane (pool : InterpreterPool Payload) (lane : Lane) {other : Lane}
    {request : WorkRequest Payload} (queued : request ∈ (pool.onLane change lane).queued other) :
    request ∈ pool.queued other ∨
      other = lane ∧ ∃ channel, pool.channel lane = some channel ∧
        request ∈ (change channel).queue := by
  obtain ⟨sync, async, permits⟩ := pool
  cases lane <;> cases other <;> cases async <;>
    simp_all [InterpreterPool.queued, channel, onLane]

end OnLane

/-- A step keeps the workers, and queues at most the submitted request, on its own lane. -/
theorem step_cases (pool : InterpreterPool Payload) (event : PoolEvent Payload) :
    pool.SameWorkers (pool.step event) ∧
      ∀ lane request, request ∈ (pool.step event).queued lane →
        request ∈ pool.queued lane ∨
          event = .submit request ∧ lane = pool.lane request.kind := by
  have inChannel {lane : Lane} {channel : WorkChannel Payload} {request : WorkRequest Payload}
      (found : pool.channel lane = some channel) (member : request ∈ channel.queue) :
      request ∈ pool.queued lane := by
    rwa [queued, found]
  cases event with
  | submit submitted =>
      rw [step, submit_eq_onLane]
      constructor
      · apply sameWorkers_onLane
        intro channel
        rcases trySend_cases channel submitted with same | grown
        · rw [same]
        · rw [grown]
      · intro lane request member
        rcases queued_onLane pool _ member with before | ⟨rfl, channel, found, member⟩
        · exact .inl before
        · rcases trySend_cases channel submitted with same | grown
          · rw [same] at member
            exact .inl (inChannel found member)
          · rw [grown] at member
            rcases List.mem_append.mp member with member | member
            · exact .inl (inChannel found member)
            · obtain rfl := List.mem_singleton.mp member
              exact .inr ⟨rfl, rfl⟩
  | take taken =>
      rw [step, take]
      constructor
      · apply sameWorkers_onLane
        intro channel
        rfl
      · intro lane request member
        rcases queued_onLane pool _ member with before | ⟨rfl, channel, found, member⟩
        · exact .inl before
        · exact .inl (inChannel found (List.mem_of_mem_tail member))

theorem SameWorkers.refl (pool : InterpreterPool Payload) : pool.SameWorkers pool :=
  ⟨fun _ => rfl, fun _ => rfl⟩

theorem SameWorkers.serves {before after : InterpreterPool Payload}
    (same : before.SameWorkers after) {kind : HandlerKind} (serves : before.Serves kind) :
    after.Serves kind where
  worker := by
    rw [same.lane, same.workersOn]
    exact serves.worker
  apart isAsync := by
    rw [same.lane]
    exact serves.apart isAsync

/-- Over any use of a pool, its workers stay, and what is queued was submitted to a lane. -/
theorem run_cases (pool : InterpreterPool Payload) (events : List (PoolEvent Payload)) :
    pool.SameWorkers (pool.run events) ∧
      ∀ lane request, request ∈ (pool.run events).queued lane →
        request ∈ pool.queued lane ∨
          .submit request ∈ events ∧ lane = pool.lane request.kind := by
  induction events using List.reverseRecOn with
  | nil => exact ⟨.refl pool, fun _ _ member => .inl member⟩
  | append_singleton events event induction =>
      obtain ⟨same, queued⟩ := induction
      obtain ⟨sameStep, queuedStep⟩ := (pool.run events).step_cases event
      have last : pool.run (events ++ [event]) = (pool.run events).step event := by
        rw [run, List.foldl_append]
        rfl
      rw [last]
      constructor
      · exact ⟨fun kind => (sameStep.lane kind).trans (same.lane kind),
          fun lane => (sameStep.workersOn lane).trans (same.workersOn lane)⟩
      · intro lane request member
        rcases queuedStep lane request member with before | ⟨rfl, onLane⟩
        · rcases queued lane request before with start | ⟨submitted, onLane⟩
          · exact .inl start
          · exact .inr ⟨List.mem_append_left _ submitted, onLane⟩
        · rw [same.lane] at onLane
          exact .inr ⟨by simp, onLane⟩

/-- What a started pool consists of. -/
theorem new_spec {split : WorkerSplit} {build : Nat → Except StartError Unit}
    {spawn : Nat → Except SpawnError Unit} {pool : InterpreterPool Payload}
    (started : new split build spawn = .ok pool) :
    (0 < split.syncWorkers → pool.Serves .sync) ∧ (0 < split.asyncWorkers → pool.Serves .async) ∧
      ∀ lane, pool.queued lane = [] := by
  simp only [new] at started
  split at started
  · simp at started
  split at started
  · simp at started
  obtain rfl := Except.ok.inj started
  refine ⟨fun positive => ⟨?_, by simp⟩, fun positive => ?_, ?_⟩
  · simpa [lane, workersOn, channel] using Nat.ne_of_gt positive
  · rw [if_pos positive]
    refine ⟨?_, fun _ => rfl⟩
    simpa [lane, workersOn, channel] using Nat.ne_of_gt positive
  · intro lane
    cases lane with
    | sync => rfl
    | async =>
        simp only [queued, channel]
        split <;> rfl

end InterpreterPool

/-! ## Every request is served by its kind -/

section Served

variable {Payload StartError SpawnError Router InsertError Handler FastResponse : Type*}
  {table : RouteTable Router Handler FastResponse} {split : WorkerSplit}
  {build : Nat → Except StartError Unit} {spawn : Nat → Except SpawnError Unit}

theorem serves_of_needs {n : Nat} {pool : InterpreterPool Payload}
    (divided : splitWorkersForRoutes n (RouteShape.of table).gil (RouteShape.of table).isAsync =
      .ok split)
    (started : InterpreterPool.new split build spawn = .ok pool) {kind : HandlerKind}
    (needed : table.needs kind) : pool.Serves kind := by
  rw [RouteTable.splitWorkersForRoutes_shape] at divided
  obtain ⟨-, sync, async⟩ := splitWorkers_ok divided
  obtain ⟨servesSync, servesAsync, -⟩ := InterpreterPool.new_spec started
  cases kind with
  | sync => exact servesSync (sync needed)
  | async => exact servesAsync (async needed)

theorem asyncCount_pos (needed : table.needs .async) : 0 < (RouteShape.of table).asyncCount := by
  obtain ⟨route, member, runs⟩ := List.any_eq_true.mp needed
  have dispatch : route.dispatch = .worker .async := by simpa using runs
  apply List.length_pos_of_mem (a := true)
  rw [List.mem_filter]
  refine ⟨List.mem_map.mpr ⟨route, member, ?_⟩, rfl⟩
  rw [dispatch]

namespace TpcServer

/-- A started server has an async pool with workers when a route is `async def` on a worker. -/
theorem start_spec {threads : ℕ+} {buildAsync : Nat → Except StartError Unit}
    {server : TpcServer Payload}
    (started : start threads table build buildAsync spawn = .ok server)
    (needed : table.needs .async) :
    ∃ pool, server.asyncPool = some pool ∧ pool.Serves .async := by
  have asyncRoutes := asyncCount_pos needed
  simp only [start, if_pos asyncRoutes, PNat.pos, if_true] at started
  generalize syncRoutes : (RouteShape.of table).gil.length - (RouteShape.of table).gilCount -
    (RouteShape.of table).asyncCount = count at started
  cases built : (InterpreterPool.new
      { syncWorkers := 0, asyncWorkers := tpcAsyncWorkers threads (0 < count) }
      buildAsync spawn : Except _ (InterpreterPool Payload)) with
  | error error =>
      rw [built] at started
      simp [Except.map, bind, Except.bind] at started
  | ok pool =>
      rw [built] at started
      simp only [Except.map, bind, Except.bind] at started
      split at started
      · simp at started
      · obtain rfl := Except.ok.inj started
        obtain ⟨-, servesAsync, -⟩ := InterpreterPool.new_spec built
        exact ⟨pool, rfl, servesAsync (PNat.pos _)⟩

end TpcServer

/-- The server after its pool was used. -/
def TpcServer.after (server : TpcServer Payload) (events : List (PoolEvent Payload)) :
    TpcServer Payload :=
  { server with asyncPool := server.asyncPool.map fun pool => pool.run events }

/-- The kinds of workers a table needs. -/
def RouteTable.neededKinds (table : RouteTable Router Handler FastResponse) : Nat :=
  (table.needs .sync).toNat + (table.needs .async).toNat

/-- Where a server dispatches its worker routes, workers of their kind take them. -/
theorem worker_calls_served (library : RouterLibrary Router InsertError)
    (table : RouteTable Router Handler FastResponse) :
    (∀ n split (build : Nat → Except StartError Unit) (spawn : Nat → Except SpawnError Unit)
        (pool : InterpreterPool Payload) events,
      splitWorkersForRoutes n (RouteShape.of table).gil (RouteShape.of table).isAsync = .ok split →
      InterpreterPool.new split build spawn = .ok pool →
      (∀ request, .submit request ∈ events → ∃ method path params,
        table.resolve library method path = some (.worker request.route request.kind, params)) →
      split.total = n ∧
        (∀ method path id kind params,
          table.resolve library method path = some (.worker id kind, params) →
          (pool.run events).Serves kind) ∧
        ∀ lane, ∀ request ∈ (pool.run events).queued lane,
          request.kind ∈ (pool.run events).workersOn lane ∧
            (request.kind = .async → lane = .async)) ∧
    (∀ threads (build buildAsync : Nat → Except StartError Unit)
        (spawn : Nat → Except SpawnError Unit) (server : TpcServer Payload) events,
      TpcServer.start threads table build buildAsync spawn = .ok server →
      ∀ method path id kind params,
        table.resolve library method path = some (.worker id kind, params) →
        kind ∈ (server.after events).workersAt ((server.after events).place kind) ∧
          (kind = .async → (server.after events).place kind = .pooled .async)) ∧
    ∀ n, (∃ error, splitWorkersForRoutes n (RouteShape.of table).gil
        (RouteShape.of table).isAsync = .error error) ↔ n < table.neededKinds := by
  refine ⟨?_, ?_, ?_⟩
  · intro n split build spawn pool events divided started resolved
    obtain ⟨same, queued⟩ := pool.run_cases events
    have empty := (InterpreterPool.new_spec started).2.2
    refine ⟨?_, ?_, ?_⟩
    · rw [RouteTable.splitWorkersForRoutes_shape] at divided
      exact (splitWorkers_ok divided).1
    · intro method path id kind params found
      exact same.serves (serves_of_needs divided started (RouteTable.needs_of_resolve found))
    · intro lane request member
      rcases queued lane request member with before | ⟨submitted, rfl⟩
      · rw [empty] at before
        simp at before
      · obtain ⟨method, path, params, found⟩ := resolved request submitted
        have serves := serves_of_needs divided started (RouteTable.needs_of_resolve found)
        rw [same.workersOn]
        exact ⟨serves.worker, serves.apart⟩
  · intro threads build buildAsync spawn server events started method path id kind params found
    have needed := RouteTable.needs_of_resolve found
    cases kind with
    | sync => exact ⟨List.mem_singleton_self _, by simp⟩
    | async =>
        obtain ⟨pool, hasPool, serves⟩ := TpcServer.start_spec started needed
        have later := (pool.run_cases events).1.serves serves
        simp only [TpcServer.after, TpcServer.workersAt, TpcServer.place, hasPool, Option.map_some]
        refine ⟨later.worker, fun _ => ?_⟩
        rw [later.apart rfl]
  · intro n
    rw [RouteTable.splitWorkersForRoutes_shape]
    exact splitWorkers_error

end Served

/-- One route of each kind. -/
def mixedTable : RouteTable (List (String × RouteId)) Unit Unit :=
  let table := (RouteTable.new.insert literalLibrary "GET" "/a" () "a" (.worker .sync)).2
  (table.insert literalLibrary "GET" "/b" () "b" (.worker .async)).2

theorem worker_calls_served_mixed :
    let ready : Nat → Except Unit Unit := fun _ => .ok ()
    (∃ pool : InterpreterPool Unit,
      splitWorkersForRoutes 3 (RouteShape.of mixedTable).gil (RouteShape.of mixedTable).isAsync =
          .ok { syncWorkers := 2, asyncWorkers := 1 } ∧
        InterpreterPool.new { syncWorkers := 2, asyncWorkers := 1 } ready ready = .ok pool ∧
        (pool.run [.submit ⟨1, .async, ()⟩]).Serves .async ∧
        (pool.run [.submit ⟨1, .async, ()⟩]).queued .async = [⟨1, .async, ()⟩]) ∧
    ∃ server : TpcServer Unit,
      TpcServer.start 1 mixedTable ready ready ready = .ok server ∧
        .async ∈ server.workersAt (server.place .async) := by
  intro ready
  have divided : splitWorkersForRoutes 3 (RouteShape.of mixedTable).gil
      (RouteShape.of mixedTable).isAsync = .ok { syncWorkers := 2, asyncWorkers := 1 } := by rfl
  have resolved : mixedTable.resolve literalLibrary "GET" "/b" = some (.worker 1 .async, []) := by
    decide
  have submitted : ∀ request, PoolEvent.submit request ∈ [PoolEvent.submit ⟨1, .async, ()⟩] →
      ∃ method path params, mixedTable.resolve literalLibrary method path =
        some (.worker request.route request.kind, params) := by
    intro request member
    obtain rfl : request = ⟨1, .async, ()⟩ := by simpa using member
    exact ⟨"GET", "/b", [], resolved⟩
  obtain ⟨pooled, threaded, -⟩ := worker_calls_served literalLibrary mixedTable
  obtain ⟨-, serves, -⟩ := pooled 3 _ ready ready _ _ divided rfl submitted
  obtain ⟨served, -⟩ := threaded 1 ready ready ready _ [] rfl "GET" "/b" 1 .async [] resolved
  exact ⟨⟨_, divided, rfl, serves "GET" "/b" 1 .async [] resolved, rfl⟩, _, rfl, served⟩

end Pyronova
