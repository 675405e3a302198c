import Pyronova.Inversion
import Pyronova.Registration

/-!
# Starting a worker against main's table

A worker runs the script again and serves the handlers that run registered.  It starts only if its
signature is main's, and then takes route indices from main without looking at them again.
-/

namespace Pyronova

/-- The handlers and hooks a worker's script registered, indexed like main's table. -/
structure WorkerRoutes (Handler : Type*) where
  signature : RouteSignature
  handlers : List Handler
  beforeHooks : List Handler
  afterHooks : List Handler

/-- A script that registered nothing. -/
def WorkerRoutes.empty {Handler : Type*} : WorkerRoutes Handler where
  signature := ⟨[], 0, 0⟩
  handlers := []
  beforeHooks := []
  afterHooks := []

/-- What a worker reads off the app its script registered on. -/
def RouteTable.workerRoutes {Router Handler FastResponse : Type*}
    (table : RouteTable Router Handler FastResponse) : WorkerRoutes Handler where
  signature := table.signature
  handlers := table.routes.map Route.handler
  beforeHooks := table.beforeHooks
  afterHooks := table.afterHooks

namespace RouteSignature

def isEmpty (signature : RouteSignature) : Bool :=
  signature.routes.isEmpty && signature.beforeHooks == 0 && signature.afterHooks == 0

/-- The first index where two route lists differ, or where the shorter ends. -/
def firstDifference (expected got : RouteSignature) : Nat :=
  ((expected.routes.zip got.routes).findIdx? fun (left, right) => left != right).getD
    (min expected.routes.length got.routes.length)

/-- A signature with one route a line and the one at `marked` pointed at. -/
def list (marked : Nat) (signature : RouteSignature) : String :=
  String.join (signature.routes.zipIdx.map fun ((method, path, gil), index) =>
    "    [" ++ toString index ++ "] " ++ method ++ " " ++ path ++
      (if gil then " gil=True" else "") ++
      (if index = marked then "  <-- first difference" else "") ++ "\n") ++
  "    before_request hooks: " ++ toString signature.beforeHooks ++
  ", after_request hooks: " ++ toString signature.afterHooks ++ "\n"

def describeMismatch (expected got : RouteSignature) : String :=
  "the main interpreter registered:\n" ++ expected.list (firstDifference expected got) ++
  "this worker's script registered:\n" ++ got.list (firstDifference expected got)

theorem eq_of_isEmpty {signature : RouteSignature} (empty : signature.isEmpty = true) :
    signature = ⟨[], 0, 0⟩ := by
  obtain ⟨routes, beforeHooks, afterHooks⟩ := signature
  simp only [isEmpty, Bool.and_eq_true, List.isEmpty_iff, beq_iff_eq] at empty
  obtain ⟨⟨rfl, rfl⟩, rfl⟩ := empty
  rfl

end RouteSignature

/-- Why a worker's routes are not served. -/
inductive WorkerStartError (Exc : Type*)
  | setup (worker : Nat) (step : String) (raised : Exc)
  | routeMismatch (worker : Nat) (mismatch : String)
  | noRoutes (worker expected : Nat)

def WorkerStartError.text {Exc : Type*} (describe : Exc → String) :
    WorkerStartError Exc → String
  | .setup worker step raised =>
      "worker " ++ toString worker ++ ": " ++ step ++ " failed: " ++ describe raised
  | .routeMismatch worker mismatch =>
      "worker " ++ toString worker ++ ": the script registered a different route table than the " ++
      "main interpreter (a script must register the same routes in every interpreter; routes " ++
      "that exist only on main are registered after app.run() starts and must be gil=True).\n" ++
      mismatch
  | .noRoutes worker expected =>
      "worker " ++ toString worker ++ ": the script registered no routes in the worker, but the " ++
      "main interpreter has " ++ toString expected ++ " route(s). A worker executes the whole " ++
      "script and serves the app it registers routes on; don't register routes only in the main " ++
      "interpreter."

/-- The routes of the app the script registered on, if it did, which must be main's. -/
def registeredRoutes {Exc Handler : Type*} (worker : Nat) (expected : RouteSignature)
    (registered : Except Exc (Option (WorkerRoutes Handler))) :
    Except (WorkerStartError Exc) (WorkerRoutes Handler) :=
  match registered with
  | .error raised => .error (.setup worker "reading the app the script registered" raised)
  | .ok (some routes) =>
      if routes.signature = expected then .ok routes
      else .error (.routeMismatch worker (expected.describeMismatch routes.signature))
  | .ok none =>
      if expected.isEmpty then .ok .empty else .error (.noRoutes worker expected.routes.length)

section Agreement

variable {Router InsertError Exc FastResponse : Type*} {library : RouterLibrary Router InsertError}
  {table after : AppTable Router Exc FastResponse}

theorem signature_routes :
    table.signature.routes = ((table.routes.take
      ((table.sealed.map Sealed.routes).getD table.routes.length)).map Route.summary) := by
  unfold RouteTable.signature
  cases table.sealed <;> rfl

theorem signature_routes_of_unsealed (unsealed : table.sealed = none) :
    table.signature.routes = table.routes.map Route.summary := by
  rw [signature_routes, unsealed, Option.map_none, Option.getD_none, List.take_length]

/-- Registrations after the seal leave the signature that workers are checked against. -/
theorem KeepsSealed.signature_eq (keeps : KeepsSealed table after)
    (invariant : TableInvariant library table) (isSealed : table.sealed ≠ none) :
    after.signature = table.signature := by
  obtain ⟨boundary, sealed⟩ := Option.ne_none_iff_exists'.mp isSealed
  obtain ⟨added, grown⟩ := keeps.routes
  have bounded := invariant.bounded boundary sealed
  simp only [RouteTable.signature, keeps.sealed, sealed, ← grown, Option.getD_some,
    List.take_append_of_le_length bounded]

/-- A route a worker is asked for is in the signature, sealed or not. -/
theorem signature_of_resolve (invariant : TableInvariant library table) {method path : String}
    {id : RouteId} {kind : HandlerKind} {params : Params}
    (resolved : table.resolve library method path = some (.worker id kind, params)) :
    ∃ route, table.routes[id]? = some route ∧
      table.signature.routes[id]? = some route.summary := by
  obtain ⟨route, found, runs⟩ := RouteTable.route_of_resolve library resolved
  have inside : id < (table.sealed.map Sealed.routes).getD table.routes.length := by
    cases sealed : table.sealed with
    | none => exact (List.getElem?_eq_some_iff.mp found).1
    | some boundary => exact invariant.workers boundary sealed id route kind found runs
  refine ⟨route, found, ?_⟩
  rw [signature_routes, List.getElem?_map, List.getElem?_take_of_lt inside, found]
  rfl

/-- A worker of main's signature has main's worker routes at main's indices. -/
theorem worker_serves (invariant : TableInvariant library table)
    {worker : AppTable Router Exc FastResponse} (unsealed : worker.sealed = none)
    (same : worker.signature = table.signature) {method path : String} {id : RouteId}
    {kind : HandlerKind} {params : Params}
    (resolved : table.resolve library method path = some (.worker id kind, params)) :
    id < worker.workerRoutes.handlers.length ∧
      ∃ route own, table.routes[id]? = some route ∧ worker.routes[id]? = some own ∧
        own.key = route.key := by
  obtain ⟨route, found, listed⟩ := signature_of_resolve invariant resolved
  rw [← same, signature_routes_of_unsealed unsealed, List.getElem?_map,
    Option.map_eq_some_iff] at listed
  obtain ⟨own, stored, summary⟩ := listed
  refine ⟨?_, route, own, found, stored, ?_⟩
  · rw [RouteTable.workerRoutes, List.length_map]
    exact (List.getElem?_eq_some_iff.mp stored).1
  · exact Route.key_of_summary summary

/-- Every table registrations reach has the invariant. -/
theorem tableInvariant_of_reachable (lawful : library.matchit.Lawful)
    (reachable : (registrationMachine library).Reachable table) :
    TableInvariant library table := by
  refine Machine.Reachable.invariant tableInvariant_new ?_ reachable
  intro before next registration invariant fired
  obtain rfl := Option.some.inj fired
  exact (register_outcome lawful before registration).invariant invariant

/-- A worker that started beside a sealed main table runs its own route of the same method and
path wherever main sends it a request, whatever main registered since. -/
theorem startedWorker_serves (lawful : library.matchit.Lawful)
    (reachable : (registrationMachine library).Reachable table) (isSealed : table.sealed ≠ none)
    {script : Option (AppTable Router Exc FastResponse)}
    (unsealed : ∀ own, script = some own → own.sealed = none) {worker : Nat}
    {routes : WorkerRoutes (PyHandler Exc)}
    (started : registeredRoutes worker table.signature
      (.ok (script.map RouteTable.workerRoutes) : Except Exc _) = .ok routes)
    {later : List (Registration Exc FastResponse)}
    (run : (registrationMachine library).runFrom table later = some after)
    {method path : String} {id : RouteId} {kind : HandlerKind} {params : Params}
    (resolved : after.resolve library method path = some (.worker id kind, params)) :
    ∃ own, script = some own ∧ routes = own.workerRoutes ∧ id < routes.handlers.length ∧
      ∃ route ownRoute, after.routes[id]? = some route ∧ own.routes[id]? = some ownRoute ∧
        ownRoute.key = route.key := by
  have invariant := tableInvariant_of_reachable lawful (reachable.runFrom run)
  have signature : after.signature = table.signature :=
    (keepsSealed_of_runFrom lawful isSealed run).signature_eq
      (tableInvariant_of_reachable lawful reachable) isSealed
  cases script with
  | none =>
      -- Main's signature is empty, and the resolved route would be in it.
      obtain ⟨route, -, listed⟩ := signature_of_resolve invariant resolved
      simp only [registeredRoutes, Option.map_none] at started
      split at started
      · rename_i empty
        rw [signature, RouteSignature.eq_of_isEmpty empty] at listed
        simp at listed
      · simp at started
  | some own =>
      simp only [registeredRoutes, Option.map_some] at started
      split at started
      · rename_i same
        obtain rfl := Except.ok.inj started
        have serves := worker_serves invariant (unsealed own rfl) (same.trans signature.symm)
          resolved
        exact ⟨own, rfl, rfl, serves⟩
      · simp at started

/-- What holds of a table main has registered on. -/
structure RoutingSound (library : RouterLibrary Router InsertError)
    (table : AppTable Router Exc FastResponse) : Prop where
  /-- An id stored in a router indexes the route of its method and template. -/
  stored : ∀ method path id, StoredAt library table method path id →
    id < table.routes.length ∧ (table.routes[id]?).map Route.key = some ⟨method, path⟩
  rejected : ∀ registration error, (register library table registration).1 = .error error →
    Unchanged library table (register library table registration).2
  sealed : ∀ later after, table.sealed ≠ none →
    (registrationMachine library).runFrom table later = some after → KeepsSealed table after
  workersInside : ∀ boundary, table.sealed = some boundary → ∀ (id : RouteId) route kind,
    table.routes[id]? = some route → route.dispatch = .worker kind → id < boundary.routes
  /-- A worker of the same signature has the worker routes, by index, method and path. -/
  worker : ∀ own : AppTable Router Exc FastResponse, own.sealed = none →
    own.signature = table.signature → ∀ method path id kind params,
    table.resolve library method path = some (.worker id kind, params) →
    id < own.workerRoutes.handlers.length ∧
      ∃ route ownRoute, table.routes[id]? = some route ∧ own.routes[id]? = some ownRoute ∧
        ownRoute.key = route.key

/-- Registrations in any order leave main's table sound. -/
theorem registration_sound (lawful : library.matchit.Lawful)
    (table : AppTable Router Exc FastResponse)
    (reachable : (registrationMachine library).Reachable table) :
    RoutingSound library table := by
  have invariant := tableInvariant_of_reachable lawful reachable
  constructor
  case stored =>
    intro method path id stored
    obtain ⟨route, found, key⟩ := invariant.stored method path id stored
    refine ⟨(List.getElem?_eq_some_iff.mp found).1, ?_⟩
    rw [found, Option.map_some, key]
  case rejected =>
    intro registration error refused
    have outcome := register_outcome lawful table registration
    rw [Ends, refused] at outcome
    exact outcome.unchanged
  case sealed =>
    intro later after isSealed run
    exact keepsSealed_of_runFrom lawful isSealed run
  case workersInside => exact invariant.workers
  case worker =>
    intro own unsealed same method path id kind params resolved
    exact worker_serves invariant unsealed same resolved

end Agreement

/-! ## Literal paths -/

/-- A path router whose templates have no parameters. -/
def literalRouter : Matchit (List (String × RouteId)) Unit where
  new := []
  insert router path id :=
    match router.lookup path with
    | some _ => (.error (), router)
    | none => (.ok (), (path, id) :: router)
  atPath router path := (router.lookup path).map fun id => (id, [])
  stored router := router

theorem literalRouter_lawful : literalRouter.Lawful where
  new_stored := rfl
  insert_ok := by
    intro router path id after inserted entry
    simp only [literalRouter] at inserted ⊢
    split at inserted
    · simp at inserted
    · obtain ⟨-, rfl⟩ := Prod.mk.inj inserted
      exact List.mem_cons
  insert_error_stored := by
    intro router path id error after inserted entry
    simp only [literalRouter] at inserted ⊢
    split at inserted
    · obtain ⟨-, rfl⟩ := Prod.mk.inj inserted
      exact Iff.rfl
    · simp at inserted
  insert_error_atPath := by
    intro router path id error after inserted requested
    simp only [literalRouter] at inserted ⊢
    split at inserted
    · obtain ⟨-, rfl⟩ := Prod.mk.inj inserted
      rfl
    · simp at inserted
  stored_of_atPath := by
    intro router requested id params matched
    obtain ⟨found, looked, same⟩ := Option.map_eq_some_iff.mp matched
    obtain ⟨rfl, -⟩ := Prod.mk.inj same
    exact ⟨requested, List.mem_of_lookup looked⟩

def literalLibrary : RouterLibrary (List (String × RouteId)) Unit where
  matchit := literalRouter
  toUppercase := toAsciiUppercase
  decodeParam := id
  headerValue := some

/-- A script that registers one view twice, and a startup hook that seals and adds another. -/
def lateRoute : List (Registration Unit Unit) :=
  let view : PyHandler Unit := ⟨0, .ok "view", .ok false, .ok false⟩
  [.get "/a" view false, .get "/a" view false, .sealRegistrations, .post "/b" view false false,
    .post "/b" view true false]

theorem registration_sound_lateRoute :
    ∃ table : AppTable (List (String × RouteId)) Unit Unit,
      (registrationMachine literalLibrary).run lateRoute = some table ∧
        table.routes.map Route.key = [⟨"GET", "/a"⟩, ⟨"POST", "/b"⟩] ∧
        table.sealed = some ⟨1, 0, 0⟩ ∧
        table.resolve literalLibrary "HEAD" "/a" = some (.worker 0 .sync, []) ∧
        RoutingSound literalLibrary table := by
  refine ⟨_, rfl, ?_, ?_, ?_, registration_sound literalRouter_lawful _ ⟨lateRoute, rfl⟩⟩
  · decide
  · decide
  · decide

end Pyronova
