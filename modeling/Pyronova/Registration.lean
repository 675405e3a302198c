import Pyronova.Execution
import Pyronova.Router

/-!
# Registration on the main interpreter, and the workers that follow it

Workers run a route by its index in main's table, with the handlers their own script registered.
Main's table grows after it is sealed; what keeps the index meaningful is that a route a worker may
run is never added past the seal, and that a rejected registration leaves nothing behind.
-/

namespace Pyronova

/-- A handler, with what registering it finds out about it. -/
structure PyHandler (Exc : Type*) where
  object : Nat
  /-- `__name__`, as a `str`. -/
  name : Except Exc String
  isCoroutineFunction : Except Exc Bool
  /-- The same of its `__call__`; `false` where it has none. -/
  callIsCoroutineFunction : Except Exc Bool

/-- A `gil` / `stream` / handler-kind combination that no serving path runs. -/
inductive UnservableRoute
  | streamOffMain
  | streamAsync
  deriving DecidableEq, Repr

def UnservableRoute.text : UnservableRoute → String
  | .streamOffMain =>
      "stream=True needs gil=True: a streamed request body is only fed to handlers on the main " ++
      "interpreter"
  | .streamAsync => "stream=True is not supported on `async def` handlers; use a `def` handler"

/-- Where a route with these flags runs, or why none can run it. -/
def routeDispatch : Bool → Bool → Bool → Except UnservableRoute Dispatch
  | _, true, true => .error .streamAsync
  | false, true, false => .error .streamOffMain
  | true, true, false => .ok (.main .streamed)
  | true, false, _ => .ok (.main .buffered)
  | false, false, false => .ok (.worker .sync)
  | false, false, true => .ok (.worker .async)

theorem gil_of_worker {gil stream isAsync : Bool} {kind : HandlerKind}
    (dispatch : routeDispatch gil stream isAsync = .ok (.worker kind)) : gil = false := by
  cases gil <;> cases stream <;> cases isAsync <;> simp_all [routeDispatch]

/-- A route's `gil=` and `stream=` arguments. -/
structure RouteFlags where
  gil : Bool
  stream : Bool
  deriving DecidableEq, Repr

/-- Why a registration is rejected. -/
inductive RegistrationError (Exc InsertError : Type*)
  /-- Inspecting the handler raised. -/
  | handler (exception : Exc)
  | unservable (method path : String) (reason : UnservableRoute)
  | sealedRoute (method path : String)
  | sealedHook (what : String)
  | route (error : RouteError InsertError)
  | fastResponse (method path reason : String)
  | duplicateFastResponse (method path : String)
  | duplicateWebsocket (path : String)

/-- The text of a rejection, given those of exceptions and of the path router's errors. -/
def RegistrationError.text {Exc InsertError : Type*} (raised : Exc → String)
    (describe : InsertError → String) : RegistrationError Exc InsertError → String
  | .handler exception => raised exception
  | .unservable method path reason => method ++ " " ++ path ++ ": " ++ reason.text
  | .sealedRoute method path =>
      method ++ " " ++ path ++ " is registered after app.run() started (for example from an " ++
      "on_startup hook). Such a route exists only in the main interpreter, so it needs gil=True."
  | .sealedHook what =>
      what ++ " is registered after app.run() started (for example from an on_startup hook, or " ++
      "enable_cors() there). Workers only run what the script registered, so every worker route " ++
      "would skip it; register it at module level."
  | .route error => "route error: " ++ error.text describe
  | .fastResponse method path reason =>
      "fast response " ++ method ++ " " ++ path ++ ": " ++ reason
  | .duplicateFastResponse method path =>
      "fast response already registered for " ++ method ++ " " ++ path
  | .duplicateWebsocket path => "websocket handler already registered for " ++ path

/-- A call of one of the app's registration methods, or of `_seal_registrations`. -/
inductive Registration (Exc FastResponse : Type*)
  | get (path : String) (handler : PyHandler Exc) (gil : Bool)
  | post (path : String) (handler : PyHandler Exc) (gil stream : Bool)
  | put (path : String) (handler : PyHandler Exc) (gil stream : Bool)
  | delete (path : String) (handler : PyHandler Exc) (gil : Bool)
  | route (method path : String) (handler : PyHandler Exc) (gil stream : Bool)
  | beforeRequest (handler : PyHandler Exc)
  | afterRequest (handler : PyHandler Exc)
  | fallback (handler : PyHandler Exc)
  | websocket (path : String) (handler : PyHandler Exc)
  /-- With what parsing the response returned. -/
  | addFastResponse (method path : String) (parsed : Except String FastResponse)
  | sealRegistrations

section Register

variable {Router InsertError Exc FastResponse : Type*}

/-- The table of an app. -/
abbrev AppTable (Router Exc FastResponse : Type*) :=
  RouteTable Router (PyHandler Exc) FastResponse

/-- Whether a handler is `async def`, itself or by its `__call__`. -/
def PyHandler.isAsync (handler : PyHandler Exc) : Except Exc Bool :=
  match handler.isCoroutineFunction with
  | .error exception => .error exception
  | .ok true => .ok true
  | .ok false => handler.callIsCoroutineFunction

/-- `seal_if_unsealed`. -/
def sealIfUnsealed (table : AppTable Router Exc FastResponse) : AppTable Router Exc FastResponse :=
  match table.sealed with
  | some _ => table
  | none =>
      { table with
        sealed := some
          { routes := table.routes.length
            beforeHooks := table.beforeHooks.length
            afterHooks := table.afterHooks.length } }

/-- `refuse_sealed_hook`. -/
def refuseSealedHook (table : AppTable Router Exc FastResponse) (what : String) :
    Except (RegistrationError Exc InsertError) Unit :=
  match table.sealed with
  | none => .ok ()
  | some _ => .error (.sealedHook what)

/-- A hook registration: refused once sealed, otherwise `push`. -/
def registerHook (table : AppTable Router Exc FastResponse) (what : String)
    (push : AppTable Router Exc FastResponse → AppTable Router Exc FastResponse) :
    Except (RegistrationError Exc InsertError) Unit × AppTable Router Exc FastResponse :=
  match refuseSealedHook table what with
  | .error error => (.error error, table)
  | .ok () => (.ok (), push table)

variable (library : RouterLibrary Router InsertError)

/-- `add_route`. -/
def addRoute (table : AppTable Router Exc FastResponse) (method path : String)
    (handler : PyHandler Exc) (name : String) (flags : RouteFlags) :
    Except (RegistrationError Exc InsertError) Unit × AppTable Router Exc FastResponse :=
  match handler.isAsync with
  | .error exception => (.error (.handler exception), table)
  | .ok isAsync =>
      match routeDispatch flags.gil flags.stream isAsync with
      | .error reason => (.error (.unservable (library.toUppercase method) path reason), table)
      | .ok dispatch =>
          if table.sealed.isSome ∧ flags.gil = false then
            (.error (.sealedRoute (library.toUppercase method) path), table)
          else
            match table.insert library method path handler name dispatch with
            | (.error error, table) => (.error (.route error), table)
            | (.ok (), table) => (.ok (), table)

/-- `register_route`, on main. -/
def registerRoute (table : AppTable Router Exc FastResponse) (method path : String)
    (handler : PyHandler Exc) (flags : RouteFlags) :
    Except (RegistrationError Exc InsertError) Unit × AppTable Router Exc FastResponse :=
  match handler.name with
  | .error exception => (.error (.handler exception), table)
  | .ok name => addRoute library table method path handler name flags

/-- `add_fast_response`: a method gets its bucket before a duplicate is found in it. -/
def addFastResponse (table : AppTable Router Exc FastResponse) (method path : String)
    (parsed : Except String FastResponse) :
    Except (RegistrationError Exc InsertError) Unit × AppTable Router Exc FastResponse :=
  match parsed with
  | .error reason => (.error (.fastResponse (toAsciiUppercase method) path reason), table)
  | .ok response =>
      let bucket := (table.fastResponses.lookup (toAsciiUppercase method)).getD ∅
      match bucket.lookup path with
      | some _ =>
          (.error (.duplicateFastResponse (toAsciiUppercase method) path),
            { table with
              fastResponses := table.fastResponses.insert (toAsciiUppercase method) bucket })
      | none =>
          (.ok (),
            { table with
              fastResponses := table.fastResponses.insert (toAsciiUppercase method)
                (bucket.insert path response) })

/-- `websocket`. -/
def registerWebsocket (table : AppTable Router Exc FastResponse) (path : String)
    (handler : PyHandler Exc) :
    Except (RegistrationError Exc InsertError) Unit × AppTable Router Exc FastResponse :=
  match table.wsHandlers.lookup path with
  | some _ => (.error (.duplicateWebsocket path), table)
  | none => (.ok (), { table with wsHandlers := table.wsHandlers.insert path handler })

/-- What a registration returns or raises, and the table it leaves. -/
def register (table : AppTable Router Exc FastResponse) :
    Registration Exc FastResponse →
      Except (RegistrationError Exc InsertError) Unit × AppTable Router Exc FastResponse
  | .get path handler gil => registerRoute library table "GET" path handler ⟨gil, false⟩
  | .post path handler gil stream => registerRoute library table "POST" path handler ⟨gil, stream⟩
  | .put path handler gil stream => registerRoute library table "PUT" path handler ⟨gil, stream⟩
  | .delete path handler gil => registerRoute library table "DELETE" path handler ⟨gil, false⟩
  | .route method path handler gil stream =>
      registerRoute library table method path handler ⟨gil, stream⟩
  | .beforeRequest handler =>
      registerHook table "a before_request hook" fun table =>
        { table with beforeHooks := table.beforeHooks ++ [handler] }
  | .afterRequest handler =>
      registerHook table "an after_request hook" fun table =>
        { table with afterHooks := table.afterHooks ++ [handler] }
  | .fallback handler =>
      registerHook table "a fallback handler" fun table => { table with fallback := some handler }
  | .websocket path handler => registerWebsocket table path handler
  | .addFastResponse method path parsed => addFastResponse table method path parsed
  | .sealRegistrations => (.ok (), sealIfUnsealed table)

/-- Registrations in any order, from an empty table. -/
def registrationMachine :
    Machine (AppTable Router Exc FastResponse) (Registration Exc FastResponse) where
  init := .new
  step table registration := some (register library table registration).2

/-! ## What one registration can do -/

/-- The router of a method stores this id at this template. -/
def StoredAt (table : AppTable Router Exc FastResponse) (method path : String) (id : RouteId) :
    Prop :=
  ∃ router, table.routers.lookup method = some router ∧ (path, id) ∈ library.matchit.stored router

/-- Routes, hooks, fallback and seal are as they were. -/
structure Keeps (table after : AppTable Router Exc FastResponse) : Prop where
  routes : after.routes = table.routes
  beforeHooks : after.beforeHooks = table.beforeHooks
  afterHooks : after.afterHooks = table.afterHooks
  fallback : after.fallback = table.fallback
  sealed : after.sealed = table.sealed

theorem Keeps.refl (table : AppTable Router Exc FastResponse) : Keeps table table :=
  ⟨rfl, rfl, rfl, rfl, rfl⟩

/-- How a registration ends. -/
inductive Outcome (table : AppTable Router Exc FastResponse) :
    Except (RegistrationError Exc InsertError) Unit → AppTable Router Exc FastResponse → Prop
  /-- Refused, perhaps with an entry left that matches nothing. -/
  | rejected {error after} (keeps : Keeps table after)
      (matching : ∀ method path,
        after.matchAt library method path = table.matchAt library method path)
      (prebuilt : ∀ method path, after.prebuiltAt method path = table.prebuiltAt method path)
      (stored : ∀ method path id,
        StoredAt library after method path id → StoredAt library table method path id) :
      Outcome table (.error error) after
  /-- A new route, which is a worker's only on an unsealed table. -/
  | added {after route} (routes : after.routes = table.routes ++ [route])
      (hooks : after.beforeHooks = table.beforeHooks ∧ after.afterHooks = table.afterHooks)
      (fallback : after.fallback = table.fallback) (sealed : after.sealed = table.sealed)
      (onWorker : ∀ kind, route.dispatch = .worker kind → table.sealed = none)
      (stored : ∀ method path id, StoredAt library after method path id →
        StoredAt library table method path id ∨
          (route.key = ⟨method, path⟩ ∧ id = table.routes.length)) :
      Outcome table (.ok ()) after
  /-- A hook or the fallback, on an unsealed table. -/
  | hooked {after} (unsealed : table.sealed = none) (sealed : after.sealed = none)
      (routes : after.routes = table.routes) (routers : after.routers = table.routers) :
      Outcome table (.ok ()) after
  /-- Something the routes do not depend on. -/
  | beside {after} (keeps : Keeps table after) (routers : after.routers = table.routers) :
      Outcome table (.ok ()) after
  /-- The first seal. -/
  | sealing (unsealed : table.sealed = none) :
      Outcome table (.ok ()) (sealIfUnsealed table)

/-- A registration that returned this pair ended so. -/
abbrev Ends (table : AppTable Router Exc FastResponse)
    (ran : Except (RegistrationError Exc InsertError) Unit × AppTable Router Exc FastResponse) :
    Prop :=
  Outcome library table ran.1 ran.2

variable {library} {table after : AppTable Router Exc FastResponse}

/-- A registration refused before anything was written. -/
theorem Outcome.refused (error : RegistrationError Exc InsertError) :
    Outcome library table (.error error) table :=
  .rejected (Keeps.refl table) (fun _ _ => rfl) (fun _ _ => rfl) (fun _ _ _ stored => stored)

/-- A method's router after an insert, seen from any method. -/
theorem lookup_insert_router (method other : String) (router : Router) :
    (table.routers.insert method router).lookup other =
      if other = method then some router else table.routers.lookup other := by
  split
  · rename_i same
    rw [same, AList.lookup_insert]
  · rename_i different
    exact AList.lookup_insert_ne different

section Insert

variable {method path : String} {handler : PyHandler Exc} {name : String} {dispatch : Dispatch}
  (lawful : library.matchit.Lawful)
include lawful

/-- The router an insert works on matches what the method matched, a new one nothing. -/
theorem atPath_getD (method requested : String) :
    library.matchit.atPath ((table.routers.lookup method).getD library.matchit.new) requested =
      table.matchAt library method requested := by
  unfold RouteTable.matchAt
  cases table.routers.lookup method with
  | none => exact lawful.atPath_new requested
  | some router => rfl

theorem storedAt_of_getD {id : RouteId}
    (stored : (path, id) ∈ library.matchit.stored
      ((table.routers.lookup method).getD library.matchit.new)) :
    StoredAt library table method path id := by
  cases found : table.routers.lookup method with
  | none =>
      rw [found, Option.getD_none, lawful.new_stored] at stored
      simp at stored
  | some router =>
      rw [found, Option.getD_some] at stored
      exact ⟨router, found, stored⟩

/-- Inserting a route adds it, or changes nothing a request could see. -/
theorem insert_outcome (onWorker : ∀ kind, dispatch = .worker kind → table.sealed = none) :
    match table.insert library method path handler name dispatch with
    | (.error error, after) => Outcome library table (.error (.route error)) after
    | (.ok (), after) => Outcome library table (.ok ()) after := by
  unfold RouteTable.insert
  simp only
  cases templateParams path with
  | error error => exact Outcome.refused _
  | ok names =>
      simp only
      rcases inserted : library.matchit.insert
        ((table.routers.lookup (library.toUppercase method)).getD library.matchit.new) path
        table.routes.length with ⟨result, router⟩
      cases result with
      | error error =>
          refine .rejected ⟨rfl, rfl, rfl, rfl, rfl⟩ ?_ (fun _ _ => rfl) ?_
          · intro other requested
            rw [RouteTable.matchAt, lookup_insert_router]
            split
            · rename_i same
              rw [same, Option.bind_some, lawful.insert_error_atPath inserted,
                atPath_getD lawful]
            · rfl
          · rintro other template id ⟨found, looked, stored⟩
            rw [lookup_insert_router] at looked
            split at looked
            · rename_i same
              obtain rfl := Option.some.inj looked
              rw [lawful.insert_error_stored inserted] at stored
              rw [same]
              exact storedAt_of_getD lawful stored
            · exact ⟨found, looked, stored⟩
      | ok accepted =>
          refine .added rfl ⟨rfl, rfl⟩ rfl rfl onWorker ?_
          rintro other template id ⟨found, looked, stored⟩
          rw [lookup_insert_router] at looked
          split at looked
          · rename_i same
            obtain rfl := Option.some.inj looked
            rw [lawful.insert_ok inserted] at stored
            rcases stored with added | stored
            · obtain ⟨rfl, rfl⟩ := Prod.mk.inj added
              rw [same]
              exact Or.inr ⟨rfl, rfl⟩
            · rw [same]
              exact Or.inl (storedAt_of_getD lawful stored)
          · exact Or.inl ⟨found, looked, stored⟩

theorem addRoute_outcome (table : AppTable Router Exc FastResponse) (method path : String)
    (handler : PyHandler Exc) (name : String) (flags : RouteFlags) :
    Ends library table (addRoute library table method path handler name flags) := by
  unfold addRoute
  split
  · exact Outcome.refused _
  split
  · exact Outcome.refused _
  rename_i dispatch allowed
  split
  · exact Outcome.refused _
  rename_i open_
  have onWorker : ∀ kind, dispatch = .worker kind → table.sealed = none := by
    rintro kind rfl
    by_contra taken
    exact open_ ⟨Option.isSome_iff_ne_none.mpr taken, gil_of_worker allowed⟩
  have outcome := @insert_outcome _ _ _ _ library table method path handler name dispatch lawful
    onWorker
  split <;> rename_i inserted <;> rw [inserted] at outcome <;> exact outcome

theorem registerRoute_outcome (table : AppTable Router Exc FastResponse) (method path : String)
    (handler : PyHandler Exc) (flags : RouteFlags) :
    Ends library table (registerRoute library table method path handler flags) := by
  unfold registerRoute
  split
  · exact Outcome.refused _
  · exact addRoute_outcome lawful table method path handler _ flags

end Insert

theorem registerHook_outcome (what : String)
    {push : AppTable Router Exc FastResponse → AppTable Router Exc FastResponse}
    (sealed : (push table).sealed = table.sealed) (routes : (push table).routes = table.routes)
    (routers : (push table).routers = table.routers) :
    Ends library table (registerHook table what push) := by
  unfold registerHook refuseSealedHook
  cases unsealed : table.sealed with
  | none => exact .hooked unsealed (sealed.trans unsealed) routes routers
  | some boundary => exact Outcome.refused _

theorem addFastResponse_outcome (method path : String) (parsed : Except String FastResponse) :
    Ends library table (addFastResponse table method path parsed) := by
  unfold addFastResponse
  split
  · exact Outcome.refused _
  simp only
  split
  · refine .rejected ⟨rfl, rfl, rfl, rfl, rfl⟩ (fun _ _ => rfl) ?_ (fun _ _ _ stored => stored)
    -- The bucket goes back as it was; an empty one answers no path.
    intro other requested
    unfold RouteTable.prebuiltAt
    by_cases same : other = toAsciiUppercase method
    · rw [same, AList.lookup_insert]
      cases table.fastResponses.lookup (toAsciiUppercase method) <;> rfl
    · rw [AList.lookup_insert_ne same]
  · exact .beside ⟨rfl, rfl, rfl, rfl, rfl⟩ rfl

theorem registerWebsocket_outcome (path : String) (handler : PyHandler Exc) :
    Ends library table (registerWebsocket table path handler) := by
  unfold registerWebsocket
  split
  · exact Outcome.refused _
  · exact .beside ⟨rfl, rfl, rfl, rfl, rfl⟩ rfl

theorem seal_outcome : Outcome library table (.ok ()) (sealIfUnsealed table) := by
  cases sealed : table.sealed with
  | none => exact .sealing sealed
  | some boundary =>
      have same : sealIfUnsealed table = table := by simp [sealIfUnsealed, sealed]
      rw [same]
      exact .beside (Keeps.refl table) rfl

/-- Every registration ends in one of the outcomes. -/
theorem register_outcome (lawful : library.matchit.Lawful)
    (table : AppTable Router Exc FastResponse) (registration : Registration Exc FastResponse) :
    Ends library table (register library table registration) := by
  cases registration with
  | get | post | put | delete | route => exact registerRoute_outcome lawful ..
  | beforeRequest | afterRequest | fallback => exact registerHook_outcome _ rfl rfl rfl
  | websocket path handler => exact registerWebsocket_outcome path handler
  | addFastResponse method path parsed => exact addFastResponse_outcome method path parsed
  | sealRegistrations => exact seal_outcome

/-! ## What holds of every table -/

/-- Ids stored in a router index their route, and past the seal there are only main's routes. -/
structure TableInvariant (library : RouterLibrary Router InsertError)
    (table : AppTable Router Exc FastResponse) : Prop where
  stored : ∀ method path id, StoredAt library table method path id →
    ∃ route, table.routes[id]? = some route ∧ route.key = ⟨method, path⟩
  bounded : ∀ boundary, table.sealed = some boundary → boundary.routes ≤ table.routes.length
  workers : ∀ boundary, table.sealed = some boundary → ∀ (id : RouteId) route kind,
    table.routes[id]? = some route → route.dispatch = .worker kind → id < boundary.routes

theorem tableInvariant_new :
    TableInvariant library (.new : AppTable Router Exc FastResponse) := by
  refine ⟨?_, ?_, ?_⟩
  · rintro method path id ⟨router, looked, -⟩
    simp [RouteTable.new] at looked
  · simp [RouteTable.new]
  · simp [RouteTable.new]

/-- The invariant reads the routes, the seal and the entries of the routers. -/
theorem TableInvariant.of_same (invariant : TableInvariant library table)
    (routes : after.routes = table.routes) (sealed : after.sealed = table.sealed)
    (stored : ∀ method path id,
      StoredAt library after method path id → StoredAt library table method path id) :
    TableInvariant library after := by
  constructor
  · intro method path id holds
    rw [routes]
    exact invariant.stored method path id (stored method path id holds)
  · rw [sealed, routes]
    exact invariant.bounded
  · rw [sealed, routes]
    exact invariant.workers

theorem storedAt_of_routers (routers : after.routers = table.routers) (method path : String)
    (id : RouteId) (stored : StoredAt library after method path id) :
    StoredAt library table method path id := by
  rw [StoredAt, routers] at stored
  exact stored

theorem Outcome.invariant {result : Except (RegistrationError Exc InsertError) Unit}
    (outcome : Outcome library table result after) (invariant : TableInvariant library table) :
    TableInvariant library after := by
  cases outcome with
  | rejected keeps matching prebuilt stored =>
      exact invariant.of_same keeps.routes keeps.sealed stored
  | hooked unsealed sealed routes routers =>
      exact invariant.of_same routes (sealed.trans unsealed.symm) (storedAt_of_routers routers)
  | beside keeps routers =>
      exact invariant.of_same keeps.routes keeps.sealed (storedAt_of_routers routers)
  | added routes hooks fallback sealed onWorker stored =>
      refine ⟨?_, ?_, ?_⟩
      · intro method path id holds
        rw [routes]
        rcases stored method path id holds with earlier | ⟨key, rfl⟩
        · obtain ⟨route, found, key⟩ := invariant.stored method path id earlier
          exact ⟨route, List.getElem?_append_left (List.getElem?_eq_some_iff.mp found).1 ▸ found,
            key⟩
        · exact ⟨_, List.getElem?_concat_length, key⟩
      · intro boundary isSealed
        rw [sealed] at isSealed
        rw [routes, List.length_append]
        exact Nat.le_add_right_of_le (invariant.bounded boundary isSealed)
      · intro boundary isSealed id route kind found dispatch
        rw [sealed] at isSealed
        rw [routes, List.getElem?_append] at found
        split at found
        · exact invariant.workers boundary isSealed id route kind found dispatch
        · -- The new route runs on main: the table is sealed.
          obtain rfl := List.mem_singleton.mp (List.mem_of_getElem? found)
          rw [onWorker kind dispatch] at isSealed
          simp at isSealed
  | sealing unsealed =>
      have written : sealIfUnsealed table =
          { table with sealed := some ⟨table.routes.length, table.beforeHooks.length,
            table.afterHooks.length⟩ } := by
        simp [sealIfUnsealed, unsealed]
      rw [written]
      refine ⟨invariant.stored, ?_, ?_⟩
      · rintro boundary ⟨⟩
        exact le_rfl
      · rintro boundary ⟨⟩ id route kind found -
        exact (List.getElem?_eq_some_iff.mp found).1

/-- A rejected registration changes nothing a request or a worker could see. -/
structure Unchanged (library : RouterLibrary Router InsertError)
    (table after : AppTable Router Exc FastResponse) : Prop extends Keeps table after where
  resolve : ∀ method path,
    after.resolve library method path = table.resolve library method path
  allowedMethods : ∀ path,
    after.allowedMethods library path = table.allowedMethods library path

theorem Outcome.unchanged {error : RegistrationError Exc InsertError}
    (outcome : Outcome library table (.error error) after) : Unchanged library table after := by
  cases outcome with
  | rejected keeps matching prebuilt stored =>
      exact ⟨keeps, RouteTable.resolve_congr library keeps.routes matching,
        RouteTable.allowedMethods_congr library matching prebuilt⟩

/-- Hooks, fallback and seal are what they were, and the routes still begin as they did. -/
structure KeepsSealed (table after : AppTable Router Exc FastResponse) : Prop where
  beforeHooks : after.beforeHooks = table.beforeHooks
  afterHooks : after.afterHooks = table.afterHooks
  fallback : after.fallback = table.fallback
  sealed : after.sealed = table.sealed
  routes : table.routes <+: after.routes

/-- Routes are added behind the others and never taken away. -/
theorem Outcome.routes_grow {result : Except (RegistrationError Exc InsertError) Unit}
    (outcome : Outcome library table result after) : table.routes <+: after.routes := by
  cases outcome with
  | rejected keeps => rw [keeps.routes]
  | added routes =>
      rw [routes]
      exact List.prefix_append _ _
  | hooked unsealed sealed routes => rw [routes]
  | beside keeps => rw [keeps.routes]
  | sealing unsealed => simp [sealIfUnsealed, unsealed]

theorem Outcome.keepsSealed {result : Except (RegistrationError Exc InsertError) Unit}
    (outcome : Outcome library table result after) (isSealed : table.sealed ≠ none) :
    KeepsSealed table after := by
  have grown := outcome.routes_grow
  cases outcome with
  | rejected keeps | beside keeps =>
      exact ⟨keeps.beforeHooks, keeps.afterHooks, keeps.fallback, keeps.sealed, grown⟩
  | added routes hooks fallback sealed => exact ⟨hooks.1, hooks.2, fallback, sealed, grown⟩
  | hooked unsealed => exact absurd unsealed isSealed
  | sealing unsealed => exact absurd unsealed isSealed

/-- A sealed table keeps its hooks, fallback and seal through all later registrations. -/
theorem keepsSealed_of_runFrom (lawful : library.matchit.Lawful)
    {registrations : List (Registration Exc FastResponse)} (isSealed : table.sealed ≠ none)
    (run : (registrationMachine library).runFrom table registrations = some after) :
    KeepsSealed table after := by
  induction registrations generalizing table with
  | nil =>
      obtain rfl := Option.some.inj run
      exact ⟨rfl, rfl, rfl, rfl, List.prefix_refl _⟩
  | cons registration registrations induction =>
      have first := (register_outcome lawful table registration).keepsSealed isSealed
      have rest := induction (first.sealed ▸ isSealed) run
      exact ⟨rest.beforeHooks.trans first.beforeHooks, rest.afterHooks.trans first.afterHooks,
        rest.fallback.trans first.fallback, rest.sealed.trans first.sealed,
        first.routes.trans rest.routes⟩

end Register

end Pyronova
