import Mathlib.Data.List.AList
import Mathlib.Data.List.Dedup
import Mathlib.Data.List.Sort
import Mathlib.Data.String.Basic
import Mathlib.Tactic

/-!
# The route table

Registered routes, one path router per method, hooks, pre-built responses, and the lookup that
resolves a request.  The path router is not the server's own: it enters as a `Matchit` with the
laws the table relies on, and so do Unicode upper case, percent decoding and header validation.
-/

namespace Pyronova

/-- A route's index in its table. -/
abbrev RouteId := Nat

/-- Path parameters of a matched route. -/
abbrev Params := List (String × String)

/-- A path router: what a match returns, and the templates it stores with their ids. -/
structure Matchit (Router InsertError : Type*) where
  new : Router
  insert : Router → String → RouteId → Except InsertError Unit × Router
  atPath : Router → String → Option (RouteId × Params)
  stored : Router → List (String × RouteId)

/-- What the table relies on. -/
structure Matchit.Lawful {Router InsertError : Type*} (matchit : Matchit Router InsertError) :
    Prop where
  new_stored : matchit.stored matchit.new = []
  insert_ok : ∀ {router path id after}, matchit.insert router path id = (.ok (), after) →
    ∀ entry, entry ∈ matchit.stored after ↔ entry = (path, id) ∨ entry ∈ matchit.stored router
  insert_error_stored : ∀ {router path id error after},
    matchit.insert router path id = (.error error, after) →
    ∀ entry, entry ∈ matchit.stored after ↔ entry ∈ matchit.stored router
  insert_error_atPath : ∀ {router path id error after},
    matchit.insert router path id = (.error error, after) →
    ∀ requested, matchit.atPath after requested = matchit.atPath router requested
  stored_of_atPath : ∀ {router requested id params},
    matchit.atPath router requested = some (id, params) →
    ∃ path, (path, id) ∈ matchit.stored router

theorem Matchit.Lawful.atPath_new {Router InsertError : Type*}
    {matchit : Matchit Router InsertError} (lawful : matchit.Lawful) (requested : String) :
    matchit.atPath matchit.new requested = none := by
  cases found : matchit.atPath matchit.new requested with
  | none => rfl
  | some matched =>
      obtain ⟨path, member⟩ := lawful.stored_of_atPath found
      rw [lawful.new_stored] at member
      simp at member

/-- What the table calls and does not define. -/
structure RouterLibrary (Router InsertError : Type*) where
  matchit : Matchit Router InsertError
  toUppercase : String → String
  /-- Percent decoding of a matched segment, invalid UTF-8 replaced. -/
  decodeParam : String → String
  /-- `HeaderValue::from_str`. -/
  headerValue : String → Option String

def toAsciiUppercase (text : String) : String :=
  String.ofList (text.toList.map Char.toUpper)

/-! ## Templates -/

/-- A route path the router would take differently from what it says. -/
inductive TemplateError
  | colonParam (name : String)
  deriving DecidableEq, Repr

def TemplateError.text : TemplateError → String
  | .colonParam name =>
      "`:" ++ name ++ "` is not a path parameter; write it as `\x7b" ++ name ++ "\x7d`"

/-- `name` for a path segment `:name`. -/
def colonParam : List Char → Option (List Char)
  | ':' :: first :: rest => if first.isAlpha ∨ first = '_' then some (first :: rest) else none
  | _ => none

/-- The parameter names of a path, in order. -/
def paramNames : List Char → List (List Char)
  | [] => []
  | '\x7b' :: '\x7b' :: rest => paramNames rest
  | '\x7b' :: after =>
      match closed : after.dropWhile (· != '\x7d') with
      | [] => []
      | _ :: rest =>
          have shorter : rest.length < after.length := by
            have suffix := List.dropWhile_suffix (· != '\x7d') (l := after)
            have bound := suffix.length_le
            rw [closed] at bound
            simpa using bound
          let name := after.takeWhile (· != '\x7d')
          (if name.head? = some '*' then name.tail else name) :: paramNames rest
  | _ :: rest => paramNames rest
termination_by path => path.length

def templateParams (path : String) : Except TemplateError (List String) :=
  match (path.toList.splitOn '/').findSome? colonParam with
  | some name => .error (.colonParam (String.ofList name))
  | none => .ok ((paramNames path.toList).map String.ofList)

/-! ## The table -/

inductive HandlerKind
  | sync
  | async
  deriving DecidableEq, Repr

/-- How a main-interpreter handler receives the request body. -/
inductive RequestBody
  | buffered
  | streamed
  deriving DecidableEq, Repr

/-- Where a route's handler runs. -/
inductive Dispatch
  | worker (kind : HandlerKind)
  | main (body : RequestBody)
  deriving DecidableEq, Repr

/-- Which handler a request runs. -/
inductive Target
  | route (id : RouteId)
  | fallback
  deriving DecidableEq, Repr

/-- What a request resolved to. -/
inductive RouteCall
  | worker (id : RouteId) (kind : HandlerKind)
  | main (target : Target) (body : RequestBody)
  deriving DecidableEq, Repr

/-- The method is uppercased. -/
@[ext] structure RouteKey where
  method : String
  path : String
  deriving DecidableEq, Repr

structure Route (Handler : Type*) where
  handler : Handler
  name : String
  key : RouteKey
  dispatch : Dispatch

/-- What a signature says of a route: method, path, and whether it runs on main. -/
def Route.summary {Handler : Type*} (route : Route Handler) : String × String × Bool :=
  (route.key.method, route.key.path, match route.dispatch with
    | .main _ => true
    | .worker _ => false)

theorem Route.key_of_summary {Handler : Type*} {left right : Route Handler}
    (same : left.summary = right.summary) : left.key = right.key := by
  simp only [summary, Prod.mk.injEq] at same
  exact RouteKey.ext same.1 same.2.1

/-- Route and hook counts when the registrations were sealed. -/
structure Sealed where
  routes : Nat
  beforeHooks : Nat
  afterHooks : Nat
  deriving DecidableEq, Repr

structure RouteTable (Router Handler FastResponse : Type*) where
  routes : List (Route Handler)
  routers : AList fun _ : String => Router
  fallback : Option Handler
  wsHandlers : AList fun _ : String => Handler
  beforeHooks : List Handler
  afterHooks : List Handler
  /-- Pre-built responses by method, then path. -/
  fastResponses : AList fun _ : String => AList fun _ : String => FastResponse
  sealed : Option Sealed

/-- Why the table rejected a route. -/
inductive RouteRejection (InsertError : Type*)
  | template (error : TemplateError)
  | insert (error : InsertError)

structure RouteError (InsertError : Type*) where
  method : String
  path : String
  source : RouteRejection InsertError

def RouteError.text {InsertError : Type*} (describe : InsertError → String)
    (error : RouteError InsertError) : String :=
  error.method ++ " " ++ error.path ++ ": " ++
    match error.source with
    | .template template => template.text
    | .insert insert => describe insert

/-- The routes and hook counts a worker's script must register. -/
structure RouteSignature where
  /-- Per route index, its summary. -/
  routes : List (String × String × Bool)
  beforeHooks : Nat
  afterHooks : Nat
  deriving DecidableEq

namespace RouteTable

variable {Router InsertError Handler FastResponse : Type*}

def new : RouteTable Router Handler FastResponse where
  routes := []
  routers := ∅
  fallback := none
  wsHandlers := ∅
  beforeHooks := []
  afterHooks := []
  fastResponses := ∅
  sealed := none

variable (library : RouterLibrary Router InsertError)

/-- The fallible router insert goes first; it leaves the method an entry even when it fails. -/
def insert (table : RouteTable Router Handler FastResponse) (method path : String)
    (handler : Handler) (name : String) (dispatch : Dispatch) :
    Except (RouteError InsertError) Unit × RouteTable Router Handler FastResponse :=
  let id := table.routes.length
  let method := library.toUppercase method
  match templateParams path with
  | .error error => (.error { method, path, source := .template error }, table)
  | .ok _ =>
      let router := (table.routers.lookup method).getD library.matchit.new
      match library.matchit.insert router path id with
      | (.error error, router) =>
          (.error { method, path, source := .insert error },
            { table with routers := table.routers.insert method router })
      | (.ok (), router) =>
          (.ok (),
            { table with
              routers := table.routers.insert method router
              routes := table.routes ++ [{ handler, name, key := { method, path }, dispatch }] })

def lookup (table : RouteTable Router Handler FastResponse) (method path : String) :
    Option (RouteId × Params) :=
  let method := if method.toList.any Char.isLower then toAsciiUppercase method else method
  match table.routers.lookup method with
  | none => none
  | some router =>
      match library.matchit.atPath router path with
      | none => none
      | some (id, params) =>
          some (id, params.map fun (key, value) => (key, library.decodeParam value))

/-- The route a request matches; a `HEAD` without a route of its own runs the `GET` route.  Every
id a router stores indexes a route, so the table is never asked for one it does not have. -/
def resolve (table : RouteTable Router Handler FastResponse) (method path : String) :
    Option (RouteCall × Params) :=
  let matched :=
    match table.lookup library method path with
    | some matched => some matched
    | none => if toAsciiUppercase method = "HEAD" then table.lookup library "GET" path else none
  match matched with
  | none => none
  | some (id, params) =>
      match table.routes[id]? with
      | none => none
      | some route =>
          match route.dispatch with
          | .worker kind => some (.worker id kind, params)
          | .main body => some (.main (.route id) body, params)

/-- The methods served where these are routed: `HEAD` wherever `GET` is. -/
def withHead (methods : List String) : List String :=
  if "GET" ∈ methods ∧ "HEAD" ∉ methods then methods ++ ["HEAD"] else methods

/-- Methods as an `Allow` value, sorted. -/
def allowValue (methods : List String) : Option String :=
  if (withHead methods).isEmpty then none
  else library.headerValue (", ".intercalate ((withHead methods).mergeSort (· ≤ ·)).dedup)

/-- The methods that have a route or a pre-built response for the path, as an `Allow` value. -/
def allowedMethods (table : RouteTable Router Handler FastResponse) (path : String) :
    Option String :=
  let routed := table.routers.entries.filter fun entry =>
    (library.matchit.atPath entry.2 path).isSome
  let prebuilt := table.fastResponses.entries.filter fun entry => (entry.2.lookup path).isSome
  allowValue library (routed.map Sigma.fst ++ prebuilt.map Sigma.fst)

/-- `RouteSignature::of`: the table up to its seal, or all of it. -/
def signature (table : RouteTable Router Handler FastResponse) : RouteSignature :=
  let boundary := table.sealed.getD
    { routes := table.routes.length
      beforeHooks := table.beforeHooks.length
      afterHooks := table.afterHooks.length }
  { routes := (table.routes.take boundary.routes).map Route.summary
    beforeHooks := boundary.beforeHooks
    afterHooks := boundary.afterHooks }

/-! ## What resolving and `Allow` depend on -/

/-- What the router of a method says of a path. -/
def matchAt (table : RouteTable Router Handler FastResponse) (method path : String) :
    Option (RouteId × Params) :=
  (table.routers.lookup method).bind fun router => library.matchit.atPath router path

/-- The response built for exactly a method and a path. -/
def prebuiltAt (table : RouteTable Router Handler FastResponse) (method path : String) :
    Option FastResponse :=
  (table.fastResponses.lookup method).bind fun bucket => bucket.lookup path

theorem lookup_eq (table : RouteTable Router Handler FastResponse) (method path : String) :
    table.lookup library method path =
      (table.matchAt library
        (if method.toList.any Char.isLower then toAsciiUppercase method else method)
        path).map fun (id, params) =>
          (id, params.map fun (key, value) => (key, library.decodeParam value)) := by
  simp only [lookup, matchAt]
  generalize (if method.toList.any Char.isLower then toAsciiUppercase method else method) = key
  cases table.routers.lookup key with
  | none => rfl
  | some router =>
      simp only [Option.bind_some]
      cases library.matchit.atPath router path <;> rfl

theorem dedup_mergeSort_congr {left right : List String}
    (same : ∀ method, method ∈ left ↔ method ∈ right) :
    (left.mergeSort (· ≤ ·)).dedup = (right.mergeSort (· ≤ ·)).dedup := by
  have perm : (left.mergeSort (· ≤ ·)).dedup.Perm (right.mergeSort (· ≤ ·)).dedup := by
    rw [List.perm_ext_iff_of_nodup (List.nodup_dedup _) (List.nodup_dedup _)]
    intro method
    simpa using same method
  have sorted (methods : List String) : (methods.mergeSort (· ≤ ·)).dedup.Pairwise (· ≤ ·) :=
    List.Pairwise.sublist (List.dedup_sublist _) (List.pairwise_mergeSort' _ methods)
  exact perm.eq_of_pairwise' (sorted left) (sorted right)

theorem mem_withHead {methods : List String} {method : String} :
    method ∈ withHead methods ↔ method ∈ methods ∨ (method = "HEAD" ∧ "GET" ∈ methods) := by
  unfold withHead
  split
  · simp_all
  · rename_i covered
    constructor
    · exact Or.inl
    · rintro (member | ⟨rfl, get⟩)
      · exact member
      · by_contra absent
        exact covered ⟨get, absent⟩

/-- An `Allow` value depends on the set of its methods alone. -/
theorem allowValue_congr {left right : List String}
    (same : ∀ method, method ∈ left ↔ method ∈ right) :
    allowValue library left = allowValue library right := by
  have served : ∀ method, method ∈ withHead left ↔ method ∈ withHead right := by
    intro method
    rw [mem_withHead, mem_withHead, same method, same "GET"]
  have empty : (withHead left).isEmpty = (withHead right).isEmpty := by
    rw [Bool.eq_iff_iff, List.isEmpty_iff, List.isEmpty_iff, List.eq_nil_iff_forall_not_mem,
      List.eq_nil_iff_forall_not_mem]
    simp only [served]
  rw [allowValue, allowValue, empty, dedup_mergeSort_congr served]

/-- Tables whose routers match alike, over the same routes, resolve alike. -/
theorem resolve_congr {left right : RouteTable Router Handler FastResponse}
    (routes : left.routes = right.routes)
    (matching : ∀ method path, left.matchAt library method path =
      right.matchAt library method path) (method path : String) :
    left.resolve library method path = right.resolve library method path := by
  simp only [resolve, lookup_eq, matching, routes]

/-- A request for a worker asks for a route of the table. -/
theorem route_of_resolve {table : RouteTable Router Handler FastResponse} {method path : String}
    {id : RouteId} {kind : HandlerKind} {params : Params}
    (resolved : table.resolve library method path = some (.worker id kind, params)) :
    ∃ route, table.routes[id]? = some route ∧ route.dispatch = .worker kind := by
  simp only [resolve] at resolved
  split at resolved
  · simp at resolved
  split at resolved
  · simp at resolved
  rename_i route found
  split at resolved
  · rename_i runs
    simp only [Option.some.injEq, Prod.mk.injEq, RouteCall.worker.injEq] at resolved
    obtain ⟨⟨rfl, rfl⟩, -⟩ := resolved
    exact ⟨route, found, runs⟩
  · simp at resolved

/-- The keys whose values give an answer. -/
theorem mem_keys_filter {Value Answer : Type*} (map : AList fun _ : String => Value)
    (answer : Value → Option Answer) (key : String) :
    key ∈ (map.entries.filter fun entry => (answer entry.2).isSome).map Sigma.fst ↔
      ((map.lookup key).bind answer).isSome := by
  constructor
  · intro member
    obtain ⟨⟨found, value⟩, filtered, rfl⟩ := List.mem_map.mp member
    obtain ⟨stored, answers⟩ := List.mem_filter.mp filtered
    rw [AList.mem_lookup_iff.mpr stored]
    exact answers
  · intro answers
    obtain ⟨given, found⟩ := Option.isSome_iff_exists.mp answers
    obtain ⟨value, stored, same⟩ := Option.bind_eq_some_iff.mp found
    refine List.mem_map.mpr ⟨⟨key, value⟩, List.mem_filter.mpr ⟨?_, ?_⟩, rfl⟩
    · exact AList.mem_lookup_iff.mp stored
    · simp [same]

/-- The methods of an `Allow` value. -/
theorem mem_allowed {table : RouteTable Router Handler FastResponse} {method path : String} :
    method ∈ (table.routers.entries.filter fun entry =>
          (library.matchit.atPath entry.2 path).isSome).map Sigma.fst ++
        (table.fastResponses.entries.filter fun entry =>
          (entry.2.lookup path).isSome).map Sigma.fst ↔
      (table.matchAt library method path).isSome ∨ (table.prebuiltAt method path).isSome := by
  rw [List.mem_append, mem_keys_filter table.fastResponses (AList.lookup path),
    mem_keys_filter table.routers (library.matchit.atPath · path)]
  rfl

theorem allowedMethods_congr {left right : RouteTable Router Handler FastResponse}
    (matching : ∀ method path, left.matchAt library method path =
      right.matchAt library method path)
    (prebuilt : ∀ method path, left.prebuiltAt method path = right.prebuiltAt method path)
    (path : String) : left.allowedMethods library path = right.allowedMethods library path := by
  apply allowValue_congr
  intro method
  rw [mem_allowed, mem_allowed, matching, prebuilt]

end RouteTable

end Pyronova
