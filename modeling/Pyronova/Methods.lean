import Mathlib.Tactic
import Pyronova.AcceptEncoding
import Pyronova.Preprocess
import Pyronova.StaticFs

/-!
# The method of a request

A request is decided by its method in several places: the gRPC benchmark, the fast responses, the
routes, the static files, and the body that a `HEAD` goes without.  Two of them let a `HEAD` fall
back to `GET`, one after the other, and only the routes compare methods without regard to case.
-/

namespace Pyronova

/-! ## A site -/

/-- What a request is decided by, beside itself. -/
structure Site (Router Exc FastResponse : Type*) where
  routes : AppTable Router Exc FastResponse
  staticDirs : List StaticMount
  grpcBenchmark : Bool
  /-- What CORS does to the headers of a response. -/
  cors : ResponseHeaders → ResponseHeaders

def GET_SUM_PATH : String := "/benchmark.BenchmarkService/GetSum"

/-- `POST` to that exact path with an `application/grpc*` content type. -/
def isGetSumCall (headers : RequestHeaders) (method path : String) : Bool :=
  method = "POST" && path = GET_SUM_PATH &&
    ((headers.getAll "content-type").head?.bind lineText).any fun contentType =>
      "application/grpc".toList.isPrefixOf contentType

/-- A response about to go out; `sizeHint` is the exact size of its body, where that is known. -/
structure Outgoing where
  headers : ResponseHeaders
  body : Bytes
  sizeHint : Option Nat

/-- A `HEAD` response: the headers a `GET` would get, with its length, and no body. -/
def withoutBody (resp : Outgoing) : Outgoing where
  headers :=
    match resp.sizeHint with
    | some length =>
        if resp.headers.containsKey CONTENT_LENGTH then resp.headers
        else resp.headers.append CONTENT_LENGTH (toString length)
    | none => resp.headers
  body := []
  sizeHint := some 0

/-- What the decision on a request is, before any file is read. -/
inductive Decision (FastResponse : Type*)
  | grpc
  | fast (response : FastResponse)
  | dispatch (call : RouteCall) (params : Params)
  /-- The files to try under the mounts, in order, and what answers when there is none. -/
  | unrouted (tries : List (StaticMount × Bytes)) (otherwise : Unrouted Empty)

namespace Site

variable {Router InsertError Exc FastResponse : Type*}
  (library : RouterLibrary Router InsertError) (site : Site Router Exc FastResponse)
  (headers : RequestHeaders)

/-- CORS, and no body for a `HEAD`. -/
def finish (method : String) (resp : Outgoing) : Outgoing :=
  let resp := { resp with headers := site.cors resp.headers }
  if method = "HEAD" then withoutBody resp else resp

/-- The mounts a path is under, with what is left of it. -/
def mounted (path : String) : List (StaticMount × Bytes) :=
  site.staticDirs.filterMap fun mount =>
    (mount.relative (utf8Encode path)).map fun rel => (mount, rel)

/-- The decision of `preprocess`. -/
def decision (method path : String) : Decision FastResponse :=
  if site.grpcBenchmark && isGetSumCall headers method path then .grpc
  else
    match site.routes.fastResponse method path with
    | some response => .fast response
    | none =>
        match site.routes.resolve library method path with
        | some (call, params) => .dispatch call params
        | none =>
            .unrouted (if method = "GET" ∨ method = "HEAD" then site.mounted path else [])
              (unrouted library site.routes none method path)

/-- What is answered once the files have been tried. -/
def answer {StaticFile : Type*} (staticFile : Option StaticFile) :
    Decision FastResponse → Preprocessed FastResponse StaticFile
  | .grpc => .grpc
  | .fast response => .fast response
  | .dispatch call params => .dispatch call params
  | .unrouted tries otherwise =>
      match if tries = [] then none else staticFile with
      | some file => .staticFile file
      | none =>
          match otherwise with
          | .staticFile file => file.elim
          | .fallback call => .dispatch call []
          | .methodNotAllowed allow => .methodNotAllowed allow
          | .notFound => .notFound

/-- The decision and the file give what `preprocess` returns. -/
theorem preprocess_eq_answer {StaticFile : Type*} {staticFile : Option StaticFile}
    {method path : String} (tried : site.mounted path = [] → staticFile = none) :
    preprocess library site.routes (site.grpcBenchmark && isGetSumCall headers method path)
        staticFile method path =
      answer staticFile (site.decision library headers method path) := by
  rw [preprocess, decision]
  split
  · rfl
  cases site.routes.fastResponse method path with
  | some response => rfl
  | none =>
      cases site.routes.resolve library method path with
      | some found => rfl
      | none =>
          -- without a mount for the path no file is found
          have file : (if (if method = "GET" ∨ method = "HEAD" then site.mounted path else []) = []
                then none else staticFile) =
              if method = "GET" ∨ method = "HEAD" then staticFile else none := by
            by_cases verb : method = "GET" ∨ method = "HEAD"
            · rw [if_pos verb, if_pos verb]
              split
              · rename_i unmounted
                exact (tried unmounted).symm
              · rfl
            · rw [if_neg verb, if_neg verb, if_pos rfl]
          simp only [answer, unrouted, file, ite_self]
          cases if method = "GET" ∨ method = "HEAD" then staticFile else none with
          | some file => rfl
          | none =>
              cases site.routes.fallbackCall with
              | some call => rfl
              | none => cases site.routes.allowedMethods library path <;> rfl

end Site

/-! ## A `HEAD` route beside a `GET` fast response -/

section Head

variable {Router InsertError Exc FastResponse : Type*}
  {library : RouterLibrary Router InsertError} {table : AppTable Router Exc FastResponse}

/-- What a request for a route runs. -/
def Route.call {Handler : Type*} (route : Route Handler) (id : RouteId) : RouteCall :=
  match route.dispatch with
  | .worker kind => .worker id kind
  | .main body => .main (.route id) body

/-- A method with a match of its own runs that route. -/
theorem resolve_of_lookup {method path : String} {id : RouteId} {params : Params}
    {route : Route (PyHandler Exc)}
    (matched : table.lookup library method path = some (id, params))
    (found : table.routes[id]? = some route) :
    table.resolve library method path = some (route.call id, params) := by
  simp only [RouteTable.resolve, matched, found, Route.call]
  cases route.dispatch <;> rfl

theorem fastResponse_head {path : String} (own : table.prebuiltAt "HEAD" path = none) :
    table.fastResponse "HEAD" path = table.prebuiltAt "GET" path := by
  rw [RouteTable.fastResponse]
  split
  · rename_i empty
    exact (prebuiltAt_of_isEmpty empty "GET" path).symm
  · simp [own]

theorem isGetSumCall_head (headers : RequestHeaders) (path : String) :
    isGetSumCall headers "HEAD" path = false := by
  have other : ("HEAD" = "POST") = False := by decide
  simp [isGetSumCall, other]

/-- The match of the `HEAD` router is a route registered for `HEAD`. -/
theorem head_route_of_lookup (lawful : library.matchit.Lawful)
    (invariant : TableInvariant library table) {path : String} {id : RouteId} {params : Params}
    (matched : table.lookup library "HEAD" path = some (id, params)) :
    ∃ route, table.routes[id]? = some route ∧ route.key.method = "HEAD" := by
  rw [RouteTable.lookup_eq] at matched
  obtain ⟨⟨found, raw⟩, atPath, same⟩ := Option.map_eq_some_iff.mp matched
  obtain ⟨rfl, -⟩ := Prod.mk.inj same
  have upper : "HEAD".toList.any Char.isLower = false := by decide
  rw [upper, if_neg (by simp)] at atPath
  obtain ⟨router, looked, inRouter⟩ := Option.bind_eq_some_iff.mp atPath
  obtain ⟨template, stored⟩ := lawful.stored_of_atPath inRouter
  obtain ⟨route, isRoute, key⟩ :=
    invariant.stored "HEAD" template found ⟨router, looked, stored⟩
  exact ⟨route, isRoute, by rw [key]⟩

/-- Where the path has a `HEAD` route and no `HEAD` fast response, the route runs exactly when there
is no `GET` fast response. -/
theorem head_route_runs_iff (lawful : library.matchit.Lawful)
    (site : Site Router Exc FastResponse) {registrations : List (Registration Exc FastResponse)}
    (ran : (registrationMachine library).run registrations = some site.routes)
    (headers : RequestHeaders) {path : String} {id : RouteId} {params : Params}
    (matched : site.routes.lookup library "HEAD" path = some (id, params))
    (own : site.routes.prebuiltAt "HEAD" path = none) :
    (∃ route, site.routes.routes[id]? = some route ∧ route.key.method = "HEAD" ∧
      site.decision library headers "HEAD" path = .dispatch (route.call id) params) ↔
      site.routes.prebuiltAt "GET" path = none := by
  have invariant := tableInvariant_of_reachable lawful ⟨registrations, ran⟩
  obtain ⟨route, found, key⟩ := head_route_of_lookup lawful invariant matched
  have decided : site.decision library headers "HEAD" path =
      match site.routes.prebuiltAt "GET" path with
      | some response => .fast response
      | none => .dispatch (route.call id) params := by
    rw [Site.decision, isGetSumCall_head, Bool.and_false, if_neg (by simp),
      fastResponse_head own, resolve_of_lookup matched found]
  rw [decided]
  cases site.routes.prebuiltAt "GET" path with
  | none => simp [found, key]
  | some response => simp

end Head

/-- A site with nothing but its table. -/
def plainSite (table : AppTable (List (String × RouteId)) Unit Unit) :
    Site (List (String × RouteId)) Unit Unit where
  routes := table
  staticDirs := []
  grpcBenchmark := false
  cors := id

def sampleView : PyHandler Unit := ⟨0, .ok "view", .ok false, .ok false⟩

/-- A `HEAD` route, and a fast response for `GET` on another path. -/
def headBesideGet : List (Registration Unit Unit) :=
  [.route "head" "/a" sampleView false false, .addFastResponse "GET" "/b" (.ok ())]

theorem head_route_runs_headBesideGet :
    ∃ table : AppTable (List (String × RouteId)) Unit Unit,
      (registrationMachine literalLibrary).run headBesideGet = some table ∧
        ∃ route, table.routes[0]? = some route ∧ route.key.method = "HEAD" ∧
          (plainSite table).decision literalLibrary [] "HEAD" "/a" =
            .dispatch (route.call 0) [] := by
  refine ⟨_, rfl, ?_⟩
  have runs := @head_route_runs_iff _ _ _ _ literalLibrary literalRouter_lawful (plainSite _)
    headBesideGet rfl [] "/a" 0 [] (by decide) (by decide)
  exact runs.mpr (by decide)

/-- A `HEAD` route, and a fast response for `GET` on the same path. -/
def headUnderGet : List (Registration Unit Unit) :=
  [.route "HEAD" "/a" sampleView false false, .addFastResponse "GET" "/a" (.ok ())]

theorem head_route_shadowed :
    ∃ table : AppTable (List (String × RouteId)) Unit Unit,
      (registrationMachine literalLibrary).run headUnderGet = some table ∧
        table.lookup literalLibrary "HEAD" "/a" = some (0, []) ∧
        table.prebuiltAt "HEAD" "/a" = none ∧
        (plainSite table).decision literalLibrary [] "HEAD" "/a" = .fast () := by
  refine ⟨_, rfl, ?_, ?_, ?_⟩
  · decide
  · decide
  · rfl

/-! ## The case of the method -/

theorem isLower_toUpper (char : Char) : char.toUpper.isLower = false := by
  by_cases ascii : char.toNat < 128
  · exact ascii_forall (motive := fun char => char.toUpper.isLower = false) (by decide +kernel)
      ascii
  · have upper : char.isLower = false := by
      by_contra lower
      have top := of_decide_eq_true
        (Bool.and_eq_true_iff.mp (Bool.eq_true_of_not_eq_false lower)).2
      exact ascii ((UInt32.le_iff_toNat_le.mp top).trans_lt (by decide))
    rw [toUpper_eq_self upper, upper]

theorem isUppercase_toAsciiUppercase (method : String) : IsUppercase (toAsciiUppercase method) := by
  intro char member
  rw [toAsciiUppercase, String.toList_ofList] at member
  obtain ⟨original, -, rfl⟩ := List.mem_map.mp member
  exact isLower_toUpper original

section Case

variable {Router InsertError Exc FastResponse : Type*}
  {library : RouterLibrary Router InsertError} {table : AppTable Router Exc FastResponse}

/-- A registration writes at most the fast responses of an upper-case method. -/
theorem register_fastResponses (library : RouterLibrary Router InsertError)
    (table : AppTable Router Exc FastResponse) (registration : Registration Exc FastResponse) :
    (register library table registration).2.fastResponses = table.fastResponses ∨
      ∃ method bucket, (register library table registration).2.fastResponses =
        table.fastResponses.insert (toAsciiUppercase method) bucket := by
  have route (method path : String) (handler : PyHandler Exc) (flags : RouteFlags) :=
    (registerRoute_maps library table method path handler flags).1
  cases registration with
  | get path handler gil => exact .inl (route ..)
  | post path handler gil stream => exact .inl (route ..)
  | put path handler gil stream => exact .inl (route ..)
  | delete path handler gil => exact .inl (route ..)
  | route method path handler gil stream => exact .inl (route ..)
  | beforeRequest | afterRequest | fallback =>
      rw [register, registerHook]
      split <;> exact .inl rfl
  | websocket path handler =>
      rw [register, registerWebsocket]
      split <;> exact .inl rfl
  | addFastResponse method path parsed =>
      cases parsed with
      | error reason => exact .inl rfl
      | ok response =>
          simp only [register, addFastResponse]
          split <;> exact .inr ⟨method, _, rfl⟩
  | sealRegistrations =>
      rw [register, sealIfUnsealed]
      split <;> exact .inl rfl

/-- Fast responses are kept under upper-case methods. -/
theorem upperFast_of_run {registrations : List (Registration Exc FastResponse)}
    (ran : (registrationMachine library).run registrations = some table) :
    ∀ method ∈ table.fastResponses, IsUppercase method := by
  induction registrations using List.reverseRecOn generalizing table with
  | nil =>
      obtain rfl := Option.some.inj ran
      simp [registrationMachine, RouteTable.new]
  | append_singleton registrations registration induction =>
      obtain ⟨before, earlier, step⟩ := Machine.run_concat_eq_some.mp ran
      obtain rfl := Option.some.inj step
      have upper := induction earlier
      intro method stored
      rcases register_fastResponses library before registration with same | ⟨key, bucket, inserted⟩
      · rw [same] at stored
        exact upper method stored
      · rw [inserted, AList.mem_insert] at stored
        rcases stored with rfl | stored
        · exact isUppercase_toAsciiUppercase key
        · exact upper method stored

/-- No fast response is found under another spelling. -/
theorem prebuiltAt_of_not_upper (upper : ∀ method ∈ table.fastResponses, IsUppercase method)
    {method path : String} (mixed : ¬ IsUppercase method) :
    table.prebuiltAt method path = none := by
  have missing : table.fastResponses.lookup method = none :=
    AList.lookup_eq_none.mpr fun stored => mixed (upper method stored)
  rw [RouteTable.prebuiltAt, missing, Option.bind_none]

/-- The routes are looked up by the upper-case method. -/
theorem lookup_toAsciiUppercase (library : RouterLibrary Router InsertError)
    (table : AppTable Router Exc FastResponse) (method path : String) :
    table.lookup library (toAsciiUppercase method) path = table.lookup library method path := by
  have same (method : String) :
      (if method.toList.any Char.isLower then toAsciiUppercase method else method) =
        toAsciiUppercase method := by
    split
    · rfl
    · rename_i none
      have upper : IsUppercase method := by
        intro char member
        simpa using List.any_eq_false.mp (Bool.eq_false_iff.mpr none) char member
      exact (toAsciiUppercase_eq_self upper).symm
  rw [RouteTable.lookup_eq, RouteTable.lookup_eq, same, same,
    toAsciiUppercase_eq_self (isUppercase_toAsciiUppercase method)]

theorem resolve_toAsciiUppercase (library : RouterLibrary Router InsertError)
    (table : AppTable Router Exc FastResponse) (method path : String) :
    table.resolve library (toAsciiUppercase method) path = table.resolve library method path := by
  simp only [RouteTable.resolve, lookup_toAsciiUppercase,
    toAsciiUppercase_eq_self (isUppercase_toAsciiUppercase method)]

/-- Two requests that differ in the case of the method are decided alike, and every response goes
out alike. -/
def SameAnswer (library : RouterLibrary Router InsertError) (site : Site Router Exc FastResponse)
    (headers : RequestHeaders) (path left right : String) : Prop :=
  site.decision library headers left path = site.decision library headers right path ∧
    ∀ resp, site.finish left resp = site.finish right resp

/-- Nothing that compares methods exactly has a say in the decision on this method. -/
structure CaseFree (library : RouterLibrary Router InsertError)
    (site : Site Router Exc FastResponse) (headers : RequestHeaders) (path method : String) :
    Prop where
  notHead : method ≠ "HEAD"
  notGrpc : (site.grpcBenchmark && isGetSumCall headers method path) = false
  notFast : site.routes.prebuiltAt method path = none
  notFile : method = "GET" → site.mounted path = [] ∨
    (site.routes.resolve library method path).isSome = true

/-- The decision by the routes alone. -/
def routedDecision (library : RouterLibrary Router InsertError)
    (site : Site Router Exc FastResponse) (method path : String) : Decision FastResponse :=
  match site.routes.resolve library method path with
  | some (call, params) => .dispatch call params
  | none => .unrouted [] (unrouted library site.routes none method path)

theorem fastResponse_of_ne_head {method path : String} (notHead : method ≠ "HEAD") :
    table.fastResponse method path = table.prebuiltAt method path := by
  rw [RouteTable.fastResponse]
  split
  · rename_i empty
    exact (prebuiltAt_of_isEmpty empty method path).symm
  · cases table.prebuiltAt method path <;> rfl

theorem unrouted_none (library : RouterLibrary Router InsertError)
    (table : AppTable Router Exc FastResponse) (left right path : String) :
    (unrouted library table none left path : Unrouted Empty) =
      unrouted library table none right path := by
  simp only [unrouted, ite_self]

/-- A method that is not in upper case is left to the routes. -/
theorem decision_of_not_upper {site : Site Router Exc FastResponse}
    (upper : ∀ method ∈ site.routes.fastResponses, IsUppercase method) (headers : RequestHeaders)
    {method path : String} (mixed : ¬ IsUppercase method) :
    site.decision library headers method path =
      routedDecision library site (toAsciiUppercase method) path := by
  have other (name : String) (isUpper : IsUppercase name) : method ≠ name := by
    rintro rfl
    exact mixed isUpper
  have notHead := other "HEAD" (by decide)
  have notGet := other "GET" (by decide)
  have notPost := other "POST" (by decide)
  rw [Site.decision, fastResponse_of_ne_head notHead, prebuiltAt_of_not_upper upper mixed,
    routedDecision, resolve_toAsciiUppercase,
    unrouted_none library site.routes (toAsciiUppercase method) method]
  simp [isGetSumCall, notHead, notGet, notPost]

theorem finish_head_ne {site : Site Router Exc FastResponse} {method : String}
    (notHead : method ≠ "HEAD") : ∃ resp, site.finish "HEAD" resp ≠ site.finish method resp := by
  refine ⟨{ headers := [], body := [0], sizeHint := none }, ?_⟩
  simp [Site.finish, notHead, withoutBody]

/-- An upper-case method other than `HEAD` is left to the routes where nothing else has a say. -/
theorem decision_eq_routed_iff {site : Site Router Exc FastResponse} {headers : RequestHeaders}
    {method path : String} (notHead : method ≠ "HEAD") :
    site.decision library headers method path = routedDecision library site method path ↔
      CaseFree library site headers path method := by
  have free : CaseFree library site headers path method ↔
      (site.grpcBenchmark && isGetSumCall headers method path) = false ∧
        site.routes.prebuiltAt method path = none ∧
        (method = "GET" → site.mounted path = [] ∨
          (site.routes.resolve library method path).isSome = true) :=
    ⟨fun free => ⟨free.notGrpc, free.notFast, free.notFile⟩,
      fun ⟨notGrpc, notFast, notFile⟩ => ⟨notHead, notGrpc, notFast, notFile⟩⟩
  rw [free, Site.decision, fastResponse_of_ne_head notHead, routedDecision]
  cases site.grpcBenchmark && isGetSumCall headers method path with
  | true => cases site.routes.resolve library method path <;> simp
  | false =>
      cases site.routes.prebuiltAt method path with
      | some response => cases site.routes.resolve library method path <;> simp
      | none =>
          cases site.routes.resolve library method path with
          | some found => simp
          | none => by_cases get : method = "GET" <;> simp [get, notHead]

theorem finish_of_ne_head (site : Site Router Exc FastResponse) {left right : String}
    (notLeft : left ≠ "HEAD") (notRight : right ≠ "HEAD") (resp : Outgoing) :
    site.finish left resp = site.finish right resp := by
  simp [Site.finish, notLeft, notRight]

theorem SameAnswer.comm {site : Site Router Exc FastResponse} {headers : RequestHeaders}
    {path left right : String} : SameAnswer library site headers path left right ↔
      SameAnswer library site headers path right left := by
  constructor
  · exact fun ⟨decided, finished⟩ => ⟨decided.symm, fun resp => (finished resp).symm⟩
  · exact fun ⟨decided, finished⟩ => ⟨decided.symm, fun resp => (finished resp).symm⟩

/-- A method in upper case and another spelling of it. -/
theorem sameAnswer_mixed_iff {site : Site Router Exc FastResponse}
    (upper : ∀ method ∈ site.routes.fastResponses, IsUppercase method) (headers : RequestHeaders)
    {path left right : String} (mixed : ¬ IsUppercase right)
    (same : toAsciiUppercase right = left) :
    SameAnswer library site headers path left right ↔
      CaseFree library site headers path left := by
  have notHead : right ≠ "HEAD" := by
    rintro rfl
    exact mixed (by decide)
  by_cases head : left = "HEAD"
  · obtain ⟨resp, differ⟩ := @finish_head_ne _ _ _ site right notHead
    constructor
    · intro answer
      rw [head] at answer
      exact absurd (answer.2 resp) differ
    · intro free
      exact absurd head free.notHead
  · rw [← decision_eq_routed_iff head, SameAnswer, decision_of_not_upper upper headers mixed, same]
    exact and_iff_left (finish_of_ne_head site head notHead)

/-- Requests that differ in the case of the method are answered alike exactly where they do not
differ, where neither is in upper case, or where nothing compares the method exactly.  A WebSocket
handshake, which is for `GET` exactly, is told apart before any of this. -/
theorem sameAnswer_iff (site : Site Router Exc FastResponse)
    {registrations : List (Registration Exc FastResponse)}
    (ran : (registrationMachine library).run registrations = some site.routes)
    (headers : RequestHeaders) (path : String) {left right : String}
    (same : toAsciiUppercase left = toAsciiUppercase right) :
    SameAnswer library site headers path left right ↔
      left = right ∨ ¬ IsUppercase left ∧ ¬ IsUppercase right ∨
        CaseFree library site headers path (toAsciiUppercase left) := by
  have upper := upperFast_of_run ran
  by_cases isLeft : IsUppercase left
  · rw [toAsciiUppercase_eq_self isLeft] at same ⊢
    by_cases isRight : IsUppercase right
    · obtain rfl : left = right := same.trans (toAsciiUppercase_eq_self isRight)
      exact iff_of_true ⟨rfl, fun _ => rfl⟩ (.inl rfl)
    · have differ : left ≠ right := fun equal => isRight (equal ▸ isLeft)
      rw [sameAnswer_mixed_iff upper headers isRight same.symm]
      simp [differ, isLeft]
  · by_cases isRight : IsUppercase right
    · have differ : left ≠ right := fun equal => isLeft (equal ▸ isRight)
      have folded : toAsciiUppercase left = right := same.trans (toAsciiUppercase_eq_self isRight)
      rw [SameAnswer.comm, sameAnswer_mixed_iff upper headers isLeft folded, folded]
      simp [differ, isRight]
    · have notHead {method : String} (mixed : ¬ IsUppercase method) : method ≠ "HEAD" := by
        rintro rfl
        exact mixed (by decide)
      refine iff_of_true ⟨?_, ?_⟩ (.inr (.inl ⟨isLeft, isRight⟩))
      · rw [decision_of_not_upper upper headers isLeft, decision_of_not_upper upper headers isRight,
          same]
      · exact finish_of_ne_head site (notHead isLeft) (notHead isRight)

end Case

/-- A fast response for `GET`. -/
def prebuiltGet : List (Registration Unit Unit) := [.addFastResponse "get" "/a" (.ok ())]

theorem sameAnswer_post :
    ∃ table : AppTable (List (String × RouteId)) Unit Unit,
      (registrationMachine literalLibrary).run prebuiltGet = some table ∧
        SameAnswer literalLibrary (plainSite table) [] "/a" "post" "POST" := by
  refine ⟨_, rfl, ?_⟩
  have answers :=
    @sameAnswer_iff _ _ _ _ literalLibrary (plainSite _) prebuiltGet rfl [] "/a" "post"
    "POST" (by decide)
  refine answers.mpr (.inr (.inr ⟨by decide, by decide, by decide, ?_⟩))
  intro get
  exact absurd get (by decide)

/-- The fast response is for `GET` in capitals only: `get` is left to the routes. -/
theorem sameAnswer_broken :
    ∃ table : AppTable (List (String × RouteId)) Unit Unit,
      (registrationMachine literalLibrary).run prebuiltGet = some table ∧
        toAsciiUppercase "get" = toAsciiUppercase "GET" ∧
        (plainSite table).decision literalLibrary [] "GET" "/a" = .fast () ∧
        (∃ otherwise, (plainSite table).decision literalLibrary [] "get" "/a" =
          .unrouted [] otherwise) ∧
        ¬ SameAnswer literalLibrary (plainSite table) [] "/a" "get" "GET" := by
  have differ (table : AppTable (List (String × RouteId)) Unit Unit) {otherwise : Unrouted Empty}
      (upper : (plainSite table).decision literalLibrary [] "GET" "/a" = .fast ())
      (lower : (plainSite table).decision literalLibrary [] "get" "/a" =
        .unrouted [] otherwise) :
      ¬ SameAnswer literalLibrary (plainSite table) [] "/a" "get" "GET" := by
    rintro ⟨decided, -⟩
    rw [upper, lower] at decided
    cases decided
  exact ⟨_, rfl, by decide, rfl, ⟨_, rfl⟩, differ _ rfl rfl⟩

end Pyronova
