import Mathlib.Tactic
import Pyronova.WorkerStart

/-!
# From a request to a handler

Fast responses, route resolution, static files, the fallback, 405 and 404.  Three lookups say which
methods a path has: the exact map of fast responses, the router of the method, and the scan of both
for `Allow`.  They describe the same set.
-/

namespace Pyronova

namespace RouteTable

variable {Router InsertError Handler FastResponse : Type*}

/-- The response built for exactly a method and a path; for a `HEAD` with none, the `GET` one. -/
def fastResponse (table : RouteTable Router Handler FastResponse) (method path : String) :
    Option FastResponse :=
  if table.fastResponses.entries.isEmpty then none
  else
    match table.prebuiltAt method path with
    | some response => some response
    | none => if method = "HEAD" then table.prebuiltAt "GET" path else none

/-- The fallback handler's call. -/
def fallbackCall (table : RouteTable Router Handler FastResponse) : Option RouteCall :=
  table.fallback.map fun _ => .main .fallback .buffered

end RouteTable

/-! ## The decision -/

/-- What answers a request that no route matched. -/
inductive Unrouted (StaticFile : Type*)
  | staticFile (file : StaticFile)
  | fallback (call : RouteCall)
  | methodNotAllowed (allow : String)
  | notFound
  deriving DecidableEq, Repr

/-- What becomes of a request before any handler. -/
inductive Preprocessed (FastResponse StaticFile : Type*)
  /-- The gRPC benchmark method. -/
  | grpc
  | fast (response : FastResponse)
  | dispatch (call : RouteCall) (params : Params)
  | staticFile (file : StaticFile)
  | methodNotAllowed (allow : String)
  | notFound
  deriving DecidableEq, Repr

section Decision

variable {Router InsertError Handler FastResponse StaticFile : Type*}
  (library : RouterLibrary Router InsertError)

/-- `unrouted`, with what `try_static_file` returns for the path. -/
def unrouted (table : RouteTable Router Handler FastResponse) (staticFile : Option StaticFile)
    (method path : String) : Unrouted StaticFile :=
  let file := if method = "GET" ∨ method = "HEAD" then staticFile else none
  match file with
  | some file => .staticFile file
  | none =>
      match table.fallbackCall with
      | some call => .fallback call
      | none =>
          match table.allowedMethods library path with
          | some allow => .methodNotAllowed allow
          | none => .notFound

/-- `preprocess`; `grpc` when the benchmark method is on and this request calls it. -/
def preprocess (table : RouteTable Router Handler FastResponse) (grpc : Bool)
    (staticFile : Option StaticFile) (method path : String) :
    Preprocessed FastResponse StaticFile :=
  if grpc then .grpc
  else
    match table.fastResponse method path with
    | some response => .fast response
    | none =>
        match table.resolve library method path with
        | some (call, params) => .dispatch call params
        | none =>
            match unrouted library table staticFile method path with
            | .staticFile file => .staticFile file
            | .fallback call => .dispatch call []
            | .methodNotAllowed allow => .methodNotAllowed allow
            | .notFound => .notFound

/-- A fast response or a route answers the method on the path. -/
def Served (table : RouteTable Router Handler FastResponse) (method path : String) : Prop :=
  (table.fastResponse method path).isSome ∨ (table.resolve library method path).isSome

end Decision

/-! ## Methods -/

/-- A character of an HTTP token. -/
def isTokenChar (char : Char) : Bool :=
  char.isAlphanum || "!#$%&'*+-.^_`|~".toList.contains char

/-- An HTTP method: a token. -/
def IsToken (method : String) : Prop :=
  method.toList ≠ [] ∧ ∀ char ∈ method.toList, isTokenChar char

/-- No ASCII lower-case letter. -/
def IsUppercase (method : String) : Prop := ∀ char ∈ method.toList, char.isLower = false

instance (method : String) : Decidable (IsToken method) :=
  decidable_of_iff (method.toList ≠ [] ∧ method.toList.all isTokenChar) (by simp [IsToken])

instance (method : String) : Decidable (IsUppercase method) :=
  decidable_of_iff (method.toList.all fun char => !char.isLower) (by simp [IsUppercase])

/-- What the table relies on in Rust's strings and in the header library. -/
structure RouterLibrary.TextLaws {Router InsertError : Type*}
    (library : RouterLibrary Router InsertError) : Prop where
  toUppercase : ∀ text : String, (∀ char ∈ text.toList, char.toNat < 128) →
    library.toUppercase text = toAsciiUppercase text
  headerValue : ∀ text : String, (∀ char ∈ text.toList, 32 ≤ char.toNat ∧ char.toNat < 127) →
    library.headerValue text = some text

theorem ascii_forall {motive : Char → Prop}
    (all : ∀ code : Fin 128, motive (Char.ofNat code)) {char : Char} (ascii : char.toNat < 128) :
    motive char := by
  have holds := all ⟨char.toNat, ascii⟩
  rwa [Char.ofNat_toNat] at holds

theorem toUpper_eq_self {char : Char} (upper : char.isLower = false) : char.toUpper = char := by
  refine dif_neg fun between => ?_
  have lower : char.isLower = true :=
    Bool.and_eq_true_iff.mpr ⟨decide_eq_true between.1, decide_eq_true between.2⟩
  rw [upper] at lower
  cases lower

theorem isTokenChar_ascii {char : Char} (token : isTokenChar char) : char.toNat < 128 := by
  rcases Bool.or_eq_true_iff.mp token with letter | mark
  · have below {last : Char} (top : char.val ≤ last.val) (small : last.toNat < 128) :
        char.toNat < 128 := (UInt32.le_iff_toNat_le.mp top).trans_lt small
    rcases Bool.or_eq_true_iff.mp letter with alpha | digit
    · rcases Bool.or_eq_true_iff.mp alpha with upper | lower
      · have between : char.val ≥ 'A'.val ∧ char.val ≤ 'Z'.val := of_decide_eq_true upper
        exact below between.2 (by decide)
      · have top := of_decide_eq_true (Bool.and_eq_true_iff.mp lower).2
        exact below top (by decide)
    · have top := of_decide_eq_true (Bool.and_eq_true_iff.mp digit).2
      exact below top (by decide)
  · have member : char ∈ "!#$%&'*+-.^_`|~".toList := by simpa using mark
    have marks : "!#$%&'*+-.^_`|~".toList.all (·.toNat < 128) = true := by decide
    exact of_decide_eq_true (List.all_eq_true.mp marks char member)

theorem isTokenChar_visible {char : Char} (token : isTokenChar char) :
    32 ≤ char.toNat ∧ char.toNat < 127 :=
  ascii_forall (motive := fun char => isTokenChar char → 32 ≤ char.toNat ∧ char.toNat < 127)
    (by decide +kernel) (isTokenChar_ascii token) token

theorem isTokenChar_toUpper {char : Char} (token : isTokenChar char) :
    isTokenChar char.toUpper ∧ char.toUpper.isLower = false :=
  ascii_forall
    (motive := fun char => isTokenChar char → isTokenChar char.toUpper ∧
      char.toUpper.isLower = false)
    (by decide +kernel) (isTokenChar_ascii token) token

theorem toAsciiUppercase_eq_self {method : String} (upper : IsUppercase method) :
    toAsciiUppercase method = method := by
  have same : method.toList.map Char.toUpper = method.toList := by
    rw [List.map_congr_left fun char member => toUpper_eq_self (upper char member), List.map_id']
  rw [toAsciiUppercase, same, String.ofList_toList]

/-- A method in upper case is a token in upper case. -/
theorem IsToken.toAsciiUppercase {method : String} (token : IsToken method) :
    IsToken (toAsciiUppercase method) ∧ IsUppercase (Pyronova.toAsciiUppercase method) := by
  have chars : (Pyronova.toAsciiUppercase method).toList = method.toList.map Char.toUpper :=
    String.toList_ofList
  refine ⟨⟨?_, ?_⟩, ?_⟩
  · rw [chars]
    simpa using token.1
  · intro char member
    rw [chars] at member
    obtain ⟨original, isChar, rfl⟩ := List.mem_map.mp member
    exact (isTokenChar_toUpper (token.2 original isChar)).1
  · intro char member
    rw [chars] at member
    obtain ⟨original, isChar, rfl⟩ := List.mem_map.mp member
    exact (isTokenChar_toUpper (token.2 original isChar)).2

/-! ## The keys of the table -/

/-- The methods a registration names. -/
def Registration.methods {Exc FastResponse : Type*} : Registration Exc FastResponse → List String
  | .get .. => ["GET"]
  | .post .. => ["POST"]
  | .put .. => ["PUT"]
  | .delete .. => ["DELETE"]
  | .route method .. => [method]
  | .addFastResponse method .. => [method]
  | .beforeRequest _ | .afterRequest _ | .fallback _ | .websocket .. | .sealRegistrations => []

section Keys

variable {Router InsertError Exc FastResponse : Type*}
  {library : RouterLibrary Router InsertError} {table : AppTable Router Exc FastResponse}

/-- Routers and fast responses are kept under upper-case tokens. -/
structure TokenKeys (table : AppTable Router Exc FastResponse) : Prop where
  routers : ∀ method ∈ table.routers, IsToken method ∧ IsUppercase method
  fastResponses : ∀ method ∈ table.fastResponses, IsToken method ∧ IsUppercase method

/-- A route registration writes at most the router of its method. -/
theorem registerRoute_maps (library : RouterLibrary Router InsertError)
    (table : AppTable Router Exc FastResponse) (method path : String) (handler : PyHandler Exc)
    (flags : RouteFlags) :
    let after := (registerRoute library table method path handler flags).2
    after.fastResponses = table.fastResponses ∧
      (after.routers = table.routers ∨
        ∃ router, after.routers = table.routers.insert (library.toUppercase method) router) := by
  rw [registerRoute]
  split
  · exact ⟨rfl, .inl rfl⟩
  rw [addRoute]
  split
  · exact ⟨rfl, .inl rfl⟩
  split
  · exact ⟨rfl, .inl rfl⟩
  split
  · exact ⟨rfl, .inl rfl⟩
  simp only [RouteTable.insert]
  cases templateParams path with
  | error error => exact ⟨rfl, .inl rfl⟩
  | ok names =>
      simp only
      rcases library.matchit.insert
        ((table.routers.lookup (library.toUppercase method)).getD library.matchit.new) path
        table.routes.length with ⟨_ | _, router⟩
      · exact ⟨rfl, .inr ⟨router, rfl⟩⟩
      · exact ⟨rfl, .inr ⟨router, rfl⟩⟩

theorem TokenKeys.insert_router (keys : TokenKeys table) (laws : library.TextLaws) {method : String}
    (token : IsToken method) {after : AppTable Router Exc FastResponse}
    (fastResponses : after.fastResponses = table.fastResponses)
    (routers : after.routers = table.routers ∨
      ∃ router, after.routers = table.routers.insert (library.toUppercase method) router) :
    TokenKeys after := by
  have ascii : ∀ char ∈ method.toList, char.toNat < 128 :=
    fun char member => isTokenChar_ascii (token.2 char member)
  have upper := token.toAsciiUppercase
  rw [← laws.toUppercase method ascii] at upper
  refine ⟨?_, fastResponses ▸ keys.fastResponses⟩
  rcases routers with same | ⟨router, inserted⟩
  · exact same ▸ keys.routers
  · intro key stored
    rw [inserted, AList.mem_insert] at stored
    rcases stored with rfl | stored
    · exact upper
    · exact keys.routers key stored

theorem TokenKeys.addFastResponse (keys : TokenKeys table) {method : String}
    (token : IsToken method) (path : String) (parsed : Except String FastResponse) :
    TokenKeys (Pyronova.addFastResponse table method path parsed :
      Except (RegistrationError Exc InsertError) Unit × _).2 := by
  have insert (bucket : AList fun _ : String => FastResponse) :
      TokenKeys { table with
        fastResponses := table.fastResponses.insert (toAsciiUppercase method) bucket } := by
    refine ⟨keys.routers, ?_⟩
    intro key stored
    rcases (AList.mem_insert _).mp stored with rfl | stored
    · exact token.toAsciiUppercase
    · exact keys.fastResponses key stored
  cases parsed with
  | error reason => exact keys
  | ok response =>
      simp only [Pyronova.addFastResponse]
      split
      · exact insert _
      · exact insert _

/-- A registration under a token keeps the keys upper-case tokens. -/
theorem TokenKeys.register (keys : TokenKeys table) (laws : library.TextLaws)
    {registration : Registration Exc FastResponse}
    (tokens : ∀ method ∈ registration.methods, IsToken method) :
    TokenKeys (register library table registration).2 := by
  have route {method path : String} {handler : PyHandler Exc} {flags : RouteFlags}
      (token : IsToken method) :
      TokenKeys (registerRoute library table method path handler flags).2 := by
    obtain ⟨fastResponses, routers⟩ :=
      registerRoute_maps library table method path handler flags
    exact keys.insert_router laws token fastResponses routers
  have hook {what : String}
      {push : AppTable Router Exc FastResponse → AppTable Router Exc FastResponse}
      (pushed : TokenKeys (push table)) :
      TokenKeys (registerHook table what push :
        Except (RegistrationError Exc InsertError) Unit × _).2 := by
    rw [registerHook]
    split
    · exact keys
    · exact pushed
  cases registration with
  | get path handler gil => exact route (tokens "GET" (by simp [Registration.methods]))
  | post path handler gil stream => exact route (tokens "POST" (by simp [Registration.methods]))
  | put path handler gil stream => exact route (tokens "PUT" (by simp [Registration.methods]))
  | delete path handler gil => exact route (tokens "DELETE" (by simp [Registration.methods]))
  | route method path handler gil stream =>
      exact route (tokens method (by simp [Registration.methods]))
  | beforeRequest handler => exact hook ⟨keys.routers, keys.fastResponses⟩
  | afterRequest handler => exact hook ⟨keys.routers, keys.fastResponses⟩
  | fallback handler => exact hook ⟨keys.routers, keys.fastResponses⟩
  | websocket path handler =>
      rw [Pyronova.register, registerWebsocket]
      split
      · exact keys
      · exact ⟨keys.routers, keys.fastResponses⟩
  | addFastResponse method path parsed =>
      exact keys.addFastResponse (tokens method (by simp [Registration.methods])) path parsed
  | sealRegistrations =>
      rw [Pyronova.register, sealIfUnsealed]
      split
      · exact keys
      · exact ⟨keys.routers, keys.fastResponses⟩

theorem tokenKeys_of_run (laws : library.TextLaws)
    {registrations : List (Registration Exc FastResponse)}
    (tokens : ∀ registration ∈ registrations, ∀ method ∈ registration.methods, IsToken method)
    (ran : (registrationMachine library).run registrations = some table) : TokenKeys table := by
  induction registrations using List.reverseRecOn generalizing table with
  | nil =>
      obtain rfl := Option.some.inj ran
      exact ⟨by simp [registrationMachine, RouteTable.new],
        by simp [registrationMachine, RouteTable.new]⟩
  | append_singleton registrations registration induction =>
      obtain ⟨before, earlier, step⟩ := Machine.run_concat_eq_some.mp ran
      obtain rfl := Option.some.inj step
      have keys := induction
        (fun other member => tokens other (List.mem_append_left _ member)) earlier
      exact keys.register laws (tokens registration (by simp))

end Keys

/-! ## The three lookups agree -/

section Agreement

variable {Router InsertError Exc FastResponse : Type*}
  {library : RouterLibrary Router InsertError} {table : AppTable Router Exc FastResponse}

/-- The methods with a route or a fast response for the path, before `HEAD` is added. -/
def methodsAt (library : RouterLibrary Router InsertError)
    (table : AppTable Router Exc FastResponse) (path : String) : List String :=
  (table.routers.entries.filter fun entry =>
      (library.matchit.atPath entry.2 path).isSome).map Sigma.fst ++
    (table.fastResponses.entries.filter fun entry => (entry.2.lookup path).isSome).map Sigma.fst

theorem prebuiltAt_of_isEmpty (empty : table.fastResponses.entries.isEmpty = true)
    (method path : String) : table.prebuiltAt method path = none := by
  have noKey : table.fastResponses.lookup method = none := by
    rw [AList.lookup_eq_none, AList.mem_keys, AList.keys, List.isEmpty_iff.mp empty]
    simp
  rw [RouteTable.prebuiltAt, noKey]
  rfl

theorem fastResponse_isSome {method path : String} :
    (table.fastResponse method path).isSome ↔
      (table.prebuiltAt method path).isSome ∨
        method = "HEAD" ∧ (table.prebuiltAt "GET" path).isSome := by
  rw [RouteTable.fastResponse]
  split
  · rename_i empty
    simp [prebuiltAt_of_isEmpty empty]
  · cases own : table.prebuiltAt method path with
    | some response => simp
    | none =>
        by_cases head : method = "HEAD"
        · simp [head]
        · simp [head]

/-- A path a router matches belongs to a route of the table. -/
theorem route_of_matchAt (lawful : library.matchit.Lawful)
    (invariant : TableInvariant library table)
    {method path : String} {id : RouteId} {params : Params}
    (matched : table.matchAt library method path = some (id, params)) :
    ∃ route, table.routes[id]? = some route := by
  obtain ⟨router, looked, found⟩ := Option.bind_eq_some_iff.mp matched
  obtain ⟨template, stored⟩ := lawful.stored_of_atPath found
  obtain ⟨route, isRoute, -⟩ := invariant.stored method template id ⟨router, looked, stored⟩
  exact ⟨route, isRoute⟩

theorem resolve_isSome (lawful : library.matchit.Lawful) (invariant : TableInvariant library table)
    {method path : String} :
    (table.resolve library method path).isSome ↔
      (table.lookup library method path).isSome ∨
        toAsciiUppercase method = "HEAD" ∧ (table.lookup library "GET" path).isSome := by
  -- a match always has its route
  have routed {method : String} {id : RouteId} {params : Params}
      (looked : table.lookup library method path = some (id, params)) :
      ∃ route, table.routes[id]? = some route := by
    rw [RouteTable.lookup_eq] at looked
    obtain ⟨⟨found, raw⟩, matched, same⟩ := Option.map_eq_some_iff.mp looked
    obtain ⟨rfl, -⟩ := Prod.mk.inj same
    exact route_of_matchAt lawful invariant matched
  simp only [RouteTable.resolve]
  cases own : table.lookup library method path with
  | some matched =>
      obtain ⟨route, found⟩ := routed own
      cases runs : route.dispatch <;> simp [found, runs]
  | none =>
      by_cases head : toAsciiUppercase method = "HEAD"
      · cases get : table.lookup library "GET" path with
        | some matched =>
            obtain ⟨route, found⟩ := routed get
            cases runs : route.dispatch <;> simp [head, found, runs]
        | none => simp [head]
      · simp [head]

/-- An upper-case method is served exactly when it is among the methods of the path. -/
theorem served_iff (lawful : library.matchit.Lawful) (invariant : TableInvariant library table)
    {method path : String} (upper : IsUppercase method) :
    Served library table method path ↔
      method ∈ RouteTable.withHead (methodsAt library table path) := by
  have noLower {method : String} (upper : IsUppercase method) :
      (table.lookup library method path).isSome ↔ (table.matchAt library method path).isSome := by
    have plain : method.toList.any Char.isLower = false := by
      rw [List.any_eq_false]
      intro char member
      simp [upper char member]
    rw [RouteTable.lookup_eq, plain]
    simp
  have getUpper : IsUppercase "GET" := by decide
  rw [Served, fastResponse_isSome, resolve_isSome lawful invariant, noLower upper,
    noLower getUpper, toAsciiUppercase_eq_self upper, RouteTable.mem_withHead, methodsAt,
    RouteTable.mem_allowed, RouteTable.mem_allowed]
  tauto

theorem mem_intercalate {separator : String} {texts : List String} {char : Char}
    (member : char ∈ (separator.intercalate texts).toList) :
    char ∈ separator.toList ∨ ∃ text ∈ texts, char ∈ text.toList := by
  induction texts with
  | nil => simp at member
  | cons first texts induction =>
      cases texts with
      | nil => exact .inr ⟨first, by simp, by simpa using member⟩
      | cons second texts =>
          rw [String.intercalate_cons_cons, String.toList_append, String.toList_append,
            List.mem_append, List.mem_append] at member
          rcases member with (member | member) | member
          · exact .inr ⟨first, by simp, member⟩
          · exact .inl member
          · rcases induction member with member | ⟨text, isText, member⟩
            · exact .inl member
            · exact .inr ⟨text, List.mem_cons_of_mem _ isText, member⟩

/-- The methods of a path are upper-case tokens, `HEAD` included. -/
theorem token_of_mem_methods (keys : TokenKeys table) {method path : String}
    (member : method ∈ RouteTable.withHead (methodsAt library table path)) :
    IsToken method ∧ IsUppercase method := by
  have own {method : String} (member : method ∈ methodsAt library table path) :
      IsToken method ∧ IsUppercase method := by
    rcases List.mem_append.mp member with routed | prebuilt
    · obtain ⟨entry, filtered, rfl⟩ := List.mem_map.mp routed
      apply keys.routers
      exact List.mem_map_of_mem (List.mem_of_mem_filter filtered)
    · obtain ⟨entry, filtered, rfl⟩ := List.mem_map.mp prebuilt
      apply keys.fastResponses
      exact List.mem_map_of_mem (List.mem_of_mem_filter filtered)
  rcases RouteTable.mem_withHead.mp member with member | ⟨rfl, -⟩
  · exact own member
  · decide

/-- The methods of a path in the order of `Allow`. -/
def sortedMethods (library : RouterLibrary Router InsertError)
    (table : AppTable Router Exc FastResponse) (path : String) : List String :=
  ((RouteTable.withHead (methodsAt library table path)).mergeSort (· ≤ ·)).dedup

theorem mem_sortedMethods {method path : String} :
    method ∈ sortedMethods library table path ↔
      method ∈ RouteTable.withHead (methodsAt library table path) := by
  simp [sortedMethods]

theorem sortedMethods_sorted (path : String) :
    (sortedMethods library table path).Pairwise (· < ·) := by
  have sorted : (sortedMethods library table path).Pairwise (· ≤ ·) :=
    List.Pairwise.sublist (List.dedup_sublist _) (List.pairwise_mergeSort' _ _)
  have distinct : (sortedMethods library table path).Pairwise (· ≠ ·) := List.nodup_dedup _
  exact (sorted.and distinct).imp fun both => lt_of_le_of_ne both.1 both.2

theorem allowedMethods_eq (laws : library.TextLaws) (keys : TokenKeys table) (path : String) :
    table.allowedMethods library path =
      if sortedMethods library table path = [] then none
      else some (", ".intercalate (sortedMethods library table path)) := by
  have visible : ∀ char ∈ (", ".intercalate (sortedMethods library table path)).toList,
      32 ≤ char.toNat ∧ char.toNat < 127 := by
    intro char member
    rcases mem_intercalate member with separator | ⟨method, isMethod, member⟩
    · have separators :
          ", ".toList.all (fun char => 32 ≤ char.toNat ∧ char.toNat < 127) = true := by
        decide
      exact of_decide_eq_true (List.all_eq_true.mp separators char separator)
    · have token := (token_of_mem_methods keys (mem_sortedMethods.mp isMethod)).1
      exact isTokenChar_visible (token.2 char member)
  have empty : (RouteTable.withHead (methodsAt library table path)).isEmpty =
      decide (sortedMethods library table path = []) := by
    rw [Bool.eq_iff_iff, List.isEmpty_iff, decide_eq_true_iff, List.eq_nil_iff_forall_not_mem,
      List.eq_nil_iff_forall_not_mem]
    simp only [mem_sortedMethods]
  rw [RouteTable.allowedMethods, RouteTable.allowValue]
  change (if (RouteTable.withHead (methodsAt library table path)).isEmpty then none
    else library.headerValue (", ".intercalate (sortedMethods library table path))) = _
  rw [empty, laws.headerValue _ visible]
  simp only [decide_eq_true_eq]

/-- A method in any case is served only where some method of the path is. -/
theorem methods_ne_nil_of_served (lawful : library.matchit.Lawful)
    (invariant : TableInvariant library table) {method path : String}
    (served : Served library table method path) : methodsAt library table path ≠ [] := by
  have nonempty {key : String} (answers : (table.matchAt library key path).isSome ∨
      (table.prebuiltAt key path).isSome) : methodsAt library table path ≠ [] :=
    List.ne_nil_of_mem ((RouteTable.mem_allowed library).mpr answers)
  have looked {method : String} (found : (table.lookup library method path).isSome) :
      methodsAt library table path ≠ [] := by
    rw [RouteTable.lookup_eq, Option.isSome_map] at found
    exact nonempty (.inl found)
  rcases served with fast | resolved
  · rcases fastResponse_isSome.mp fast with own | ⟨-, get⟩
    · exact nonempty (.inr own)
    · exact nonempty (.inr get)
  · rcases (resolve_isSome lawful invariant).mp resolved with own | ⟨-, get⟩
    · exact looked own
    · exact looked get

theorem exists_served_iff (lawful : library.matchit.Lawful)
    (invariant : TableInvariant library table) (keys : TokenKeys table) {path : String} :
    (∃ method, Served library table method path) ↔ sortedMethods library table path ≠ [] := by
  constructor
  · rintro ⟨method, served⟩
    obtain ⟨key, others, split⟩ :=
      List.exists_cons_of_ne_nil (methods_ne_nil_of_served lawful invariant served)
    have member : key ∈ methodsAt library table path := by rw [split]; exact List.mem_cons_self
    exact List.ne_nil_of_mem (mem_sortedMethods.mpr (RouteTable.mem_withHead.mpr (.inl member)))
  · intro nonempty
    obtain ⟨key, others, split⟩ := List.exists_cons_of_ne_nil nonempty
    have member := mem_sortedMethods.mp (split ▸ List.mem_cons_self :
      key ∈ sortedMethods library table path)
    exact ⟨key, (served_iff lawful invariant (token_of_mem_methods keys member).2).mpr member⟩

/-- A request that neither a static file nor the fallback can answer. -/
theorem preprocess_unserved {StaticFile : Type*} {method path : String}
    (unserved : ¬ Served library table method path) (noFallback : table.fallback = none) :
    (preprocess library table false none method path : Preprocessed FastResponse StaticFile) =
      match table.allowedMethods library path with
      | some allow => .methodNotAllowed allow
      | none => .notFound := by
  obtain ⟨noFast, noRoute⟩ := not_or.mp unserved
  rw [Option.not_isSome_iff_eq_none] at noFast noRoute
  have noCall : table.fallbackCall = none := by rw [RouteTable.fallbackCall, noFallback]; rfl
  simp only [preprocess, noFast, noRoute, unrouted, noCall, ite_self]
  cases table.allowedMethods library path <;> rfl

theorem preprocess_served {StaticFile : Type*} {method path : String}
    (served : Served library table method path) :
    (∃ response, (preprocess library table false none method path :
        Preprocessed FastResponse StaticFile) = .fast response) ∨
      ∃ call params, (preprocess library table false none method path :
        Preprocessed FastResponse StaticFile) = .dispatch call params := by
  simp only [preprocess]
  cases fast : table.fastResponse method path with
  | some response => exact .inl ⟨response, rfl⟩
  | none =>
      have resolved : (table.resolve library method path).isSome := by
        simpa [Served, fast] using served
      obtain ⟨⟨call, params⟩, found⟩ := Option.isSome_iff_exists.mp resolved
      simp only [found]
      exact .inr ⟨call, params, rfl⟩

/-- `Allow` lists exactly the methods that are served, and an unserved method is answered with it
or, where there is none, with 404. -/
theorem allow_lists_served (StaticFile : Type*) (lawful : library.matchit.Lawful)
    (laws : library.TextLaws) {registrations : List (Registration Exc FastResponse)}
    (tokens : ∀ registration ∈ registrations, ∀ method ∈ registration.methods, IsToken method)
    (ran : (registrationMachine library).run registrations = some table) (path : String) :
    (table.allowedMethods library path = none ↔ ∀ method, ¬ Served library table method path) ∧
    (∀ value, table.allowedMethods library path = some value →
      ∃ methods, value = ", ".intercalate methods ∧ methods.Pairwise (· < ·) ∧
        (∀ method ∈ methods, IsToken method ∧ IsUppercase method) ∧
        ∀ method, IsUppercase method →
          (method ∈ methods ↔ Served library table method path)) ∧
    ∀ method, table.fallback = none →
      let answer : Preprocessed FastResponse StaticFile :=
        preprocess library table false none method path
      ((∃ allow, answer = .methodNotAllowed allow) ↔
        ¬ Served library table method path ∧
          ∃ other, other ≠ method ∧ Served library table other path) ∧
      (answer = .notFound ↔ ∀ other, ¬ Served library table other path) := by
  have keys := tokenKeys_of_run laws tokens ran
  have invariant := tableInvariant_of_reachable lawful ⟨registrations, ran⟩
  have allowed := allowedMethods_eq laws keys path
  have someServed := @exists_served_iff _ _ _ _ library table lawful invariant keys path
  refine ⟨?_, ?_, ?_⟩
  · rw [allowed, ← not_exists, someServed, not_not]
    split
    · simp [*]
    · simp [*]
  · intro value isValue
    rw [allowed] at isValue
    split at isValue
    · simp at isValue
    · obtain rfl := Option.some.inj isValue
      refine ⟨_, rfl, sortedMethods_sorted path, ?_, ?_⟩
      · intro method member
        exact token_of_mem_methods keys (mem_sortedMethods.mp member)
      · intro method upper
        rw [mem_sortedMethods, served_iff lawful invariant upper]
  · intro method noFallback answer
    by_cases served : Served library table method path
    · have handled : (∃ response, answer = .fast response) ∨
          ∃ call params, answer = .dispatch call params := preprocess_served served
      constructor
      · constructor
        · rintro ⟨allow, refused⟩
          rcases handled with ⟨response, fast⟩ | ⟨call, params, dispatched⟩
          · simp [refused] at fast
          · simp [refused] at dispatched
        · rintro ⟨unserved, -⟩
          exact absurd served unserved
      · constructor
        · intro missing
          rcases handled with ⟨response, fast⟩ | ⟨call, params, dispatched⟩
          · simp [missing] at fast
          · simp [missing] at dispatched
        · intro none
          exact absurd served (none method)
    · have unserved : answer = _ := preprocess_unserved served noFallback
      have other : (∃ other, other ≠ method ∧ Served library table other path) ↔
          ∃ other, Served library table other path := by
        constructor
        · rintro ⟨other, -, isServed⟩
          exact ⟨other, isServed⟩
        · rintro ⟨other, isServed⟩
          refine ⟨other, ?_, isServed⟩
          rintro rfl
          exact served isServed
      rw [unserved, allowed, other, ← not_exists, someServed]
      split
      · simp_all
      · simp_all

end Agreement

theorem literalLibrary_textLaws : literalLibrary.TextLaws :=
  ⟨fun _ _ => rfl, fun _ _ => rfl⟩

/-- A router that takes no template with a brace left open. -/
def closedRouter : Matchit (List (String × RouteId)) Unit :=
  { literalRouter with
    insert := fun router path id =>
      if path.toList.count '\x7b' ≠ path.toList.count '\x7d' then (.error (), router)
      else literalRouter.insert router path id }

theorem closedRouter_insert (router : List (String × RouteId)) (path : String) (id : RouteId) :
    closedRouter.insert router path id = (.error (), router) ∨
      closedRouter.insert router path id = literalRouter.insert router path id := by
  simp only [closedRouter]
  split
  · exact .inl rfl
  · exact .inr rfl

theorem closedRouter_lawful : closedRouter.Lawful where
  new_stored := literalRouter_lawful.new_stored
  insert_ok := by
    intro router path id after inserted entry
    obtain refused | same := closedRouter_insert router path id
    · rw [refused] at inserted
      cases inserted
    · exact literalRouter_lawful.insert_ok (same.symm.trans inserted) entry
  insert_error_stored := by
    intro router path id error after inserted entry
    obtain refused | same := closedRouter_insert router path id
    · obtain ⟨-, rfl⟩ := Prod.mk.inj (refused.symm.trans inserted)
      exact Iff.rfl
    · exact literalRouter_lawful.insert_error_stored (same.symm.trans inserted) entry
  insert_error_atPath := by
    intro router path id error after inserted requested
    obtain refused | same := closedRouter_insert router path id
    · obtain ⟨-, rfl⟩ := Prod.mk.inj (refused.symm.trans inserted)
      rfl
    · exact literalRouter_lawful.insert_error_atPath (same.symm.trans inserted) requested
  stored_of_atPath := literalRouter_lawful.stored_of_atPath

def closedLibrary : RouterLibrary (List (String × RouteId)) Unit :=
  { literalLibrary with matchit := closedRouter }

theorem closedLibrary_textLaws : closedLibrary.TextLaws :=
  ⟨fun _ _ => rfl, fun _ _ => rfl⟩

/-- A route, a rejected one that leaves a router without templates, and a fast response. -/
def prebuiltBeside : List (Registration Unit Unit) :=
  let view : PyHandler Unit := ⟨0, .ok "view", .ok false, .ok false⟩
  [.get "/a" view false, .post "/\x7bid" view false false, .addFastResponse "put" "/a" (.ok ())]

theorem allow_lists_served_prebuiltBeside :
    ∃ table : AppTable (List (String × RouteId)) Unit Unit,
      (registrationMachine closedLibrary).run prebuiltBeside = some table ∧
        ∃ allow, (preprocess closedLibrary table false none "POST" "/a" :
          Preprocessed Unit Unit) = .methodNotAllowed allow := by
  have tokens : ∀ registration ∈ prebuiltBeside, ∀ method ∈ registration.methods,
      IsToken method := by
    decide
  refine ⟨_, rfl, ?_⟩
  have answers := (allow_lists_served Unit closedRouter_lawful closedLibrary_textLaws tokens rfl
    "/a").2.2 "POST" rfl
  refine answers.1.mpr ⟨?_, "HEAD", by decide, ?_⟩
  · simp only [Served]
    decide
  · simp only [Served]
    decide

end Pyronova
