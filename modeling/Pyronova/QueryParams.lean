import Mathlib.Data.List.AList
import Mathlib.Tactic
import Pyronova.Response

/-!
# Query parameters

Three readers of a request's query string: a scan for one parameter, a map of the first values and
a map of all values.  The maps are built when they are first asked for, and the scan looks the
parameter up once the map of the first values is there.
-/

namespace Pyronova

/-- The query string of a request, with the maps parsed from it so far. -/
structure RequestQuery where
  query : Option String
  queryCache : Option (AList fun _ : String => String)
  queryAllCache : Option (AList fun _ : String => List String)

/-- An order in which a hash map may be iterated. -/
structure HashOrder (α : Type) where
  order : (AList fun _ : String => α) → List (Sigma fun _ : String => α)
  perm : ∀ map, (order map).Perm map.entries

/-- The order the map itself has. -/
def HashOrder.own {α : Type} : HashOrder α where
  order map := map.entries
  perm _ := .refl _

/-- A `dict` filled with the entries of a map, one after the other. -/
def pyDict {α : Type} (hash : HashOrder α) (map : AList fun _ : String => α) :
    AList fun _ : String => α :=
  (hash.order map).foldl (fun dict entry => dict.insert entry.1 entry.2) ∅

/-- A `dict` filled from a map has the map's entries, whatever the order they are set in. -/
theorem lookup_pyDict {α : Type} (hash : HashOrder α) (map : AList fun _ : String => α)
    (key : String) : (pyDict hash map).lookup key = map.lookup key := by
  have folded : ∀ (entries : List (Sigma fun _ : String => α)) (dict : AList fun _ : String => α),
      entries.NodupKeys →
        (entries.foldl (fun dict entry => dict.insert entry.1 entry.2) dict).lookup key =
          (entries.dlookup key).or (dict.lookup key) := by
    intro entries
    induction entries with
    | nil => exact fun dict _ => Option.none_or.symm
    | cons entry entries induction =>
        intro dict nodup
        obtain ⟨absent, rest⟩ := List.nodupKeys_cons.mp nodup
        rw [List.foldl_cons, induction _ rest]
        by_cases same : key = entry.1
        · subst same
          rw [List.dlookup_eq_none.mpr absent, AList.lookup_insert, List.dlookup_cons_eq]
          rfl
        · rw [AList.lookup_insert_ne same, List.dlookup_cons_ne _ _ same]
  have nodup : (hash.order map).NodupKeys :=
    (List.perm_nodupKeys (hash.perm map)).mpr map.nodupKeys
  rw [pyDict, folded _ _ nodup, AList.lookup_empty, Option.or_none]
  exact List.perm_dlookup key nodup (hash.perm map)

namespace RequestQuery

/-- A request nothing was read of. -/
def new (query : Option String) : RequestQuery := ⟨query, none, none⟩

def queryStr (request : RequestQuery) : String := request.query.getD ""

/-- `entry(key).or_insert_with`. -/
def orInsert (map : AList fun _ : String => String) (pair : String × String) :
    AList fun _ : String => String :=
  match map.lookup pair.1 with
  | some _ => map
  | none => map.insert pair.1 pair.2

/-- `entry(key).or_default().push(value)`. -/
def pushValue (map : AList fun _ : String => List String) (pair : String × String) :
    AList fun _ : String => List String :=
  map.insert pair.1 ((map.lookup pair.1).getD [] ++ [pair.2])

-- `form_urlencoded::parse`, its pairs in order.
variable (parse : Bytes → List (String × String))

/-- The pairs of the query string. -/
def pairs (request : RequestQuery) : List (String × String) :=
  parse (utf8Encode request.queryStr)

/-- The first value of every key, and the request with the map cached. -/
def queryParams (request : RequestQuery) : (AList fun _ : String => String) × RequestQuery :=
  match request.queryCache with
  | some map => (map, request)
  | none =>
      let map := (request.pairs parse).foldl orInsert ∅
      (map, { request with queryCache := some map })

/-- Every value of every key, and the request with the map cached. -/
def queryParamsAllMap (request : RequestQuery) :
    (AList fun _ : String => List String) × RequestQuery :=
  match request.queryAllCache with
  | some map => (map, request)
  | none =>
      let map := (request.pairs parse).foldl pushValue ∅
      (map, { request with queryAllCache := some map })

/-- One parameter, without building a map. -/
def queryParam (request : RequestQuery) (key : String) : Option String :=
  match request.queryCache with
  | some map => map.lookup key
  | none => ((request.pairs parse).find? fun pair => pair.1 == key).map Prod.snd

def pyQueryParams (hash : HashOrder String) (request : RequestQuery) :
    (AList fun _ : String => String) × RequestQuery :=
  (pyDict hash (request.queryParams parse).1, (request.queryParams parse).2)

def queryParamsAll (hash : HashOrder (List String)) (request : RequestQuery) :
    (AList fun _ : String => List String) × RequestQuery :=
  (pyDict hash (request.queryParamsAllMap parse).1, (request.queryParamsAllMap parse).2)

/-- What a handler or hook reads of the query. -/
inductive Access
  | queryParam (key : String)
  | queryParams (hash : HashOrder String)
  | queryParamsAll (hash : HashOrder (List String))

/-- The request after it was read. -/
def access (request : RequestQuery) : Access → RequestQuery
  | .queryParam _ => request
  | .queryParams hash => (request.pyQueryParams parse hash).2
  | .queryParamsAll hash => (request.queryParamsAll parse hash).2

/-- The values of a key among pairs, in the order they occur. -/
def valuesOf (pairs : List (String × String)) (key : String) : List String :=
  (pairs.filter fun pair => pair.1 == key).map Prod.snd

@[simp] theorem valuesOf_nil (key : String) : valuesOf [] key = [] := rfl

theorem valuesOf_cons_self (key value : String) (pairs : List (String × String)) :
    valuesOf ((key, value) :: pairs) key = value :: valuesOf pairs key := by
  simp [valuesOf]

theorem valuesOf_cons_of_ne {name key : String} (other : name ≠ key) (value : String)
    (pairs : List (String × String)) :
    valuesOf ((name, value) :: pairs) key = valuesOf pairs key := by
  simp [valuesOf, other]

/-- The first value set for a key stays. -/
theorem lookup_foldl_orInsert (pairs : List (String × String))
    (map : AList fun _ : String => String) (key : String) :
    (pairs.foldl orInsert map).lookup key = (map.lookup key).or (valuesOf pairs key).head? := by
  induction pairs generalizing map with
  | nil => exact Option.or_none.symm
  | cons pair pairs induction =>
      obtain ⟨name, value⟩ := pair
      rw [List.foldl_cons, induction, orInsert]
      by_cases same : name = key
      · subst same
        rw [valuesOf_cons_self, List.head?_cons]
        cases held : map.lookup name with
        | some first => simp [held]
        | none => simp
      · rw [valuesOf_cons_of_ne same]
        cases held : map.lookup name with
        | some first => rfl
        | none => rw [AList.lookup_insert_ne (Ne.symm same)]

/-- Every value set for a key stays, in order. -/
theorem lookup_foldl_pushValue (pairs : List (String × String))
    (map : AList fun _ : String => List String) (key : String) :
    (pairs.foldl pushValue map).lookup key =
      if valuesOf pairs key = [] then map.lookup key
      else some ((map.lookup key).getD [] ++ valuesOf pairs key) := by
  induction pairs generalizing map with
  | nil => exact (if_pos rfl).symm
  | cons pair pairs induction =>
      obtain ⟨name, value⟩ := pair
      rw [List.foldl_cons, induction, pushValue]
      by_cases same : name = key
      · subst same
        rw [valuesOf_cons_self, AList.lookup_insert, if_neg (List.cons_ne_nil _ _)]
        split
        · rename_i empty
          rw [empty]
        · rw [Option.getD_some, List.append_assoc, List.singleton_append]
      · rw [valuesOf_cons_of_ne same, AList.lookup_insert_ne (Ne.symm same)]

theorem find?_eq_head?_valuesOf (pairs : List (String × String)) (key : String) :
    (pairs.find? fun pair => pair.1 == key).map Prod.snd = (valuesOf pairs key).head? := by
  rw [valuesOf, List.head?_map, List.head?_filter]

/-- A cached map is the one that the query string parses to. -/
structure Cached (parse : Bytes → List (String × String)) (query : Option String)
    (request : RequestQuery) : Prop where
  query : request.query = query
  first : ∀ map, request.queryCache = some map → map = (request.pairs parse).foldl orInsert ∅
  all : ∀ map, request.queryAllCache = some map → map = (request.pairs parse).foldl pushValue ∅

variable {parse} {query : Option String} {request : RequestQuery}

theorem Cached.queryParams_eq (cached : Cached parse query request) :
    (request.queryParams parse).1 = (request.pairs parse).foldl orInsert ∅ := by
  unfold queryParams
  cases held : request.queryCache with
  | none => rfl
  | some map => exact cached.first map held

theorem Cached.queryParamsAllMap_eq (cached : Cached parse query request) :
    (request.queryParamsAllMap parse).1 = (request.pairs parse).foldl pushValue ∅ := by
  unfold queryParamsAllMap
  cases held : request.queryAllCache with
  | none => rfl
  | some map => exact cached.all map held

theorem Cached.queryParams (cached : Cached parse query request) :
    Cached parse query (request.queryParams parse).2 := by
  unfold RequestQuery.queryParams
  cases held : request.queryCache with
  | some map => exact cached
  | none => exact ⟨cached.query, fun _ filled => (Option.some.inj filled).symm, cached.all⟩

theorem Cached.queryParamsAllMap (cached : Cached parse query request) :
    Cached parse query (request.queryParamsAllMap parse).2 := by
  unfold RequestQuery.queryParamsAllMap
  cases held : request.queryAllCache with
  | some map => exact cached
  | none => exact ⟨cached.query, cached.first, fun _ filled => (Option.some.inj filled).symm⟩

theorem Cached.access (cached : Cached parse query request) (access : Access) :
    Cached parse query (request.access parse access) := by
  cases access with
  | queryParam key => exact cached
  | queryParams hash => exact cached.queryParams
  | queryParamsAll hash => exact cached.queryParamsAllMap

theorem Cached.of_accesses (cached : Cached parse query request) (past : List Access) :
    Cached parse query (past.foldl (RequestQuery.access parse) request) := by
  induction past generalizing request with
  | nil => exact cached
  | cons access past induction => exact induction (cached.access access)

/-- Whatever was read of a request before, its three readers give the first occurrence of a key, and
the last of them every occurrence in order. -/
theorem query_agrees (parse : Bytes → List (String × String)) (query : Option String)
    (past : List Access) (key : String) :
    let request := past.foldl (access parse) (new query)
    let occurrences := valuesOf (parse (utf8Encode (query.getD ""))) key
    request.queryParam parse key = occurrences.head? ∧
      (∀ hash, (request.pyQueryParams parse hash).1.lookup key = occurrences.head?) ∧
      ∀ hash, (request.queryParamsAll parse hash).1.lookup key =
        if occurrences = [] then none else some occurrences := by
  have fresh : Cached parse query (new query) :=
    ⟨rfl, fun _ held => (by cases held), fun _ held => (by cases held)⟩
  have cached := fresh.of_accesses past
  have pairs : (past.foldl (access parse) (new query)).pairs parse =
      parse (utf8Encode (query.getD "")) := by
    rw [RequestQuery.pairs, queryStr, cached.query]
  have firsts : ((past.foldl (access parse) (new query)).queryParams parse).1.lookup key =
      (valuesOf (parse (utf8Encode (query.getD ""))) key).head? := by
    rw [cached.queryParams_eq, lookup_foldl_orInsert, AList.lookup_empty, Option.none_or, pairs]
  refine ⟨?_, ?_, ?_⟩
  · unfold queryParam
    cases held : (past.foldl (access parse) (new query)).queryCache with
    | none =>
        rw [pairs]
        exact find?_eq_head?_valuesOf _ key
    | some map =>
        rw [← firsts, cached.queryParams_eq]
        exact congrArg (AList.lookup key) (cached.first map held)
  · intro hash
    exact (lookup_pyDict hash _ key).trans firsts
  · intro hash
    refine (lookup_pyDict hash _ key).trans ?_
    rw [cached.queryParamsAllMap_eq, lookup_foldl_pushValue, AList.lookup_empty, pairs]
    rfl

/-- The pairs of `a=1&b=2&a=3`. -/
def repeatedKey : List (String × String) := [("a", "1"), ("b", "2"), ("a", "3")]

theorem query_agrees_repeatedKey :
    let parse : Bytes → List (String × String) := fun _ => repeatedKey
    let request := (new (some "a=1&b=2&a=3")).access parse (.queryParams .own)
    request.queryParam parse "a" = some "1" ∧
      (request.queryParamsAll parse .own).1.lookup "a" = some ["1", "3"] := by
  intro parse request
  have agrees := query_agrees parse (some "a=1&b=2&a=3") [.queryParams .own] "a"
  exact ⟨agrees.1, agrees.2.2 .own⟩

end RequestQuery

end Pyronova
