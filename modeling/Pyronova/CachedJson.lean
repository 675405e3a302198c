import Mathlib.Data.List.AList
import Pyronova.Response
import Pyronova.Threads

/-!
# Cached responses

`cached_json` keeps the serialized results of one handler for a while.  A request looks its key up
under a lock, runs the handler outside it, and stores what it made under the lock again, with the
clock read in between.  Every request is a thread of the machine below, so lookups, handlers and
stores of different requests come in any order.
-/

namespace Pyronova

/-- `_MAX_ENTRIES`. -/
def MAX_ENTRIES : Nat := 10000

namespace CachedJson

/-- What comes of the key function; `SystemExit` and `KeyboardInterrupt` are no `Exception`. -/
inductive KeyOutcome
  | returns (key : String)
  | raisesException
  | raisesOther
  deriving DecidableEq, Repr

inductive HandlerOutcome (Object : Type*)
  | returns (value : PyValue Object)
  | raises
  deriving DecidableEq, Repr

/-- Why a value is not serialized. -/
inductive SerializeError
  /-- `TypeError` or `ValueError`. -/
  | unserializable
  | other
  deriving DecidableEq, Repr

/-- One use of the decorator: what it is given, and what it calls.  Functions answer on the state of
the world when they are called; `round` is the rounding of a sum of two floats. -/
structure Decorated (Request Object World Time : Type*) [LinearOrder Time] [Add Time]
    [Zero Time] where
  ttl : Time
  ttl_pos : 0 < ttl
  key : Request → World → KeyOutcome
  handler : Request → World → HandlerOutcome Object
  dumps : PyValue Object → World → Except SerializeError String
  bytearray : Object → World → Bytes
  round : Time → Time
  round_mono : Monotone round

/-- A cached body and when it expires. -/
structure Entry (Time : Type*) where
  body : Bytes
  expires : Time
  deriving DecidableEq, Repr

abbrev Cache (Time : Type*) := AList fun _ : String => Entry Time

/-- What a request answers its caller with. -/
inductive Answer (Object Time : Type*)
  /-- A body from the cache. -/
  | hit (key : String) (now : Time) (body : Bytes)
  /-- A body that was stored, and the clock when it was. -/
  | stored (key : String) (value : PyValue Object) (body : Bytes) (moment : Time)
  /-- A body that no key was there for. -/
  | unstored (value : PyValue Object) (body : Bytes)
  /-- What the handler returned. -/
  | passed (value : PyValue Object)
  /-- What the handler or the serialization raised. -/
  | raised
  /-- What the key function raised. -/
  | exited
  deriving DecidableEq, Repr

/-- Where a request is in the wrapper, with the variables it still reads. -/
inductive Place (Object Time : Type*)
  | entered
  | timed (now : Time)
  | keyed (now : Time) (key : String)
  | missed (key : Option String)
  | running (key : Option String)
  | returned (key : Option String) (value : PyValue Object)
  | serialized (key : String) (value : PyValue Object) (body : Bytes)
  | stamped (key : String) (value : PyValue Object) (body : Bytes) (moment : Time)
  | done (answer : Answer Object Time)
  deriving DecidableEq, Repr

/-- A request in the wrapper; `runs` counts the times it called the handler. -/
structure Frame (Request Object Time : Type*) where
  request : Request
  place : Place Object Time
  runs : Nat

/-- What the requests share. -/
structure Shared (Time : Type*) where
  cache : Cache Time
  /-- The last reading of the clock. -/
  clock : Time

/-- The two wrappers: the one awaits the handler, the other calls it. -/
inductive Wrapper
  | asyncWrapper
  | wrapper
  deriving DecidableEq, Repr

inductive Action (World Time : Type*)
  /-- `time.monotonic()`. -/
  | reads (now : Time)
  | keys (world : World)
  | looksUp
  | calls
  | returns (world : World)
  /-- The task is cancelled while it awaits the handler. -/
  | cancels
  | serializes (world : World)
  | stores

/-- The calls of the handler. -/
def Action.runs {World Time : Type*} : Action World Time → Nat
  | .calls => 1
  | _ => 0

section Requests

variable {Request Object World Time : Type*} [LinearOrder Time] [Add Time] [Zero Time]

/-- The response to a serialized body. -/
def jsonResponse (body : Bytes) : PyronovaResponse Object := ⟨.bytes body, 200, some JSON, []⟩

/-- What the caller gets, unless an exception. -/
def Answer.result : Answer Object Time → Option (PyValue Object)
  | .hit _ _ body | .stored _ _ body _ | .unstored _ body => some (jsonResponse body).toValue
  | .passed value => some value
  | .raised | .exited => none

/-- `isinstance(result, Response)`. -/
def isResponse : PyValue Object → Bool
  | .response .. => true
  | _ => false

/-- `_serialize`. -/
def serialize (decorated : Decorated Request Object World Time) (value : PyValue Object)
    (world : World) : Except SerializeError Bytes :=
  match value with
  | .bytes bytes => .ok bytes
  | .bytearray object => .ok (decorated.bytearray object world)
  | .str (.text text) => .ok (utf8Encode text)
  | .str (.surrogates _) => .error .unserializable
  | value => (decorated.dumps value world).map utf8Encode

/-- What `_store` does under the lock. -/
def store (cache : Cache Time) (key : String) (entry : Entry Time) : Cache Time :=
  (if MAX_ENTRIES ≤ cache.keys.length ∧ key ∉ cache then ∅ else cache).insert key entry

/-- `_hit`. -/
def hit (cache : Cache Time) (key : String) (now : Time) : Option Bytes :=
  match cache.lookup key with
  | some entry => if now < entry.expires then some entry.body else none
  | none => none

/-- A reading of a monotonic clock; what it reads is a float. -/
def readClock (decorated : Decorated Request Object World Time) (shared : Shared Time)
    (now : Time) : Option (Shared Time) :=
  if shared.clock ≤ now ∧ decorated.round now = now then some { shared with clock := now } else none

/-- One step of a request. -/
def step (kind : Wrapper) (decorated : Decorated Request Object World Time) (shared : Shared Time)
    (frame : Frame Request Object Time) :
    Action World Time → Option (Shared Time × Frame Request Object Time)
  | .reads now =>
      match frame.place with
      | .entered =>
          (readClock decorated shared now).map fun shared =>
            (shared, { frame with place := .timed now })
      | .serialized key value body =>
          (readClock decorated shared now).map fun shared =>
            (shared, { frame with place := .stamped key value body now })
      | _ => none
  | .keys world =>
      match frame.place with
      | .timed now =>
          match decorated.key frame.request world with
          | .returns key => some (shared, { frame with place := .keyed now key })
          | .raisesException => some (shared, { frame with place := .missed none })
          | .raisesOther => some (shared, { frame with place := .done .exited })
      | _ => none
  | .looksUp =>
      match frame.place with
      | .keyed now key =>
          match hit shared.cache key now with
          | some body => some (shared, { frame with place := .done (.hit key now body) })
          | none => some (shared, { frame with place := .missed (some key) })
      | _ => none
  | .calls =>
      match frame.place with
      | .missed key =>
          some (shared, { frame with place := .running key, runs := frame.runs + 1 })
      | _ => none
  | .returns world =>
      match frame.place with
      | .running key =>
          match decorated.handler frame.request world with
          | .raises => some (shared, { frame with place := .done .raised })
          | .returns value =>
              if isResponse value then some (shared, { frame with place := .done (.passed value) })
              else some (shared, { frame with place := .returned key value })
      | _ => none
  | .cancels =>
      match frame.place with
      | .running _ =>
          if kind = .asyncWrapper then some (shared, { frame with place := .done .raised })
          else none
      | _ => none
  | .serializes world =>
      match frame.place with
      | .returned key value =>
          match serialize decorated value world, key with
          | .ok body, some key => some (shared, { frame with place := .serialized key value body })
          | .ok body, none => some (shared, { frame with place := .done (.unstored value body) })
          | .error .unserializable, _ =>
              some (shared, { frame with place := .done (.passed value) })
          | .error .other, _ => some (shared, { frame with place := .done .raised })
      | _ => none
  | .stores =>
      match frame.place with
      | .stamped key value body now =>
          some
            ({ shared with
                cache := store shared.cache key ⟨body, decorated.round (now + decorated.ttl)⟩ },
              { frame with place := .done (.stored key value body now) })
      | _ => none

/-- The requests to one handler. -/
def program (kind : Wrapper) (decorated : Decorated Request Object World Time) :
    Program Request (Action World Time) (Shared Time) (Frame Request Object Time) where
  start := fun request => { request, place := .entered, runs := 0 }
  step := step kind decorated

/-- The ways a request moves on. -/
inductive Moves (kind : Wrapper) (decorated : Decorated Request Object World Time)
    (shared : Shared Time) (request : Request) :
    Place Object Time → Action World Time → Shared Time → Place Object Time → Prop
  | enters {now : Time} (float : decorated.round now = now) :
      Moves kind decorated shared request .entered (.reads now) { shared with clock := now }
        (.timed now)
  | keys {now : Time} {world : World} {key : String}
      (returned : decorated.key request world = .returns key) :
      Moves kind decorated shared request (.timed now) (.keys world) shared (.keyed now key)
  | bypasses {now : Time} {world : World} :
      Moves kind decorated shared request (.timed now) (.keys world) shared (.missed none)
  | exits {now : Time} {world : World}
      (raised : decorated.key request world = .raisesOther) :
      Moves kind decorated shared request (.timed now) (.keys world) shared (.done .exited)
  | hits {now : Time} {key : String} {entry : Entry Time}
      (found : shared.cache.lookup key = some entry) (fresh : now < entry.expires) :
      Moves kind decorated shared request (.keyed now key) .looksUp shared
        (.done (.hit key now entry.body))
  | misses {now : Time} {key : String} :
      Moves kind decorated shared request (.keyed now key) .looksUp shared (.missed (some key))
  | calls {key : Option String} :
      Moves kind decorated shared request (.missed key) .calls shared (.running key)
  | raises {key : Option String} {world : World} :
      Moves kind decorated shared request (.running key) (.returns world) shared (.done .raised)
  | cancels {key : Option String} :
      Moves kind decorated shared request (.running key) .cancels shared (.done .raised)
  | responds {key : Option String} {world : World} {value : PyValue Object}
      (response : isResponse value = true) :
      Moves kind decorated shared request (.running key) (.returns world) shared
        (.done (.passed value))
  | returns {key : Option String} {world : World} {value : PyValue Object}
      (returned : decorated.handler request world = .returns value)
      (plain : isResponse value = false) :
      Moves kind decorated shared request (.running key) (.returns world) shared
        (.returned key value)
  | serializes {key : String} {world : World} {value : PyValue Object} {body : Bytes}
      (made : serialize decorated value world = .ok body) :
      Moves kind decorated shared request (.returned (some key) value) (.serializes world) shared
        (.serialized key value body)
  | passesBody {world : World} {value : PyValue Object} {body : Bytes} :
      Moves kind decorated shared request (.returned none value) (.serializes world) shared
        (.done (.unstored value body))
  | passes {key : Option String} {world : World} {value : PyValue Object} :
      Moves kind decorated shared request (.returned key value) (.serializes world) shared
        (.done (.passed value))
  | fails {key : Option String} {world : World} {value : PyValue Object} :
      Moves kind decorated shared request (.returned key value) (.serializes world) shared
        (.done .raised)
  | stamps {key : String} {value : PyValue Object} {body : Bytes} {now : Time} :
      Moves kind decorated shared request (.serialized key value body) (.reads now)
        { shared with clock := now } (.stamped key value body now)
  | stores {key : String} {value : PyValue Object} {body : Bytes} {now : Time} :
      Moves kind decorated shared request (.stamped key value body now) .stores
        { shared with
          cache := store shared.cache key ⟨body, decorated.round (now + decorated.ttl)⟩ }
        (.done (.stored key value body now))

variable {kind : Wrapper} {decorated : Decorated Request Object World Time}

theorem readClock_eq_some {shared after : Shared Time} {now : Time}
    (read : readClock decorated shared now = some after) :
    decorated.round now = now ∧ after = { shared with clock := now } := by
  obtain ⟨⟨-, float⟩, same⟩ := Option.ite_none_right_eq_some.mp read
  exact ⟨float, (Option.some.inj same).symm⟩

omit [Add Time] [Zero Time] in
theorem hit_eq_some {cache : Cache Time} {key : String} {now : Time} {body : Bytes}
    (found : hit cache key now = some body) :
    ∃ entry, cache.lookup key = some entry ∧ now < entry.expires ∧ entry.body = body := by
  rw [hit] at found
  split at found
  · rename_i entry present
    obtain ⟨fresh, same⟩ := Option.ite_none_right_eq_some.mp found
    exact ⟨entry, present, fresh, Option.some.inj same⟩
  · cases found

section Inversion

variable {shared : Shared Time} {frame : Frame Request Object Time} {after : Shared Time}
  {next : Frame Request Object Time} {world : World}

variable (kind decorated shared frame after next) in
/-- The request moves on, and the calls of its handler are counted. -/
def Moved (action : Action World Time) : Prop :=
  ∃ place, Moves kind decorated shared frame.request frame.place action after place ∧
    next = { frame with place, runs := frame.runs + action.runs }

theorem moved_of_reads {now : Time}
    (stepped : step kind decorated shared frame (.reads now) = some (after, next)) :
    Moved kind decorated shared frame after next (.reads now) := by
  obtain ⟨request, place, runs⟩ := frame
  cases place with
  | entered =>
      obtain ⟨read, isRead, same⟩ := Option.map_eq_some_iff.mp stepped
      obtain ⟨float, rfl⟩ := readClock_eq_some isRead
      obtain ⟨rfl, rfl⟩ := Prod.mk.inj same
      exact ⟨_, .enters float, rfl⟩
  | serialized key value body =>
      obtain ⟨read, isRead, same⟩ := Option.map_eq_some_iff.mp stepped
      obtain ⟨-, rfl⟩ := readClock_eq_some isRead
      obtain ⟨rfl, rfl⟩ := Prod.mk.inj same
      exact ⟨_, .stamps, rfl⟩
  | _ => cases stepped

theorem moved_of_keys
    (stepped : step kind decorated shared frame (.keys world) = some (after, next)) :
    Moved kind decorated shared frame after next (.keys world) := by
  obtain ⟨request, place, runs⟩ := frame
  cases place with
  | timed now =>
      cases outcome : decorated.key request world with
      | returns key =>
          simp only [step, outcome, Option.some.injEq, Prod.mk.injEq] at stepped
          obtain ⟨rfl, rfl⟩ := stepped
          exact ⟨_, .keys outcome, rfl⟩
      | raisesException =>
          simp only [step, outcome, Option.some.injEq, Prod.mk.injEq] at stepped
          obtain ⟨rfl, rfl⟩ := stepped
          exact ⟨_, .bypasses, rfl⟩
      | raisesOther =>
          simp only [step, outcome, Option.some.injEq, Prod.mk.injEq] at stepped
          obtain ⟨rfl, rfl⟩ := stepped
          exact ⟨_, .exits outcome, rfl⟩
  | _ => cases stepped

theorem moved_of_looksUp
    (stepped : step kind decorated shared frame .looksUp = some (after, next)) :
    Moved kind decorated shared frame after next .looksUp := by
  obtain ⟨request, place, runs⟩ := frame
  cases place with
  | keyed now key =>
      cases looked : hit shared.cache key now with
      | none =>
          simp only [step, looked, Option.some.injEq, Prod.mk.injEq] at stepped
          obtain ⟨rfl, rfl⟩ := stepped
          exact ⟨_, .misses, rfl⟩
      | some body =>
          simp only [step, looked, Option.some.injEq, Prod.mk.injEq] at stepped
          obtain ⟨rfl, rfl⟩ := stepped
          obtain ⟨entry, found, fresh, rfl⟩ := hit_eq_some looked
          exact ⟨_, .hits found fresh, rfl⟩
  | _ => cases stepped

theorem moved_of_returns
    (stepped : step kind decorated shared frame (.returns world) = some (after, next)) :
    Moved kind decorated shared frame after next (.returns world) := by
  obtain ⟨request, place, runs⟩ := frame
  cases place with
  | running key =>
      cases outcome : decorated.handler request world with
      | raises =>
          simp only [step, outcome, Option.some.injEq, Prod.mk.injEq] at stepped
          obtain ⟨rfl, rfl⟩ := stepped
          exact ⟨_, .raises, rfl⟩
      | returns value =>
          simp only [step, outcome] at stepped
          split at stepped
          · rename_i response
            obtain ⟨rfl, rfl⟩ := Prod.mk.inj (Option.some.inj stepped)
            exact ⟨_, .responds response, rfl⟩
          · rename_i plain
            obtain ⟨rfl, rfl⟩ := Prod.mk.inj (Option.some.inj stepped)
            exact ⟨_, .returns outcome (Bool.not_eq_true _ ▸ plain), rfl⟩
  | _ => cases stepped

theorem moved_of_serializes
    (stepped : step kind decorated shared frame (.serializes world) = some (after, next)) :
    Moved kind decorated shared frame after next (.serializes world) := by
  obtain ⟨request, place, runs⟩ := frame
  cases place with
  | returned key value =>
      simp only [step] at stepped
      split at stepped
      · rename_i body key made
        obtain ⟨rfl, rfl⟩ := Prod.mk.inj (Option.some.inj stepped)
        exact ⟨_, .serializes made, rfl⟩
      · obtain ⟨rfl, rfl⟩ := Prod.mk.inj (Option.some.inj stepped)
        exact ⟨_, .passesBody, rfl⟩
      · obtain ⟨rfl, rfl⟩ := Prod.mk.inj (Option.some.inj stepped)
        exact ⟨_, .passes, rfl⟩
      · obtain ⟨rfl, rfl⟩ := Prod.mk.inj (Option.some.inj stepped)
        exact ⟨_, .fails, rfl⟩
  | _ => cases stepped

/-- A step moves the request. -/
theorem moved_of_step {action : Action World Time}
    (stepped : step kind decorated shared frame action = some (after, next)) :
    Moved kind decorated shared frame after next action := by
  cases action with
  | reads now => exact moved_of_reads stepped
  | keys world => exact moved_of_keys stepped
  | looksUp => exact moved_of_looksUp stepped
  | returns world => exact moved_of_returns stepped
  | serializes world => exact moved_of_serializes stepped
  | calls =>
      obtain ⟨request, place, runs⟩ := frame
      cases place with
      | missed key =>
          obtain ⟨rfl, rfl⟩ := Prod.mk.inj (Option.some.inj stepped)
          exact ⟨_, .calls, rfl⟩
      | _ => cases stepped
  | cancels =>
      obtain ⟨request, place, runs⟩ := frame
      cases place with
      | running key =>
          obtain ⟨-, same⟩ := Option.ite_none_right_eq_some.mp stepped
          obtain ⟨rfl, rfl⟩ := Prod.mk.inj (Option.some.inj same)
          exact ⟨_, .cancels, rfl⟩
      | _ => cases stepped
  | stores =>
      obtain ⟨request, place, runs⟩ := frame
      cases place with
      | stamped key value body now =>
          obtain ⟨rfl, rfl⟩ := Prod.mk.inj (Option.some.inj stepped)
          exact ⟨_, .stores, rfl⟩
      | _ => cases stepped

end Inversion

/-! ## What a request knows -/

variable (decorated) in
/-- The key function returned the key for the request, when that called it. -/
def KeyOf (did : List (Action World Time)) (request : Request) (key : String) : Prop :=
  ∃ world, .keys world ∈ did ∧ decorated.key request world = .returns key

variable (decorated) in
/-- The handler returned the value for the request, when that ran it, and it is no `Response`. -/
def Returned (did : List (Action World Time)) (request : Request) (value : PyValue Object) :
    Prop :=
  (∃ world, .returns world ∈ did ∧ decorated.handler request world = .returns value) ∧
    isResponse value = false

variable (decorated) in
/-- The value was serialized to the body. -/
def Serialized (did : List (Action World Time)) (value : PyValue Object) (body : Bytes) : Prop :=
  ∃ world, .serializes world ∈ did ∧ serialize decorated value world = .ok body

variable (decorated) in
/-- The key function raised what is no `Exception`. -/
def Exited (did : List (Action World Time)) (request : Request) : Prop :=
  ∃ world, .keys world ∈ did ∧ decorated.key request world = .raisesOther

variable (decorated) in
/-- The body of a request that may store it. -/
structure Made (did : List (Action World Time)) (request : Request) (key : String)
    (value : PyValue Object) (body : Bytes) : Prop where
  keyOf : KeyOf decorated did request key
  returned : Returned decorated did request value
  serialized : Serialized decorated did value body

variable (decorated) in
/-- What is known of the variables at each place, from what the request did. -/
def Known (did : List (Action World Time)) (request : Request) : Place Object Time → Prop
  | .timed now => decorated.round now = now
  | .keyed now key | .done (.hit key now _) =>
      decorated.round now = now ∧ KeyOf decorated did request key
  | .missed key | .running key => ∀ known ∈ key, KeyOf decorated did request known
  | .returned key value =>
      (∀ known ∈ key, KeyOf decorated did request known) ∧ Returned decorated did request value
  | .serialized key value body | .stamped key value body _ | .done (.stored key value body _) =>
      Made decorated did request key value body
  | .done .exited => Exited decorated did request
  | _ => True

/-- How often the handler was called by then. -/
def Place.runs : Place Object Time → Nat
  | .entered | .timed _ | .keyed .. | .missed _ | .done (.hit ..) | .done .exited => 0
  | _ => 1

section Did

variable {did more : List (Action World Time)} {request : Request}

theorem KeyOf.mono {key : String} (keyOf : KeyOf decorated did request key) (sub : did ⊆ more) :
    KeyOf decorated more request key := by
  obtain ⟨world, called, returned⟩ := keyOf
  exact ⟨world, sub called, returned⟩

theorem Returned.mono {value : PyValue Object} (returned : Returned decorated did request value)
    (sub : did ⊆ more) : Returned decorated more request value := by
  obtain ⟨⟨world, called, same⟩, plain⟩ := returned
  exact ⟨⟨world, sub called, same⟩, plain⟩

theorem Made.mono {key : String} {value : PyValue Object} {body : Bytes}
    (made : Made decorated did request key value body) (sub : did ⊆ more) :
    Made decorated more request key value body := by
  obtain ⟨world, called, same⟩ := made.serialized
  exact ⟨made.keyOf.mono sub, made.returned.mono sub, world, sub called, same⟩

end Did

/-- An action keeps what is known and adds what it found. -/
theorem Moves.known {shared after : Shared Time} {did : List (Action World Time)}
    {request : Request} {place next : Place Object Time} {action : Action World Time}
    (moves : Moves kind decorated shared request place action after next)
    (known : Known decorated did request place) :
    Known decorated (did ++ [action]) request next := by
  have sub : did ⊆ did ++ [action] := List.subset_append_left _ _
  have last : action ∈ did ++ [action] := List.mem_append_right _ (List.mem_singleton_self _)
  cases moves with
  | enters float => exact float
  | keys returned => exact ⟨known, _, last, returned⟩
  | bypasses => exact fun _ impossible => (by cases impossible)
  | hits found fresh => exact ⟨known.1, known.2.mono sub⟩
  | misses =>
      rintro key same
      obtain rfl := Option.some.inj same
      exact known.2.mono sub
  | calls => exact fun key same => (known key same).mono sub
  | returns returned plain =>
      exact ⟨fun key same => (known key same).mono sub, ⟨_, last, returned⟩, plain⟩
  | serializes made => exact ⟨(known.1 _ rfl).mono sub, known.2.mono sub, _, last, made⟩
  | stamps => exact known.mono sub
  | stores => exact known.mono sub
  | exits raised => exact ⟨_, last, raised⟩
  | raises | cancels | responds | passesBody | passes | fails => exact trivial

theorem Moves.runs {shared after : Shared Time} {request : Request}
    {place next : Place Object Time} {action : Action World Time}
    (moves : Moves kind decorated shared request place action after next) :
    next.runs = place.runs + action.runs := by
  cases moves <;> rfl

/-- The cache changes only where a request stores its body. -/
theorem Moves.cache {shared after : Shared Time} {request : Request}
    {place next : Place Object Time} {action : Action World Time}
    (moves : Moves kind decorated shared request place action after next) :
    after.cache = shared.cache ∨
      ∃ key value body moment, action = .stores ∧ place = .stamped key value body moment ∧
        next = .done (.stored key value body moment) ∧
          after.cache =
            store shared.cache key ⟨body, decorated.round (moment + decorated.ttl)⟩ := by
  cases moves with
  | stores => exact .inr ⟨_, _, _, _, rfl, rfl, rfl, rfl⟩
  | _ => exact .inl rfl

/-- A hit was in the cache, and not expired. -/
theorem Moves.hit {shared after : Shared Time} {request : Request} {place : Place Object Time}
    {action : Action World Time} {key : String} {now : Time} {body : Bytes}
    (moves : Moves kind decorated shared request place action after (.done (.hit key now body))) :
    place = .keyed now key ∧
      ∃ entry, shared.cache.lookup key = some entry ∧ now < entry.expires ∧ entry.body = body := by
  cases moves with
  | hits found fresh => exact ⟨rfl, _, found, fresh, rfl⟩

/-! ## The cache -/

section Cache

omit [LinearOrder Time] [Add Time] [Zero Time]

variable {cache : Cache Time} {key other : String} {entry found : Entry Time}

theorem length_store (small : cache.keys.length ≤ MAX_ENTRIES) :
    (store cache key entry).keys.length ≤ MAX_ENTRIES := by
  rw [store, AList.keys_insert, List.length_cons]
  by_cases known : key ∈ cache
  · have positive := List.length_pos_of_mem (AList.mem_keys.mp known)
    rw [if_neg (fun full => full.2 known), List.length_erase_of_mem (AList.mem_keys.mp known)]
    omega
  · by_cases full : MAX_ENTRIES ≤ cache.keys.length
    · rw [if_pos ⟨full, known⟩, AList.keys_empty, List.erase_nil, List.length_nil, MAX_ENTRIES]
      omega
    · rw [if_neg (fun both => full both.1),
        List.erase_of_not_mem (fun member => known (AList.mem_keys.mpr member))]
      omega

theorem lookup_store (looked : (store cache key entry).lookup other = some found) :
    (other = key ∧ found = entry) ∨ cache.lookup other = some found := by
  rw [store] at looked
  by_cases same : other = key
  · rw [same, AList.lookup_insert] at looked
    exact .inl ⟨same, (Option.some.inj looked).symm⟩
  · rw [AList.lookup_insert_ne same] at looked
    split at looked
    · rw [AList.lookup_empty] at looked
      cases looked
    · exact .inr looked

end Cache

/-! ## Every interleaving -/

abbrev Requests (Request Object Time : Type*) := Threads (Shared Time) (Frame Request Object Time)

variable {before after : Requests Request Object Time}
  {event : ThreadEvent Request (Action World Time)}

/-- A request stored the body under the key when the clock was last read. -/
def Stored (requests : Requests Request Object Time) (key : String) (body : Bytes)
    (moment : Time) : Prop :=
  ∃ source ∈ requests.frames, ∃ value, source.place = .done (.stored key value body moment)

theorem final_of_done {frame : Frame Request Object Time} {answer : Answer Object Time}
    (done : frame.place = .done answer) : (program kind decorated).Final frame := by
  intro shared action
  cases action <;> simp only [program, step, done]

theorem Stored.fire {key : String} {body : Bytes} {moment : Time}
    (stored : Stored before key body moment)
    (fired : (program kind decorated).fire before event = some after) :
    Stored after key body moment := by
  obtain ⟨source, member, value, done⟩ := stored
  exact ⟨source, Program.mem_frames_of_final (final_of_done done) member fired, value, done⟩

variable (decorated) in
/-- The cache is small and its entries were stored, and so was what was served from it. -/
structure Invariant (requests : Requests Request Object Time) : Prop where
  size : requests.shared.cache.keys.length ≤ MAX_ENTRIES
  known : ∀ frame ∈ requests.frames, ∃ did, Known decorated did frame.request frame.place
  runs : ∀ frame ∈ requests.frames, frame.runs = frame.place.runs
  entries : ∀ key entry, requests.shared.cache.lookup key = some entry →
    ∃ moment, Stored requests key entry.body moment ∧
      entry.expires = decorated.round (moment + decorated.ttl)
  hits : ∀ frame ∈ requests.frames, ∀ key now body, frame.place = .done (.hit key now body) →
    ∃ moment, Stored requests key body moment ∧ now < moment + decorated.ttl

namespace Invariant

theorem initial (clock : Time) :
    Invariant decorated ((program kind decorated).machine ⟨∅, clock⟩).init where
  size := Nat.zero_le _
  known := fun _ member => absurd member List.not_mem_nil
  runs := fun _ member => absurd member List.not_mem_nil
  entries := by
    intro key entry found
    cases found
  hits := fun _ member => absurd member List.not_mem_nil

/-- What expires later than now was stored less than `ttl` ago, whatever the sum was rounded to. -/
theorem lt_of_fresh {now moment : Time} (float : decorated.round now = now)
    (fresh : now < decorated.round (moment + decorated.ttl)) : now < moment + decorated.ttl := by
  by_contra late
  have rounded := decorated.round_mono (not_lt.mp late)
  rw [float] at rounded
  exact absurd fresh (not_lt.mpr rounded)

theorem fire (invariant : Invariant decorated before)
    (fired : (program kind decorated).fire before event = some after) :
    Invariant decorated after := by
  have known : ∀ frame ∈ after.frames, ∃ did, Known decorated did frame.request frame.place := by
    refine Program.forall_frames_of_fire ?_ ?_ invariant.known fired
    · exact fun request => ⟨[], trivial⟩
    · rintro shared frame action after next ⟨did, known⟩ stepped
      obtain ⟨place, moves, rfl⟩ := moved_of_step stepped
      exact ⟨_, moves.known known⟩
  have runs : ∀ frame ∈ after.frames, frame.runs = frame.place.runs := by
    refine Program.forall_frames_of_fire ?_ ?_ invariant.runs fired
    · exact fun request => rfl
    · intro shared frame action after next counted stepped
      obtain ⟨place, moves, rfl⟩ := moved_of_step stepped
      exact (congrArg (· + action.runs) counted).trans moves.runs.symm
  have kept {key : String} {body : Bytes} {moment : Time} (stored : Stored before key body moment) :
      Stored after key body moment := stored.fire fired
  obtain ⟨request, rfl⟩ | ⟨thread, action, frame, shared, next, -, found, stepped, rfl⟩ :=
    Program.fire_cases fired
  · refine ⟨invariant.size, known, runs, ?_, ?_⟩
    · intro key entry looked
      obtain ⟨moment, stored, expires⟩ := invariant.entries key entry looked
      exact ⟨moment, kept stored, expires⟩
    · intro frame member key now body done
      obtain old | fresh := List.mem_append.mp member
      · obtain ⟨moment, stored, recent⟩ := invariant.hits frame old key now body done
        exact ⟨moment, kept stored, recent⟩
      · rw [List.mem_singleton.mp fresh] at done
        cases done
  · obtain ⟨place, moves, rfl⟩ := moved_of_step stepped
    have inside : thread < before.frames.length := (List.getElem?_eq_some_iff.mp found).1
    refine ⟨?_, known, runs, ?_, ?_⟩
    · obtain same | ⟨key, value, body, moment, -, -, -, changed⟩ := moves.cache
      · exact same ▸ invariant.size
      · exact changed ▸ length_store invariant.size
    · intro key entry looked
      obtain same | ⟨own, value, body, moment, -, -, isStored, changed⟩ := moves.cache
      · rw [same] at looked
        obtain ⟨moment, stored, expires⟩ := invariant.entries key entry looked
        exact ⟨moment, kept stored, expires⟩
      · rw [changed] at looked
        obtain ⟨rfl, rfl⟩ | old := lookup_store looked
        · exact ⟨moment, ⟨_, List.mem_set inside _, value, isStored⟩, rfl⟩
        · obtain ⟨moment, stored, expires⟩ := invariant.entries key entry old
          exact ⟨moment, kept stored, expires⟩
    · intro other member key now body done
      obtain old | rfl := List.mem_or_eq_of_mem_set member
      · obtain ⟨moment, stored, recent⟩ := invariant.hits other old key now body done
        exact ⟨moment, kept stored, recent⟩
      · obtain rfl : place = .done (.hit key now body) := done
        obtain ⟨isKeyed, entry, looked, fresh, rfl⟩ := moves.hit
        obtain ⟨moment, stored, expires⟩ := invariant.entries key entry looked
        obtain ⟨did, float⟩ := invariant.known frame (List.mem_of_getElem? found)
        rw [isKeyed] at float
        exact ⟨moment, kept stored, lt_of_fresh float.1 (expires ▸ fresh)⟩

end Invariant

theorem known_of_run {clock : Time} {schedule : List (ThreadEvent Request (Action World Time))}
    {requests : Requests Request Object Time}
    (reached : ((program kind decorated).machine ⟨∅, clock⟩).run schedule = some requests)
    {thread : Nat} {frame : Frame Request Object Time}
    (found : requests.frames[thread]? = some frame) :
    Known decorated (ThreadEvent.actionsOf schedule thread) frame.request frame.place := by
  have started (request : Request) :
      Known decorated [] ((program kind decorated).start request).request
        ((program kind decorated).start request).place := trivial
  have steps {did : List (Action World Time)} {shared after : Shared Time}
      {frame next : Frame Request Object Time} {action : Action World Time}
      (known : Known decorated did frame.request frame.place)
      (stepped : (program kind decorated).step shared frame action = some (after, next)) :
      Known decorated (did ++ [action]) next.request next.place := by
    obtain ⟨place, moves, rfl⟩ := moved_of_step stepped
    exact moves.known known
  exact (Program.frames_of_run (fun did frame => Known decorated did frame.request frame.place)
    started steps reached).1 thread frame found

/-- Whatever the order of the requests' steps, the cache stays small; what is served from it was
made of a value the handler returned for a request of the same key, less than `ttl` before; only a
request with a key and a value that is no `Response` and serializes changes it; and the handler of
a request that is not served from it runs once, unless its key function raised what is no
`Exception`.  What is said of the key function, the handler and the serializer is of the request's
own calls. -/
theorem cached_json_sound (kind : Wrapper) (decorated : Decorated Request Object World Time)
    (clock : Time) (schedule : List (ThreadEvent Request (Action World Time)))
    (requests : Requests Request Object Time)
    (reached : ((program kind decorated).machine ⟨∅, clock⟩).run schedule = some requests) :
    let did := ThreadEvent.actionsOf schedule
    requests.shared.cache.keys.length ≤ MAX_ENTRIES ∧
      (∀ (thread : Nat) (frame : Frame Request Object Time),
        requests.frames[thread]? = some frame →
        ∀ key now body, frame.place = .done (.hit key now body) →
          ∃ (other : Nat) (source : Frame Request Object Time),
            requests.frames[other]? = some source ∧ ∃ value moment,
              source.place = .done (.stored key value body moment) ∧
                KeyOf decorated (did thread) frame.request key ∧
                  KeyOf decorated (did other) source.request key ∧
                    Returned decorated (did other) source.request value ∧
                      Serialized decorated (did other) value body ∧
                        now < moment + decorated.ttl) ∧
      (∀ event after, (program kind decorated).fire requests event = some after →
        after.shared.cache ≠ requests.shared.cache →
          ∃ thread frame key value body, event = .acts thread .stores ∧
            requests.frames[thread]? = some frame ∧
              KeyOf decorated (did thread) frame.request key ∧
                Returned decorated (did thread) frame.request value ∧
                  Serialized decorated (did thread) value body) ∧
      ∀ (thread : Nat) (frame : Frame Request Object Time),
        requests.frames[thread]? = some frame → ∀ answer, frame.place = .done answer →
          (∀ key now body, answer ≠ .hit key now body) →
            frame.runs = 1 ∨
              frame.runs = 0 ∧ answer = .exited ∧ Exited decorated (did thread) frame.request := by
  have invariant : Invariant decorated requests :=
    Machine.Reachable.invariant (.initial clock) (fun holds fired => holds.fire fired)
      ⟨schedule, reached⟩
  refine ⟨invariant.size, ?_, ?_, ?_⟩
  · intro thread frame found key now body done
    obtain ⟨moment, ⟨source, present, value, stored⟩, recent⟩ :=
      invariant.hits frame (List.mem_of_getElem? found) key now body done
    obtain ⟨other, there⟩ := List.mem_iff_getElem?.mp present
    have own := known_of_run reached found
    have made := known_of_run reached there
    rw [done] at own
    rw [stored] at made
    exact ⟨other, source, there, value, moment, stored, own.2, made.keyOf, made.returned,
      made.serialized, recent⟩
  · intro event after fired changed
    obtain ⟨request, rfl⟩ | ⟨thread, action, frame, shared, next, rfl, found, stepped, rfl⟩ :=
      Program.fire_cases fired
    · exact absurd rfl changed
    · obtain ⟨place, moves, rfl⟩ := moved_of_step stepped
      obtain same | ⟨key, value, body, moment, rfl, isStamped, -, -⟩ := moves.cache
      · exact absurd same changed
      · have made := known_of_run reached found
        rw [isStamped] at made
        exact ⟨thread, frame, key, value, body, rfl, found, made.keyOf, made.returned,
          made.serialized⟩
  · intro thread frame found answer done missed
    have counted := invariant.runs frame (List.mem_of_getElem? found)
    have own := known_of_run reached found
    rw [done] at counted own
    cases answer with
    | hit key now body => exact absurd rfl (missed key now body)
    | exited => exact .inr ⟨counted, rfl, own⟩
    | stored | unstored | passed | raised => exact .inl counted

end Requests

/-- The path is the key, and every handler answers with the same two bytes. -/
def sample (key : String → Unit → KeyOutcome) : Decorated String Unit Unit Nat where
  ttl := 5
  ttl_pos := by decide
  key
  handler := fun _ _ => .returns (.bytes [1, 2])
  dumps := fun _ _ => .error .unserializable
  bytearray := fun _ _ => []
  round := id
  round_mono := monotone_id

/-- A request that is served what another stored. -/
theorem cached_json_sound_hit :
    ∃ requests : Requests String Unit Nat,
      requests.frames.map Frame.runs = [1, 0] ∧
        ∃ source ∈ requests.frames, ∃ value moment,
          source.place = .done (.stored "/a" value [1, 2] moment) ∧ 6 < moment + 5 := by
  have reached : ((program .wrapper (sample fun path _ => .returns path)).machine ⟨∅, 0⟩).run
      [.starts "/a", .starts "/a", .acts 0 (.reads 1), .acts 0 (.keys ()), .acts 0 .looksUp,
        .acts 0 .calls, .acts 0 (.returns ()), .acts 0 (.serializes ()), .acts 0 (.reads 3),
        .acts 0 .stores, .acts 1 (.reads 6), .acts 1 (.keys ()), .acts 1 .looksUp] =
      some
        { shared := { cache := AList.singleton "/a" ⟨[1, 2], 8⟩, clock := 6 }
          frames :=
            [⟨"/a", .done (.stored "/a" (.bytes [1, 2]) [1, 2] 3), 1⟩,
              ⟨"/a", .done (.hit "/a" 6 [1, 2]), 0⟩] } := rfl
  obtain ⟨_, source, found, value, moment, stored, -, -, -, -, recent⟩ :=
    (cached_json_sound _ _ _ _ _ reached).2.1 1 _ rfl "/a" 6 [1, 2] rfl
  exact ⟨_, rfl, source, List.mem_of_getElem? found, value, moment, stored, recent⟩

/-- A key function that raises `SystemExit` takes the request out before its handler. -/
theorem handler_not_run :
    ¬ ∀ (schedule : List (ThreadEvent String (Action Unit Nat)))
        (requests : Requests String Unit Nat),
      ((program .wrapper (sample fun _ _ => .raisesOther)).machine ⟨∅, 0⟩).run schedule =
          some requests →
        ∀ frame ∈ requests.frames, ∀ answer, frame.place = .done answer →
          (∀ key now body, answer ≠ .hit key now body) → frame.runs = 1 := by
  intro always
  have once := always [.starts "/a", .acts 0 (.reads 1), .acts 0 (.keys ())]
    { shared := { cache := ∅, clock := 1 }, frames := [⟨"/a", .done .exited, 0⟩] } rfl _ (.head _)
    .exited rfl (fun _ _ _ impossible => (by cases impossible))
  exact absurd once (by decide)

end CachedJson

end Pyronova
