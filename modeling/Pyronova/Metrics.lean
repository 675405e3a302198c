import Mathlib.Tactic
import Pyronova.Crud
import Pyronova.Execution
import Pyronova.SharedState

/-!
# Request metrics

After every request a hook adds to a few counters of the shared state, one call after the other,
while other interpreters do the same and scrapes read the counters one after the other.  Each
counter is the exact sum of the calls that were made on it, what a scrape shows of a counter is what
the counter held while the scrape ran, and no later scrape shows less.
-/

namespace Pyronova.Metrics

open Crud (Python)

/-! ## Counting -/

def STATUS_CLASSES : List String := ["1xx", "2xx", "3xx", "4xx", "5xx"]

def TRACKED_METHODS : List String := ["GET", "POST", "PUT", "DELETE", "PATCH", "HEAD", "OPTIONS"]

def totalKey : String := "_m:req:total"

def classKey (statusClass : String) : String := "_m:req:class:" ++ statusClass

def methodKey (method : String) : String := "_m:req:method:" ++ method

def sumKey : String := "_m:lat:sum_us"

def countKey : String := "_m:lat:count"

/-- The counters a scrape reads, in order. -/
def metricKeys : List String :=
  totalKey :: STATUS_CLASSES.map classKey ++ TRACKED_METHODS.map methodKey ++ [sumKey, countKey]

/-- A key that the hooks keep to themselves. -/
def isMetric (key : String) : Bool := "_m:".toList.isPrefixOf key.toList

/-- What `_after` sees of a request. -/
structure Served where
  path : String
  status : Nat
  method : String
  /-- Microseconds since `_before`, where it ran. -/
  elapsed : Option Nat

def statusClass (status : Nat) : String := toString (status / 100) ++ "xx"

/-- The calls of `_after`; the scrape itself is not counted. -/
def Served.calls (path : String) (served : Served) : List (String × Int) :=
  if served.path = path then []
  else
    [(totalKey, 1), (classKey (statusClass served.status), 1)] ++
      (if served.method.toUpper ∈ TRACKED_METHODS then [(methodKey served.method.toUpper, 1)]
        else []) ++
      match served.elapsed with
      | some micros => [(sumKey, (micros : Int)), (countKey, 1)]
      | none => []

/-- A run of `_after`. -/
structure Hook where
  served : Served
  made : List (String × Int)
  left : List (String × Int)
  /-- The call that raised, which was logged and ended the hook. -/
  raised : Option (String × Int)

/-- Why a scrape has no number for a counter. -/
inductive ReadError
  /-- `TypeError`. -/
  | notText
  /-- `CorruptMetric`. -/
  | corrupt (text : String)

/-- `_read_int`. -/
def readInt (py : Python) : Option Bytes → Except ReadError Int
  | none => .ok 0
  | some bytes =>
      match utf8Decode bytes with
      | none => .error .notText
      | some text =>
          match py.int (Json.ofString text) with
          | none => .error (.corrupt text)
          | some number => .ok number

/-- A run of `_render_prometheus`. -/
structure Scrape where
  /-- The map as it began. -/
  began : SharedMap
  /-- The scrapes that had ended by then. -/
  earlier : List Nat
  reads : List Int
  failed : Option ReadError

/-- `_after` as it is entered. -/
def Served.hook (path : String) (served : Served) : Hook where
  served
  made := []
  left := served.calls path
  raised := none

structure MetricsState where
  map : SharedMap
  hooks : List Hook
  scrapes : List Scrape

inductive MetricsEvent
  | served (request : Served)
  /-- A hook makes its next call. -/
  | count (hook : Nat)
  | scrape
  /-- A scrape reads its next counter. -/
  | read (scrape : Nat)
  /-- A call of the app's on another key. -/
  | call (call : StateCall)

namespace MetricsState

/-- `state.incr`; what it raises ends the hook. -/
def count (state : MetricsState) (index : Nat) (hook : Hook) : Option MetricsState :=
  match hook.left with
  | [] => none
  | (key, amount) :: left =>
      let stopped := state.hooks.set index { hook with left := [], raised := some (key, amount) }
      match checkedI64 amount with
      | none => some { state with hooks := stopped }
      | some amount64 =>
          match state.map.incr key amount64 with
          | (.ok _, map) =>
              some
                { state with
                  map
                  hooks := state.hooks.set index
                    { hook with made := hook.made ++ [(key, amount)], left } }
          | (.error _, map) => some { state with map, hooks := stopped }

/-- The scrapes that have every number. -/
def ended (state : MetricsState) : List Nat :=
  (List.range state.scrapes.length).filter fun index =>
    (state.scrapes[index]?.map fun scrape => scrape.reads.length) = some metricKeys.length

/-- `_render_prometheus` as it is entered. -/
def newScrape (state : MetricsState) : Scrape where
  began := state.map
  earlier := state.ended
  reads := []
  failed := none

def read (py : Python) (state : MetricsState) (index : Nat) (scrape : Scrape) :
    Option MetricsState :=
  match scrape.failed, metricKeys[scrape.reads.length]? with
  | none, some key =>
      match readInt py (state.map key) with
      | .ok number =>
          some
            { state with
              scrapes := state.scrapes.set index
                { scrape with reads := scrape.reads ++ [number] } }
      | .error error =>
          some
            { state with
              scrapes := state.scrapes.set index { scrape with failed := some error } }
  | _, _ => none

def step (py : Python) (path : String) (state : MetricsState) :
    MetricsEvent → Option MetricsState
  | .served request => some { state with hooks := state.hooks ++ [request.hook path] }
  | .count index => state.hooks[index]?.bind fun hook => state.count index hook
  | .scrape => some { state with scrapes := state.scrapes ++ [state.newScrape] }
  | .read index => state.scrapes[index]?.bind fun scrape => state.read py index scrape
  | .call call =>
      if isMetric call.key then none
      else some { state with map := (call.perform state.map).2 }

end MetricsState

/-- Requests, scrapes and the app's own calls, in any order; the map starts empty. -/
def metricsMachine (py : Python) (path : String) : Machine MetricsState MetricsEvent where
  init := { map := fun _ => none, hooks := [], scrapes := [] }
  step := MetricsState.step py path

/-! ## Reading a counter back -/

section ReadInt

variable (py : Python)

theorem codePoint_inj {c d : Char} (same : Json.codePoint c = Json.codePoint d) : c = d := by
  have equal := congrArg (fun point : Json.CodePoint => point.val) same
  exact Char.toNat_inj.mp equal

theorem decimalDigit_digit {digit : Char} (isDigit : digit.isDigit) :
    py.decimalDigit (Json.codePoint digit) = some (DecimalDigits.digitValue digit) := by
  have bounds : 48 ≤ digit.toNat ∧ digit.toNat ≤ 57 := Char.isDigit_iff_toNat.mp isDigit
  have value : (Json.codePoint digit).val = digit.toNat := rfl
  rw [Python.decimalDigit, if_pos (by omega), if_pos]
  · rfl
  · rw [Placeholders.isDigit, Bool.and_eq_true, decide_eq_true_eq, decide_eq_true_eq]
    omega

theorem readDigits_digits {digits : List Char} (all : DecimalDigits.AllDigits digits)
    (some : digits ≠ []) :
    py.readDigits (digits.map Json.codePoint) =
      Option.some (digits.map DecimalDigits.digitValue) := by
  induction digits with
  | nil => exact absurd rfl some
  | cons first rest induction =>
      have own := decimalDigit_digit py (all first List.mem_cons_self)
      have later : DecimalDigits.AllDigits rest := fun digit member =>
        all digit (List.mem_cons_of_mem _ member)
      cases rest with
      | nil => simp [Python.readDigits, own]
      | cons second rest =>
          have notMark : ¬ Json.codePoint second = Json.codePoint '_' := by
            intro same
            have isDigit := all second (by simp)
            rw [codePoint_inj same] at isDigit
            cases isDigit
          have following := induction later (by simp)
          simp only [List.map_cons] at following ⊢
          rw [Python.readDigits, own]
          simp only [if_neg notMark, following, Option.map_some]

theorem isBlank_of_visible {c : Char} (visible : c.isDigit ∨ c = '-') :
    py.isBlank (Json.codePoint c) = false := by
  have value : (Json.codePoint c).val = c.toNat := rfl
  have bounds : 45 ≤ c.toNat ∧ c.toNat ≤ 57 := by
    rcases visible with digit | rfl
    · have bounds : 48 ≤ c.toNat ∧ c.toNat ≤ 57 := Char.isDigit_iff_toNat.mp digit
      omega
    · decide
  rw [Python.isBlank, if_pos (by omega)]
  simp only [Bool.or_eq_false_iff, Bool.and_eq_false_iff, decide_eq_false_iff_not]
  omega

theorem strip_visible {text : List Char} (visible : ∀ c ∈ text, c.isDigit ∨ c = '-') :
    py.strip (text.map Json.codePoint) = text.map Json.codePoint := by
  have none : ∀ given ∈ text.map Json.codePoint, ¬ py.isBlank given = true := by
    intro given member
    obtain ⟨c, inText, rfl⟩ := List.mem_map.mp member
    rw [isBlank_of_visible py (visible c inText)]
    exact Bool.false_ne_true
  have front : (text.map Json.codePoint).dropWhile py.isBlank = text.map Json.codePoint :=
    List.dropWhile_eq_self_iff.mpr fun nonempty => none _ (List.getElem_mem nonempty)
  rw [Python.strip, front, List.rdropWhile_eq_self_iff]
  exact fun nonempty => none _ (List.getLast_mem nonempty)

/-- The text of a number is read as the number. -/
theorem int_toString (number : Int) :
    py.int (Json.ofString (toString number)) = some number := by
  have digits (count : Nat) : py.readDigits ((Nat.toDigits 10 count).map Json.codePoint) =
      some ((Nat.toDigits 10 count).map DecimalDigits.digitValue) :=
    readDigits_digits py (DecimalDigits.allDigits_toDigits count) Nat.toDigits_ne_nil
  have value (count : Nat) : Positional.number 10
      ((Nat.toDigits 10 count).map DecimalDigits.digitValue) = count := by
    rw [← DecimalDigits.value_eq_number, DecimalDigits.value_toDigits]
  rw [Int.toString_eq_repr, Int.repr_eq_if, Json.ofString]
  by_cases nonneg : 0 ≤ number
  · have visible : ∀ c ∈ Nat.toDigits 10 number.toNat, c.isDigit ∨ c = '-' := fun c member =>
      .inl (DecimalDigits.allDigits_toDigits _ c member)
    rw [if_pos nonneg, Nat.toList_repr, Python.int, strip_visible py visible]
    cases all : Nat.toDigits 10 number.toNat with
    | nil => exact absurd all Nat.toDigits_ne_nil
    | cons first rest =>
        have isDigit := DecimalDigits.allDigits_toDigits number.toNat first (by simp [all])
        have notSign (sign : Char) (other : sign.isDigit = false) :
            ¬ Json.codePoint first = Json.codePoint sign := by
          intro same
          rw [codePoint_inj same, other] at isDigit
          cases isDigit
        have read := digits number.toNat
        have worth := value number.toNat
        rw [all] at read worth
        rw [List.map_cons] at read ⊢
        simp only [if_neg (notSign '-' (by decide)), if_neg (notSign '+' (by decide)), read,
          Option.map_some, worth, Int.toNat_of_nonneg nonneg]
  · have visible : ∀ c ∈ '-' :: Nat.toDigits 10 (-number).toNat, c.isDigit ∨ c = '-' := by
      intro c member
      obtain rfl | later := List.mem_cons.mp member
      · exact .inr rfl
      · exact .inl (DecimalDigits.allDigits_toDigits _ c later)
    have text : ("-" ++ (-number).toNat.repr).toList = '-' :: Nat.toDigits 10 (-number).toNat := by
      rw [String.toList_append, Nat.toList_repr]
      rfl
    rw [if_neg nonneg, text, Python.int, strip_visible py visible, List.map_cons]
    simp only [if_true, digits, Option.map_some, value]
    congr 1
    omega

end ReadInt

/-! ## What a counter holds -/

/-- What calls add to a counter. -/
def addedTo (key : String) (calls : List (String × Int)) : Int :=
  ((calls.filter fun call => call.1 = key).map Prod.snd).sum

/-- What the hooks have added to a counter. -/
def MetricsState.counted (state : MetricsState) (key : String) : Int :=
  (state.hooks.map fun hook => addedTo key hook.made).sum

/-- The entry of a counter: none while nothing was added, and then the text of its number. -/
inductive Holds (total : Int) : Option Bytes → Prop
  | absent (zero : total = 0) : Holds total none
  | text (held : Int64) (same : held.toInt = total) : Holds total (some (counterText total))

theorem Holds.counterValue {total : Int} {entry : Option Bytes} (holds : Holds total entry)
    {current : Int64} (read : counterValue entry = some current) : current.toInt = total := by
  cases holds with
  | absent zero =>
      obtain rfl := Option.some.inj read
      exact Int64.toInt_zero.trans zero.symm
  | text held same =>
      obtain rfl := same
      rw [counterValue_counterText] at read
      exact congrArg Int64.toInt (Option.some.inj read.symm)

theorem Holds.exists_value {total : Int} {entry : Option Bytes} (holds : Holds total entry) :
    ∃ current, Pyronova.counterValue entry = some current ∧ current.toInt = total := by
  cases holds with
  | absent zero => exact ⟨0, rfl, Int64.toInt_zero.trans zero.symm⟩
  | text held same =>
      obtain rfl := same
      exact ⟨held, counterValue_counterText held, rfl⟩

theorem Holds.readInt (py : Python) {total : Int} {entry : Option Bytes}
    (holds : Holds total entry) : readInt py entry = .ok total := by
  cases holds with
  | absent zero => rw [zero, Metrics.readInt]
  | text held same => simp only [Metrics.readInt, counterText, utf8Decode_encode, int_toString]

/-- An interpreter without digits or blanks beyond ASCII. -/
def noDigits : Python where
  repr := id
  digit := fun _ => none
  isSpace := fun _ => false

theorem Holds.unique {first second : Int} {entry : Option Bytes} (one : Holds first entry)
    (other : Holds second entry) : first = second := by
  have read := (one.readInt noDigits).symm.trans (other.readInt noDigits)
  exact Except.ok.inj read

/-! ## The calls of a hook -/

theorem addedTo_nil (key : String) : addedTo key [] = 0 := rfl

theorem addedTo_cons (key : String) (call : String × Int) (calls : List (String × Int)) :
    addedTo key (call :: calls) = (if call.1 = key then call.2 else 0) + addedTo key calls := by
  by_cases same : call.1 = key
  · simp [addedTo, same]
  · simp [addedTo, same]

theorem addedTo_append (key : String) (earlier later : List (String × Int)) :
    addedTo key (earlier ++ later) = addedTo key earlier + addedTo key later := by
  simp [addedTo]

theorem isMetric_of_append {front : String} (metric : isMetric front) (rest : String) :
    isMetric (front ++ rest) := by
  rw [isMetric, String.toList_append]
  exact List.isPrefixOf_iff_prefix.mpr
    ((List.isPrefixOf_iff_prefix.mp metric).trans (List.prefix_append _ _))

theorem isMetric_of_mem {key : String} (member : key ∈ metricKeys) : isMetric key := by
  have all : ∀ key ∈ metricKeys, isMetric key = true := by decide
  exact all key member

/-- The calls are on the hook's own keys, and nothing is taken from a counter. -/
theorem Served.call_sound {path : String} {served : Served} {call : String × Int}
    (member : call ∈ served.calls path) : isMetric call.1 ∧ 0 ≤ call.2 := by
  have classes : isMetric (classKey (statusClass served.status)) :=
    isMetric_of_append (by decide) _
  have methods : isMetric (methodKey served.method.toUpper) := isMetric_of_append (by decide) _
  rw [Served.calls] at member
  split at member
  · cases member
  · simp only [List.append_assoc, List.mem_append, List.mem_cons, List.not_mem_nil, or_false]
      at member
    rcases member with (rfl | rfl) | method | latency
    · exact ⟨by decide, by decide⟩
    · exact ⟨classes, by simp⟩
    · split at method
      · obtain rfl := List.mem_singleton.mp method
        exact ⟨methods, by simp⟩
      · cases method
    · split at latency
      · rcases List.mem_pair.mp latency with rfl | rfl
        · exact ⟨(by decide : isMetric sumKey), Int.natCast_nonneg _⟩
        · exact ⟨by decide, by decide⟩
      · cases latency

theorem addedTo_nonneg (key : String) {calls : List (String × Int)}
    (amounts : ∀ call ∈ calls, 0 ≤ call.2) : 0 ≤ addedTo key calls := by
  apply List.sum_nonneg
  intro amount member
  obtain ⟨call, kept, rfl⟩ := List.mem_map.mp member
  exact amounts call (List.mem_filter.mp kept).1

theorem addedTo_le_of_prefix {key : String} {made calls : List (String × Int)}
    (initial : made <+: calls) (amounts : ∀ call ∈ calls, 0 ≤ call.2) :
    addedTo key made ≤ addedTo key calls := by
  obtain ⟨left, rfl⟩ := initial
  have more := addedTo_nonneg key fun call member =>
    amounts call (List.mem_append_right made member)
  rw [addedTo_append]
  omega

/-! ## What one request adds -/

/-- The counters by name, for telling their keys apart. -/
inductive Counter
  | total
  | ofClass (statusClass : String)
  | ofMethod (method : String)
  | sum
  | count
  deriving DecidableEq

def Counter.key : Counter → String
  | .total => totalKey
  | .ofClass statusClass => classKey statusClass
  | .ofMethod method => methodKey method
  | .sum => sumKey
  | .count => countKey

/-- The start of a key, long enough to tell one kind of counter from another. -/
def Counter.front : Counter → String
  | .total => "_m:req:t"
  | .ofClass _ => "_m:req:c"
  | .ofMethod _ => "_m:req:m"
  | .sum => "_m:lat:s"
  | .count => "_m:lat:c"

theorem Counter.take_key (counter : Counter) :
    counter.key.toList.take 8 = counter.front.toList := by
  cases counter with
  | ofClass statusClass =>
      have long : 8 ≤ "_m:req:class:".toList.length := by decide
      rw [key, classKey, String.toList_append, List.take_append_of_le_length long, front]
      decide
  | ofMethod method =>
      have long : 8 ≤ "_m:req:method:".toList.length := by decide
      rw [key, methodKey, String.toList_append, List.take_append_of_le_length long, front]
      decide
  | total | sum | count => rfl

theorem Counter.key_injective : Function.Injective Counter.key := by
  intro one other same
  have fronts : one.front = other.front := by
    apply String.toList_injective
    rw [← one.take_key, ← other.take_key, same]
  cases one <;> cases other <;> simp only [front, String.reduceEq] at fronts
  case total.total | sum.sum | count.count => rfl
  case ofClass.ofClass one other =>
    have rests := congrArg String.toList same
    simp only [key, classKey, String.toList_append] at rests
    rw [String.toList_injective (List.append_cancel_left rests)]
  case ofMethod.ofMethod one other =>
    have rests := congrArg String.toList same
    simp only [key, methodKey, String.toList_append] at rests
    rw [String.toList_injective (List.append_cancel_left rests)]

/-- The counters that a request adds to, and by how much. -/
def Served.adds (path : String) (served : Served) : List (Counter × Int) :=
  if served.path = path then []
  else
    [(.total, 1), (.ofClass (statusClass served.status), 1)] ++
      (if served.method.toUpper ∈ TRACKED_METHODS then [(.ofMethod served.method.toUpper, 1)]
        else []) ++
      match served.elapsed with
      | some micros => [(.sum, (micros : Int)), (.count, 1)]
      | none => []

theorem Served.calls_eq (path : String) (served : Served) :
    served.calls path = (served.adds path).map fun add => (add.1.key, add.2) := by
  rw [calls, adds]
  split
  · rfl
  · split <;> cases served.elapsed <;> rfl

theorem addedTo_key (counter : Counter) (adds : List (Counter × Int)) :
    addedTo counter.key (adds.map fun add => (add.1.key, add.2)) =
      ((adds.filter fun add => add.1 = counter).map Prod.snd).sum := by
  induction adds with
  | nil => rfl
  | cons add adds induction =>
      rw [List.map_cons, addedTo_cons, induction]
      by_cases same : add.1 = counter
      · simp [same]
      · simp [same, Counter.key_injective.eq_iff]

section Adds

variable (path : String) (served : Served)

theorem addedTo_total :
    addedTo totalKey (served.calls path) = if served.path = path then 0 else 1 := by
  have key : totalKey = Counter.total.key := rfl
  rw [Served.calls_eq, key, addedTo_key, Served.adds]
  split
  · rfl
  · split <;> cases served.elapsed <;> simp

theorem addedTo_class (name : String) :
    addedTo (classKey name) (served.calls path) =
      if served.path = path then 0 else if statusClass served.status = name then 1 else 0 := by
  have key : classKey name = (Counter.ofClass name).key := rfl
  rw [Served.calls_eq, key, addedTo_key, Served.adds]
  split
  · rfl
  · by_cases same : statusClass served.status = name
    · split <;> cases served.elapsed <;> simp [same]
    · split <;> cases served.elapsed <;> simp [same]

theorem addedTo_method {name : String} (tracked : name ∈ TRACKED_METHODS) :
    addedTo (methodKey name) (served.calls path) =
      if served.path = path then 0 else if served.method.toUpper = name then 1 else 0 := by
  have key : methodKey name = (Counter.ofMethod name).key := rfl
  rw [Served.calls_eq, key, addedTo_key, Served.adds]
  split
  · rfl
  · by_cases same : served.method.toUpper = name
    · cases served.elapsed <;> simp [same, tracked]
    · split <;> cases served.elapsed <;> simp [same]

theorem addedTo_sum :
    addedTo sumKey (served.calls path) =
      if served.path = path then 0 else ((served.elapsed.getD 0 : Nat) : Int) := by
  have key : sumKey = Counter.sum.key := rfl
  rw [Served.calls_eq, key, addedTo_key, Served.adds]
  split
  · rfl
  · split <;> cases served.elapsed <;> simp

theorem addedTo_count :
    addedTo countKey (served.calls path) =
      if served.path = path then 0 else if served.elapsed.isSome then 1 else 0 := by
  have key : countKey = Counter.count.key := rfl
  rw [Served.calls_eq, key, addedTo_key, Served.adds]
  split
  · rfl
  · split <;> cases served.elapsed <;> simp

end Adds

/-! ## Every run -/

/-- A hook makes its calls in order, and stops early only by an error. -/
structure Hook.Sound (path : String) (hook : Hook) : Prop where
  made : hook.made <+: hook.served.calls path
  left : hook.raised = none → hook.made ++ hook.left = hook.served.calls path

/-- The number that a scrape has for a counter. -/
def Scrape.Shows (scrape : Scrape) (key : String) (number : Int) : Prop :=
  ∃ position : Nat, metricKeys[position]? = some key ∧ scrape.reads[position]? = some number

structure Scrape.Sound (state : MetricsState) (scrape : Scrape) : Prop where
  unfailed : scrape.failed = none
  begun : ∀ key, isMetric key →
    ∃ first, Holds first (scrape.began key) ∧ first ≤ state.counted key
  within : ∀ key shown, scrape.Shows key shown →
    shown ≤ state.counted key ∧ ∃ first, Holds first (scrape.began key) ∧ first ≤ shown
  earlier : ∀ other ∈ scrape.earlier, ∃ before : Scrape,
    state.scrapes[other]? = some before ∧ before.reads.length = metricKeys.length ∧
      ∀ key shown, before.Shows key shown →
        ∃ first, Holds first (scrape.began key) ∧ shown ≤ first

structure MetricsState.Sound (path : String) (state : MetricsState) : Prop where
  entries : ∀ key, isMetric key → Holds (state.counted key) (state.map key)
  hooks : ∀ hook ∈ state.hooks, hook.Sound path
  /-- A call that raised would have taken its counter past an `i64`. -/
  raised : ∀ hook ∈ state.hooks, ∀ key amount, hook.raised = some (key, amount) →
    hook.left = [] ∧ 2 ^ 63 ≤ state.counted key + amount
  scrapes : ∀ scrape ∈ state.scrapes, scrape.Sound state

theorem Scrape.Shows.isMetric {scrape : Scrape} {key : String} {number : Int}
    (shows : scrape.Shows key number) : isMetric key := by
  obtain ⟨position, named, _⟩ := shows
  exact isMetric_of_mem (List.mem_of_getElem? named)

/-- What a scrape found stays true while counters grow and complete scrapes stay. -/
theorem Scrape.Sound.grow {before after : MetricsState} {scrape : Scrape}
    (sound : scrape.Sound before) (more : ∀ key, before.counted key ≤ after.counted key)
    (kept : ∀ (other : Nat) old, before.scrapes[other]? = some old →
      old.reads.length = metricKeys.length → after.scrapes[other]? = some old) :
    scrape.Sound after where
  unfailed := sound.unfailed
  begun := by
    intro key metric
    obtain ⟨first, holds, least⟩ := sound.begun key metric
    exact ⟨first, holds, least.trans (more key)⟩
  within := by
    intro key shown shows
    obtain ⟨most, least⟩ := sound.within key shown shows
    exact ⟨most.trans (more key), least⟩
  earlier := by
    intro other member
    obtain ⟨old, found, whole, bounds⟩ := sound.earlier other member
    exact ⟨old, kept other old found whole, whole, bounds⟩

namespace MetricsState

variable {py : Python} {path : String}

theorem counted_append (state : MetricsState) (key : String) (hook : Hook) (new : hook.made = []) :
    ({ state with hooks := state.hooks ++ [hook] } : MetricsState).counted key =
      state.counted key := by
  simp [counted, new, addedTo_nil]

/-- A counter is ahead by what one hook has added more. -/
theorem counted_set {state after : MetricsState} {index : Nat} {hook later : Hook}
    (found : state.hooks[index]? = some hook) (hooks : after.hooks = state.hooks.set index later)
    (key : String) :
    after.counted key = state.counted key + (addedTo key later.made - addedTo key hook.made) := by
  obtain ⟨bound, held⟩ := List.getElem?_eq_some_iff.mp found
  have long : index < (state.hooks.map fun hook => addedTo key hook.made).length := by
    rwa [List.length_map]
  rw [counted, hooks, List.map_set, List.sum_set', dif_pos long, List.getElem_map, held, counted]
  ring

/-- A call of a hook adds its amount to its counter, or is the last call of the hook. -/
theorem count_cases {state after : MetricsState} {index : Nat} {hook : Hook}
    (fired : state.count index hook = some after) :
    (∃ key amount left, ∃ current total : Int64, hook.left = (key, amount) :: left ∧
      counterValue (state.map key) = some current ∧ total.toInt = current.toInt + amount ∧
      after =
        { state with
          map := state.map.insert key (counterText total.toInt)
          hooks := state.hooks.set index
            { hook with made := hook.made ++ [(key, amount)], left } }) ∨
    ∃ key amount left, hook.left = (key, amount) :: left ∧
      (∀ current, counterValue (state.map key) = some current →
        checkedI64 amount = none ∨ checkedI64 (current.toInt + amount) = none) ∧
      after =
        { state with
          hooks := state.hooks.set index
            { hook with left := [], raised := some (key, amount) } } := by
  rw [count] at fired
  cases pending : hook.left with
  | nil => simp [pending] at fired
  | cons next left =>
      obtain ⟨key, amount⟩ := next
      simp only [pending] at fired
      cases checked : checkedI64 amount with
      | none =>
          rw [checked] at fired
          exact .inr ⟨key, amount, left, rfl, fun _ _ => .inl checked, (Option.some.inj fired).symm⟩
      | some amount64 =>
          have same := checkedI64_eq_some.mp checked
          simp only [checked] at fired
          rcases state.map.incr_cases key amount64 with
            ⟨current, total, held, sum, result⟩ | ⟨error, result⟩
          · simp only [result] at fired
            exact .inl ⟨key, amount, left, current, total, rfl, held, same ▸ sum,
              (Option.some.inj fired).symm⟩
          · simp only [result] at fired
            refine .inr ⟨key, amount, left, rfl, fun current held => .inr ?_,
              (Option.some.inj fired).symm⟩
            rw [← same]
            exact SharedMap.incr_fails _ _ held result

/-- A scrape reads what the counter holds. -/
theorem read_cases {state after : MetricsState} {index : Nat} {scrape : Scrape}
    (sound : state.Sound path) (fired : state.read py index scrape = some after) :
    ∃ key, metricKeys[scrape.reads.length]? = some key ∧
      after =
        { state with
          scrapes := state.scrapes.set index
            { scrape with reads := scrape.reads ++ [state.counted key] } } := by
  rw [read] at fired
  split at fired
  · rename_i key _ named
    have metric := isMetric_of_mem (List.mem_of_getElem? named)
    rw [(sound.entries key metric).readInt py] at fired
    exact ⟨key, named, (Option.some.inj fired).symm⟩
  · cases fired

theorem Sound.served {state : MetricsState} (sound : state.Sound path) (request : Served) :
    ({ state with hooks := state.hooks ++ [request.hook path] } : MetricsState).Sound path := by
  have same (key : String) := counted_append state key (request.hook path) rfl
  refine ⟨?_, ?_, ?_, ?_⟩
  · intro key metric
    rw [same]
    exact sound.entries key metric
  · intro hook member
    rcases List.mem_append.mp member with old | new
    · exact sound.hooks hook old
    · obtain rfl := List.mem_singleton.mp new
      exact ⟨List.nil_prefix, fun _ => rfl⟩
  · intro hook member key amount raised
    rcases List.mem_append.mp member with old | new
    · rw [same]
      exact sound.raised hook old key amount raised
    · obtain rfl := List.mem_singleton.mp new
      cases raised
  · intro scrape member
    exact (sound.scrapes scrape member).grow (fun key => (same key).ge) fun _ _ found _ => found

/-- What a hook has to do is what it has not done. -/
theorem Sound.planned {state : MetricsState} (sound : state.Sound path) {index : Nat} {hook : Hook}
    (found : state.hooks[index]? = some hook) {key : String} {amount : Int}
    {left : List (String × Int)} (pending : hook.left = (key, amount) :: left) :
    hook.made ++ (key, amount) :: left = hook.served.calls path := by
  have member := List.mem_of_getElem? found
  rw [← pending]
  apply (sound.hooks hook member).left
  cases raised : hook.raised with
  | none => rfl
  | some call =>
      have none := (sound.raised hook member call.1 call.2 raised).1
      rw [pending] at none
      cases none

theorem Sound.counted_nonneg {state : MetricsState} (sound : state.Sound path) (key : String) :
    0 ≤ state.counted key := by
  apply List.sum_nonneg
  intro amount member
  obtain ⟨hook, among, rfl⟩ := List.mem_map.mp member
  apply addedTo_nonneg key
  intro call made
  exact (Served.call_sound ((sound.hooks hook among).made.subset made)).2

/-- A call raises only where its counter would not fit. -/
theorem Sound.overflows {state : MetricsState} (sound : state.Sound path) {index : Nat}
    {hook : Hook} (found : state.hooks[index]? = some hook) {key : String} {amount : Int}
    {left : List (String × Int)} (pending : hook.left = (key, amount) :: left)
    (fails : ∀ current, counterValue (state.map key) = some current →
      checkedI64 amount = none ∨ checkedI64 (current.toInt + amount) = none) :
    2 ^ 63 ≤ state.counted key + amount := by
  have call : (key, amount) ∈ hook.served.calls path := by
    rw [← sound.planned found pending]
    exact List.mem_append_right _ List.mem_cons_self
  obtain ⟨metric, nonneg⟩ := Served.call_sound call
  have counted := sound.counted_nonneg key
  obtain ⟨current, held, same⟩ := (sound.entries key metric).exists_value
  have exceeds {sum : Int} (nonneg : 0 ≤ sum) (checked : checkedI64 sum = none) : 2 ^ 63 ≤ sum := by
    rw [checkedI64] at checked
    split at checked
    · cases checked
    · omega
  obtain amountOver | sumOver := fails current held
  · have large := exceeds nonneg amountOver
    omega
  · rw [same] at sumOver
    exact exceeds (Int.add_nonneg counted nonneg) sumOver

/-- A call that adds to a counter: the entry has the new number, and every other its own. -/
theorem Sound.counted {state : MetricsState} (sound : state.Sound path) {index : Nat} {hook : Hook}
    (found : state.hooks[index]? = some hook) {key : String} {amount : Int}
    {left : List (String × Int)} (pending : hook.left = (key, amount) :: left)
    {current total : Int64} (held : counterValue (state.map key) = some current)
    (sum : total.toInt = current.toInt + amount) {after : MetricsState}
    (map : after.map = state.map.insert key (counterText total.toInt))
    (hooks : after.hooks =
      state.hooks.set index { hook with made := hook.made ++ [(key, amount)], left })
    (scrapes : after.scrapes = state.scrapes) : after.Sound path := by
  have planned := sound.planned found pending
  have call : (key, amount) ∈ hook.served.calls path := by
    rw [← planned]
    exact List.mem_append_right _ List.mem_cons_self
  obtain ⟨metric, nonneg⟩ := Served.call_sound call
  have ahead (other : String) : after.counted other =
      state.counted other + if key = other then amount else 0 := by
    rw [counted_set found hooks, addedTo_append, addedTo_cons, addedTo_nil]
    ring
  have grows (other : String) : state.counted other ≤ after.counted other := by
    rw [ahead]
    split <;> omega
  refine ⟨?_, ?_, ?_, ?_⟩
  · intro other otherMetric
    rw [ahead, map]
    by_cases same : key = other
    · obtain rfl := same
      have now := (sound.entries key otherMetric).counterValue held
      rw [if_pos rfl, ← now, ← sum, SharedMap.insert, Function.update_self]
      exact .text total rfl
    · rw [if_neg same, Int.add_zero, SharedMap.insert, Function.update_of_ne (Ne.symm same)]
      exact sound.entries other otherMetric
  · intro other member
    rw [hooks] at member
    rcases List.mem_or_eq_of_mem_set member with old | rfl
    · exact sound.hooks other old
    · have whole : hook.made ++ [(key, amount)] ++ left = hook.served.calls path := by
        rw [List.append_assoc, List.singleton_append, planned]
      exact ⟨⟨left, whole⟩, fun _ => whole⟩
  · intro other member name adds raised
    rw [hooks] at member
    rcases List.mem_or_eq_of_mem_set member with old | rfl
    · obtain ⟨none, exceeds⟩ := sound.raised other old name adds raised
      exact ⟨none, exceeds.trans (Int.add_le_add_right (grows name) adds)⟩
    · have none := (sound.raised hook (List.mem_of_getElem? found) name adds raised).1
      rw [pending] at none
      cases none
  · intro scrape member
    rw [scrapes] at member
    refine (sound.scrapes scrape member).grow grows ?_
    intro other old kept _
    rw [scrapes, kept]

/-- A hook whose call raised is over. -/
theorem Sound.stopped {state : MetricsState} (sound : state.Sound path) {index : Nat} {hook : Hook}
    (found : state.hooks[index]? = some hook) {key : String} {amount : Int}
    {left : List (String × Int)} (pending : hook.left = (key, amount) :: left)
    (fails : ∀ current, counterValue (state.map key) = some current →
      checkedI64 amount = none ∨ checkedI64 (current.toInt + amount) = none) :
    ({ state with
        hooks := state.hooks.set index { hook with left := [], raised := some (key, amount) } } :
      MetricsState).Sound path := by
  have same (other : String) :
      ({ state with
          hooks := state.hooks.set index { hook with left := [], raised := some (key, amount) } } :
        MetricsState).counted other = state.counted other := by
    rw [counted_set found rfl, sub_self, add_zero]
  refine ⟨?_, ?_, ?_, ?_⟩
  · intro key metric
    rw [same]
    exact sound.entries key metric
  · intro other member
    rcases List.mem_or_eq_of_mem_set member with old | rfl
    · exact sound.hooks other old
    · exact ⟨(sound.hooks hook (List.mem_of_getElem? found)).made, nofun⟩
  · intro other member name adds raised
    rw [same]
    rcases List.mem_or_eq_of_mem_set member with old | rfl
    · exact sound.raised other old name adds raised
    · obtain ⟨rfl, rfl⟩ := Prod.mk.inj (Option.some.inj raised)
      exact ⟨rfl, sound.overflows found pending fails⟩
  · intro scrape member
    exact (sound.scrapes scrape member).grow (fun key => (same key).ge) fun _ _ kept _ => kept

theorem Sound.scrape {state : MetricsState} (sound : state.Sound path) :
    ({ state with scrapes := state.scrapes ++ [state.newScrape] } : MetricsState).Sound path := by
  refine ⟨sound.entries, sound.hooks, sound.raised, ?_⟩
  have kept (other : Nat) (old : Scrape) (found : state.scrapes[other]? = some old) :
      (state.scrapes ++ [state.newScrape])[other]? = some old := by
    rw [List.getElem?_append_left (List.getElem?_eq_some_iff.mp found).1, found]
  intro scrape member
  rcases List.mem_append.mp member with old | new
  · exact (sound.scrapes scrape old).grow (fun _ => le_rfl) fun other old found _ =>
      kept other old found
  · obtain rfl := List.mem_singleton.mp new
    refine ⟨rfl, ?_, ?_, ?_⟩
    · intro key metric
      exact ⟨state.counted key, sound.entries key metric, le_rfl⟩
    · rintro key shown ⟨position, _, read⟩
      cases read
    · intro other (member : other ∈ state.ended)
      rw [ended, List.mem_filter, decide_eq_true_eq] at member
      obtain ⟨before, found, whole⟩ := Option.map_eq_some_iff.mp member.2
      refine ⟨before, kept other before found, whole, ?_⟩
      intro key shown shows
      have most := ((sound.scrapes before (List.mem_of_getElem? found)).within key shown shows).1
      exact ⟨state.counted key, sound.entries key shows.isMetric, most⟩

theorem Sound.read {state : MetricsState} (sound : state.Sound path) {index : Nat} {scrape : Scrape}
    (found : state.scrapes[index]? = some scrape) {key : String}
    (named : metricKeys[scrape.reads.length]? = some key) :
    ({ state with
        scrapes := state.scrapes.set index
          { scrape with reads := scrape.reads ++ [state.counted key] } } :
      MetricsState).Sound path := by
  refine ⟨sound.entries, sound.hooks, sound.raised, ?_⟩
  have scrapeSound := sound.scrapes scrape (List.mem_of_getElem? found)
  -- a scrape that reads has not ended, so the ended ones stay
  have kept (other : Nat) (old : Scrape) (held : state.scrapes[other]? = some old)
      (whole : old.reads.length = metricKeys.length) :
      (state.scrapes.set index
        { scrape with reads := scrape.reads ++ [state.counted key] })[other]? = some old := by
    by_cases same : index = other
    · obtain rfl := same
      obtain rfl := Option.some.inj (found.symm.trans held)
      rw [whole, List.getElem?_eq_none le_rfl] at named
      cases named
    · rw [List.getElem?_set_ne same, held]
  intro other member
  rcases List.mem_or_eq_of_mem_set member with old | rfl
  · exact (sound.scrapes other old).grow (fun _ => le_rfl) kept
  · refine ⟨scrapeSound.unfailed, scrapeSound.begun, ?_, ?_⟩
    · rintro other shown ⟨position, namedAt, read⟩
      rcases Nat.lt_trichotomy position scrape.reads.length with before | rfl | after
      · rw [List.getElem?_append_left before] at read
        exact scrapeSound.within other shown ⟨position, namedAt, read⟩
      · obtain rfl := Option.some.inj (named.symm.trans namedAt)
        rw [List.getElem?_concat_length] at read
        obtain rfl := Option.some.inj read
        have metric := isMetric_of_mem (List.mem_of_getElem? named)
        exact ⟨le_rfl, scrapeSound.begun key metric⟩
      · have short : (scrape.reads ++ [state.counted key]).length ≤ position := by
          rw [List.length_append, List.length_singleton]
          exact after
        rw [List.getElem?_eq_none short] at read
        cases read
    · intro other member
      obtain ⟨before, held, whole, bounds⟩ := scrapeSound.earlier other member
      exact ⟨before, kept other before held whole, whole, bounds⟩

theorem Sound.step {state after : MetricsState} {event : MetricsEvent} (sound : state.Sound path)
    (fired : state.step py path event = some after) : after.Sound path := by
  cases event with
  | served request =>
      obtain rfl := Option.some.inj fired
      exact sound.served request
  | count index =>
      obtain ⟨hook, found, fired⟩ := Option.bind_eq_some_iff.mp fired
      rcases count_cases fired with
        ⟨key, amount, left, current, total, pending, held, sum, rfl⟩ |
          ⟨key, amount, left, pending, fails, rfl⟩
      · exact sound.counted found pending held sum rfl rfl rfl
      · exact sound.stopped found pending fails
  | scrape =>
      obtain rfl := Option.some.inj fired
      exact sound.scrape
  | read index =>
      obtain ⟨scrape, found, fired⟩ := Option.bind_eq_some_iff.mp fired
      obtain ⟨key, named, rfl⟩ := read_cases sound fired
      exact sound.read found named
  | call call =>
      rw [MetricsState.step] at fired
      split at fired
      · cases fired
      · rename_i own
        obtain rfl := Option.some.inj fired
        have kept (scrape : Scrape) (member : scrape ∈ state.scrapes) :
            scrape.Sound { state with map := (call.perform state.map).2 } :=
          (sound.scrapes scrape member).grow (fun _ => le_rfl) fun _ _ found _ => found
        refine ⟨?_, sound.hooks, sound.raised, kept⟩
        intro key metric
        have apart : call.key ≠ key := by
          rintro rfl
          exact own metric
        show Holds (state.counted key) ((call.perform state.map).2 key)
        rw [call.perform_of_ne _ apart]
        exact sound.entries key metric

end MetricsState

/-! ## What the counters say -/

/-- The requests that are counted. -/
def MetricsState.requests (path : String) (state : MetricsState) : List Served :=
  (state.hooks.map Hook.served).filter fun served => served.path ≠ path

/-- The counters are those of some requests. -/
structure Tallies (counted : String → Int) (requests : List Served) : Prop where
  total : counted totalKey = requests.length
  classes : ∀ name ∈ STATUS_CLASSES, counted (classKey name) =
    requests.countP fun served => statusClass served.status = name
  methods : ∀ name ∈ TRACKED_METHODS, counted (methodKey name) =
    requests.countP fun served => served.method.toUpper = name
  sum : counted sumKey = (requests.filterMap Served.elapsed).sum
  count : counted countKey = (requests.filterMap Served.elapsed).length

structure MetricsSound (py : Python) (path : String) (state : MetricsState) : Prop where
  /-- A counter reads as all that was added to it. -/
  exact : ∀ key, isMetric key → readInt py (state.map key) = .ok (state.counted key)
  /-- No scrape finds anything else. -/
  unfailed : ∀ scrape ∈ state.scrapes, scrape.failed = none
  /-- What a scrape shows is what the counter held at some time since the scrape began. -/
  within : ∀ scrape ∈ state.scrapes, ∀ key shown, scrape.Shows key shown →
    ∃ first, readInt py (scrape.began key) = .ok first ∧ first ≤ shown ∧ shown ≤ state.counted key
  /-- A scrape shows no less than one that had ended when it began. -/
  later : ∀ scrape ∈ state.scrapes, ∀ other ∈ scrape.earlier, ∃ before,
    state.scrapes[other]? = some before ∧
      ∀ key, key ∈ metricKeys → ∃ old, before.Shows key old ∧
        ∀ new, scrape.Shows key new → old ≤ new
  /-- A request is in the total before it is in its class or under its method. -/
  classes : (STATUS_CLASSES.map fun name => state.counted (classKey name)).sum ≤
    state.counted totalKey
  methods : (TRACKED_METHODS.map fun name => state.counted (methodKey name)).sum ≤
    state.counted totalKey
  /-- A hook goes on while it has calls to make, unless its counter would not fit. -/
  goesOn : ∀ (index : Nat) (hook : Hook) (key : String) (amount : Int)
      (left : List (String × Int)),
    state.hooks[index]? = some hook → hook.left = (key, amount) :: left →
      ∃ after, state.step py path (.count index) = some after ∧
        (state.counted key + amount < 2 ^ 63 → after.hooks[index]? =
          some { hook with made := hook.made ++ [(key, amount)], left })
  /-- A call raised only where its counter would not have fit. -/
  raised : ∀ hook ∈ state.hooks, ∀ key amount, hook.raised = some (key, amount) →
    2 ^ 63 ≤ state.counted key + amount
  /-- Once every hook is done, and none by a call that raised, every request is counted once. -/
  settled : (∀ hook ∈ state.hooks, hook.left = [] ∧ hook.raised = none) →
    Tallies state.counted (state.requests path)

section Sums

variable {path : String}

/-- Of some different names, at most one is a given one. -/
theorem sum_ite_le (given : String) {names : List String} (different : names.Nodup) :
    (names.map fun name => if given = name then (1 : Int) else 0).sum ≤ 1 := by
  induction names with
  | nil => simp
  | cons name names induction =>
      obtain ⟨new, different⟩ := List.nodup_cons.mp different
      rw [List.map_cons, List.sum_cons]
      by_cases same : given = name
      · have none : (names.map fun name => if given = name then (1 : Int) else 0).sum = 0 := by
          apply List.sum_eq_zero
          intro amount member
          obtain ⟨other, inNames, rfl⟩ := List.mem_map.mp member
          exact if_neg fun also => new (same.symm.trans also ▸ inNames)
        rw [if_pos same, none]
        decide
      · rw [if_neg same, Int.zero_add]
        exact induction different

/-- Counters of which a request is in at most one, and only after it is in the total. -/
theorem sum_le_total {keyOf : String → String} {names : List String} {given : Served → String}
    (different : names.Nodup)
    (added : ∀ served : Served, ∀ name ∈ names, addedTo (keyOf name) (served.calls path) =
      if served.path = path then 0 else if given served = name then 1 else 0)
    {hook : Hook} (sound : hook.Sound path) :
    (names.map fun name => addedTo (keyOf name) hook.made).sum ≤ addedTo totalKey hook.made := by
  have amounts (call : String × Int) (member : call ∈ hook.served.calls path) : 0 ≤ call.2 :=
    (Served.call_sound member).2
  cases made : hook.made with
  | nil => simp [addedTo_nil]
  | cons first rest =>
      have initial := sound.made
      rw [made] at initial
      have least : (names.map fun name => addedTo (keyOf name) (first :: rest)).sum ≤
          (names.map fun name => addedTo (keyOf name) (hook.served.calls path)).sum :=
        List.sum_le_sum fun name _ => addedTo_le_of_prefix initial amounts
      by_cases scraped : hook.served.path = path
      · have none : hook.served.calls path = [] := if_pos scraped
        rw [none] at initial
        cases List.prefix_nil.mp initial
      · have bound : (names.map fun name => addedTo (keyOf name) (hook.served.calls path)).sum ≤
            1 := by
          have same := List.map_congr_left fun name member => added hook.served name member
          rw [same]
          simp only [if_neg scraped]
          exact sum_ite_le (given hook.served) different
        have begins : first = (totalKey, 1) := by
          have nonempty :
              hook.served.calls path = (totalKey, 1) :: (hook.served.calls path).tail := by
            rw [Served.calls, if_neg scraped]
            rfl
          rw [nonempty] at initial
          exact (List.cons_prefix_cons.mp initial).1
        have whole : 0 ≤ addedTo totalKey rest := by
          apply addedTo_nonneg totalKey
          intro call member
          exact amounts call (initial.subset (List.mem_cons_of_mem _ member))
        have counts : addedTo totalKey (first :: rest) = 1 + addedTo totalKey rest := by
          rw [begins, addedTo_cons, if_pos rfl]
        omega

theorem counted_sum_le {state : MetricsState} {keys : List String} {key : String}
    (each : ∀ hook ∈ state.hooks,
      (keys.map fun other => addedTo other hook.made).sum ≤ addedTo key hook.made) :
    (keys.map state.counted).sum ≤ state.counted key := by
  have swap : (keys.map state.counted).sum =
      (state.hooks.map fun hook => (keys.map fun other => addedTo other hook.made).sum).sum := by
    unfold MetricsState.counted
    induction state.hooks with
    | nil => simp
    | cons hook hooks induction =>
        simp only [List.map_cons, List.sum_cons, List.sum_map_add, induction]
  rw [swap]
  exact List.sum_le_sum each

/-- What complete hooks add to a counter, request by request. -/
theorem counted_eq {state : MetricsState} {key : String} {adds : Served → Int}
    (whole : ∀ hook ∈ state.hooks, hook.made = hook.served.calls path)
    (added : ∀ served : Served,
      addedTo key (served.calls path) = if served.path = path then 0 else adds served) :
    state.counted key = ((state.requests path).map adds).sum := by
  rw [MetricsState.counted, MetricsState.requests]
  revert whole
  induction state.hooks with
  | nil => simp
  | cons hook hooks induction =>
      intro whole
      have rest := induction fun other member => whole other (List.mem_cons_of_mem _ member)
      have own := added hook.served
      rw [← whole hook List.mem_cons_self] at own
      rw [List.map_cons, List.sum_cons, List.map_cons, List.filter_cons, rest, own]
      by_cases scraped : hook.served.path = path
      · simp [scraped]
      · simp [scraped]

theorem sum_ite_eq_countP (condition : Served → Prop) [DecidablePred condition]
    (requests : List Served) :
    (requests.map fun served => if condition served then (1 : Int) else 0).sum =
      requests.countP fun served => condition served := by
  induction requests with
  | nil => simp
  | cons request requests induction =>
      rw [List.map_cons, List.sum_cons, induction, List.countP_cons]
      by_cases holds : condition request
      · simp [holds]
        ring
      · simp [holds]

theorem tallies {state : MetricsState}
    (whole : ∀ hook ∈ state.hooks, hook.made = hook.served.calls path) :
    Tallies state.counted (state.requests path) where
  total := by
    rw [counted_eq whole (addedTo_total path)]
    simp
  classes := by
    intro name _
    rw [counted_eq whole fun served => addedTo_class path served name]
    exact sum_ite_eq_countP _ _
  methods := by
    intro name tracked
    rw [counted_eq whole fun served => addedTo_method path served tracked]
    exact sum_ite_eq_countP _ _
  sum := by
    rw [counted_eq whole (addedTo_sum path)]
    induction state.requests path with
    | nil => rfl
    | cons request requests induction =>
        rw [List.map_cons, List.sum_cons, induction]
        cases timed : request.elapsed <;> simp [timed]
  count := by
    rw [counted_eq whole (addedTo_count path)]
    induction state.requests path with
    | nil => rfl
    | cons request requests induction =>
        rw [List.map_cons, List.sum_cons, induction]
        cases timed : request.elapsed <;> simp [timed]
        ring

end Sums

theorem metrics_sound (py : Python) (path : String) {state : MetricsState}
    (reachable : (metricsMachine py path).Reachable state) : state.Sound path := by
  refine Machine.Reachable.invariant ?_ ?_ reachable
  case refine_1 =>
    refine ⟨fun key _ => .absent rfl, ?_, ?_, ?_⟩
    · intro hook member
      cases member
    · intro hook member
      cases member
    · intro scrape member
      cases member
  case refine_2 => exact fun sound fired => sound.step fired

/-- Interpreters count requests, scrapes read the counters and the app uses its other keys, in any
order: no count is lost or made twice, no scrape fails, and scrapes show counters that only grow. -/
theorem metrics_exact (py : Python) (path : String) (state : MetricsState)
    (reachable : (metricsMachine py path).Reachable state) : MetricsSound py path state := by
  have sound := metrics_sound py path reachable
  refine ⟨?_, ?_, ?_, ?_, ?_, ?_, ?_, ?_, ?_⟩
  · intro key metric
    exact (sound.entries key metric).readInt py
  · intro scrape member
    exact (sound.scrapes scrape member).unfailed
  · intro scrape member key shown shows
    obtain ⟨most, first, holds, least⟩ := (sound.scrapes scrape member).within key shown shows
    exact ⟨first, holds.readInt py, least, most⟩
  · intro scrape member other ended
    have scrapeSound := sound.scrapes scrape member
    obtain ⟨before, found, whole, bounds⟩ := scrapeSound.earlier other ended
    refine ⟨before, found, ?_⟩
    intro key listed
    obtain ⟨position, bound, named⟩ := List.getElem_of_mem listed
    have long : position < before.reads.length := by
      rw [whole]
      exact bound
    have shows : before.Shows key before.reads[position] :=
      ⟨position, List.getElem?_eq_some_iff.mpr ⟨bound, named⟩, List.getElem?_eq_getElem long⟩
    refine ⟨before.reads[position], shows, ?_⟩
    intro new newShows
    obtain ⟨first, holds, least⟩ := bounds key _ shows
    obtain ⟨_, start, begun, above⟩ := scrapeSound.within key new newShows
    have same := holds.unique begun
    omega
  · have each : ((STATUS_CLASSES.map classKey).map state.counted).sum ≤ state.counted totalKey := by
      apply counted_sum_le
      intro hook member
      rw [List.map_map]
      exact sum_le_total (by decide) (fun served name _ => addedTo_class path served name)
        (sound.hooks hook member)
    rwa [List.map_map] at each
  · have each :
        ((TRACKED_METHODS.map methodKey).map state.counted).sum ≤ state.counted totalKey := by
      apply counted_sum_le
      intro hook member
      rw [List.map_map]
      exact sum_le_total (by decide) (fun served _ tracked => addedTo_method path served tracked)
        (sound.hooks hook member)
    rwa [List.map_map] at each
  · intro index hook key amount left found pending
    obtain ⟨after, fired⟩ : ∃ after, state.count index hook = some after := by
      simp only [MetricsState.count, pending]
      cases checkedI64 amount with
      | none => exact ⟨_, rfl⟩
      | some amount64 =>
          simp only
          generalize state.map.incr key amount64 = added
          obtain ⟨error | total, map⟩ := added
          · exact ⟨_, rfl⟩
          · exact ⟨_, rfl⟩
    refine ⟨after, ?_, fun fits => ?_⟩
    · rw [MetricsState.step, found, Option.bind_some, fired]
    · have bound := (List.getElem?_eq_some_iff.mp found).1
      rcases MetricsState.count_cases fired with
        ⟨key', amount', left', current, total, same, held, sum, rfl⟩ |
          ⟨key', amount', left', same, fails, rfl⟩
      · obtain ⟨⟨rfl, rfl⟩, rfl⟩ : (key = key' ∧ amount = amount') ∧ left = left' := by
          simpa using pending.symm.trans same
        exact List.getElem?_set_self bound
      · obtain ⟨⟨rfl, rfl⟩, rfl⟩ : (key = key' ∧ amount = amount') ∧ left = left' := by
          simpa using pending.symm.trans same
        have exceeds := sound.overflows found pending fails
        omega
  · intro hook member key amount raised
    exact (sound.raised hook member key amount raised).2
  · intro done
    apply tallies
    intro hook member
    obtain ⟨none, unraised⟩ := done hook member
    have whole := (sound.hooks hook member).left unraised
    rwa [none, List.append_nil] at whole

/-- Two requests at once, and a scrape between their first calls and their last. -/
def twoRequests : List MetricsEvent :=
  [.served ⟨"/", 200, "GET", some 1500⟩, .served ⟨"/missing", 404, "POST", none⟩, .count 0,
    .count 1, .scrape, .read 0, .count 1, .count 0, .read 0]

theorem metrics_exact_twoRequests :
    ∃ state, (metricsMachine noDigits "/metrics").run twoRequests = some state ∧
      MetricsSound noDigits "/metrics" state :=
  ⟨_, rfl, metrics_exact _ _ _ ⟨twoRequests, rfl⟩⟩

end Pyronova.Metrics
