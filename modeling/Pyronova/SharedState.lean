import Mathlib.Tactic
import Pyronova.DecimalDigits
import Pyronova.Response

/-!
# The shared state

A map from keys to bytes that every interpreter of one app sees.  Each call is one operation on one
entry, under that entry's lock, so the calls of all interpreters happen in one order.  A counter is
an entry with the decimal text of an `i64`; what it holds is what it started from and the amounts of
the calls that succeeded.
-/

namespace Pyronova

open DecimalDigits

/-! ## Decimal text of an `i64` -/

/-- The digits after the sign; a sign alone is no number. -/
def parseDigits (digits : List Char) : Option Nat :=
  if digits ≠ [] ∧ digits.all Char.isDigit then some (value digits) else none

/-- An integer that an `i64` holds. -/
def checkedI64 (integer : Int) : Option Int64 :=
  if -2 ^ 63 ≤ integer ∧ integer < 2 ^ 63 then some (Int64.ofInt integer) else none

/-- `str::parse::<i64>`: an optional sign and decimal digits. -/
def parseI64 (text : String) : Option Int64 :=
  match text.toList with
  | '-' :: digits => (parseDigits digits).bind fun number => checkedI64 (-number)
  | '+' :: digits => (parseDigits digits).bind fun number => checkedI64 number
  | digits => (parseDigits digits).bind fun number => checkedI64 number

theorem checkedI64_eq_some {integer : Int} {result : Int64} :
    checkedI64 integer = some result ↔ result.toInt = integer := by
  rw [checkedI64]
  constructor
  · intro fits
    split at fits
    · rename_i bounds
      obtain rfl := Option.some.inj fits
      exact Int64.toInt_ofInt_of_le bounds.1 bounds.2
    · cases fits
  · rintro rfl
    rw [if_pos ⟨result.le_toInt, result.toInt_lt⟩, Int64.ofInt_toInt]

theorem parseDigits_toDigits (number : Nat) :
    parseDigits (Nat.toDigits 10 number) = some number := by
  have all : (Nat.toDigits 10 number).all Char.isDigit := by
    rw [List.all_eq_true]
    exact allDigits_toDigits number
  rw [parseDigits, if_pos ⟨Nat.toDigits_ne_nil, all⟩, value_toDigits]

theorem parseI64_of_digits {text : String} {number : Nat}
    (digits : text.toList = Nat.toDigits 10 number) : parseI64 text = checkedI64 number := by
  have isDigit (digit : Char) (member : digit ∈ text.toList) : digit.isDigit :=
    allDigits_toDigits number digit (digits ▸ member)
  rw [parseI64.eq_def]
  split
  · rename_i rest signed
    exact absurd (isDigit '-' (by rw [signed]; exact List.mem_cons_self)) (by decide)
  · rename_i rest signed
    exact absurd (isDigit '+' (by rw [signed]; exact List.mem_cons_self)) (by decide)
  · rw [digits, parseDigits_toDigits, Option.bind_some]

theorem parseI64_of_minus {text : String} {number : Nat}
    (digits : text.toList = '-' :: Nat.toDigits 10 number) :
    parseI64 text = checkedI64 (-number) := by
  rw [parseI64.eq_def, digits]
  simp only [parseDigits_toDigits, Option.bind_some]

/-- What `to_string` writes is parsed as the number it was written for. -/
theorem parseI64_toString (number : Int64) : parseI64 (toString number.toInt) = some number := by
  have fits : checkedI64 number.toInt = some number := checkedI64_eq_some.mpr rfl
  rw [← fits]
  generalize number.toInt = integer
  rw [Int.toString_eq_repr, Int.repr_eq_if]
  by_cases nonneg : 0 ≤ integer
  · rw [if_pos nonneg, parseI64_of_digits Nat.toList_repr, Int.toNat_of_nonneg nonneg]
  · have digits : ("-" ++ (-integer).toNat.repr).toList =
        '-' :: Nat.toDigits 10 (-integer).toNat := by
      rw [String.toList_append, Nat.toList_repr]
      rfl
    have opposite : -(((-integer).toNat : Nat) : Int) = integer := by omega
    rw [if_neg nonneg, parseI64_of_minus digits, opposite]

/-! ## The calls -/

abbrev SharedMap := String → Option Bytes

inductive StateCallError
  | notUtf8 (key : String)
  | notInteger (key raw : String)
  | overflow (key : String)
  | minAmount
  deriving DecidableEq, Repr

/-- The text of an error, given how a string is quoted. -/
def StateCallError.text (quoted : String → String) : StateCallError → String
  | .notUtf8 key => "incr(" ++ quoted key ++ "): existing value is not valid UTF-8"
  | .notInteger key raw =>
      "incr(" ++ quoted key ++ "): existing value " ++ quoted raw ++ " is not an integer"
  | .overflow key => "incr(" ++ quoted key ++ "): i64 overflow"
  | .minAmount => "decr: amount i64::MIN cannot be negated"

namespace SharedMap

variable (map : SharedMap) (key : String)

def insert (value : Bytes) : SharedMap := Function.update map key (some value)

def set (value : String) : SharedMap := map.insert key (utf8Encode value)

def setBytes (value : Bytes) : SharedMap := map.insert key value

/-- `delete`, with whether the key existed. -/
def delete : Bool × SharedMap := ((map key).isSome, Function.update map key none)

/-- `entry(key).or_insert_with`: the value of the entry, and the map with the entry in it. -/
def entryOrInsert (default : Bytes) : Bytes × SharedMap :=
  match map key with
  | some value => (value, map)
  | none => (default, map.insert key default)

/-- `incr`: the entry is in the map before any check can fail. -/
def incr (amount : Int64) : Except StateCallError Int64 × SharedMap :=
  let (value, map) := map.entryOrInsert key (utf8Encode "0")
  match utf8Decode value with
  | none => (.error (.notUtf8 key), map)
  | some raw =>
      match parseI64 raw with
      | none => (.error (.notInteger key raw), map)
      | some current =>
          match checkedI64 (current.toInt + amount.toInt) with
          | none => (.error (.overflow key), map)
          | some new => (.ok new, map.insert key (utf8Encode (toString new.toInt)))

def decr (amount : Int64) : Except StateCallError Int64 × SharedMap :=
  match checkedI64 (-amount.toInt) with
  | none => (.error .minAmount, map)
  | some negated => map.incr key negated

end SharedMap

/-- A call of some interpreter. -/
inductive StateCall
  | set (key value : String)
  | setBytes (key : String) (value : Bytes)
  | delete (key : String)
  | incr (key : String) (amount : Int64)
  | decr (key : String) (amount : Int64)

inductive StateResult
  | done
  | deleted (existed : Bool)
  | counted (total : Int64)
  | raised (error : StateCallError)
  deriving DecidableEq, Repr

namespace StateCall

def key : StateCall → String
  | set key _ | setBytes key _ | delete key | incr key _ | decr key _ => key

/-- What a successful call adds to its counter; no other call counts. -/
def amount : StateCall → Option Int
  | incr _ amount => some amount.toInt
  | decr _ amount => some (-amount.toInt)
  | _ => none

def counted : Except StateCallError Int64 × SharedMap → StateResult × SharedMap
  | (.ok total, map) => (.counted total, map)
  | (.error error, map) => (.raised error, map)

/-- One call: its result, and the map after it. -/
def perform (map : SharedMap) : StateCall → StateResult × SharedMap
  | set key value => (.done, map.set key value)
  | setBytes key value => (.done, map.setBytes key value)
  | delete key =>
      let (existed, map) := map.delete key
      (.deleted existed, map)
  | incr key amount => counted (map.incr key amount)
  | decr key amount => counted (map.decr key amount)

/-- The map after calls in the order they took their entries. -/
def performAll (map : SharedMap) (calls : List StateCall) : SharedMap :=
  calls.foldl (fun map call => (call.perform map).2) map

/-- What one call added to the counter at `key`. -/
def added (key : String) (map : SharedMap) (call : StateCall) : List Int :=
  match (call.perform map).1, call.amount with
  | .counted _, some amount => if call.key = key then [amount] else []
  | _, _ => []

/-- The amounts of the calls on `key` that succeeded, in order. -/
def succeeded (key : String) (map : SharedMap) : List StateCall → List Int
  | [] => []
  | call :: calls => call.added key map ++ succeeded key (call.perform map).2 calls

end StateCall

/-! ## One call -/

/-- The number of a counter; an absent one counts from zero. -/
def counterValue : Option Bytes → Option Int64
  | none => some 0
  | some value => (utf8Decode value).bind parseI64

/-- The text of a counter. -/
def counterText (total : Int) : Bytes := utf8Encode (toString total)

@[simp] theorem counterValue_counterText (total : Int64) :
    counterValue (some (counterText total.toInt)) = some total := by
  rw [counterValue, counterText, utf8Decode_encode, Option.bind_some, parseI64_toString]

namespace SharedMap

variable (map : SharedMap) (key : String)

/-- An increment of a counter raises only by its sum. -/
theorem incr_fails {amount current : Int64} {error : StateCallError} {later : SharedMap}
    (held : counterValue (map key) = some current)
    (fired : map.incr key amount = (.error error, later)) :
    checkedI64 (current.toInt + amount.toInt) = none := by
  have decoded : utf8Decode (utf8Encode "0") = some "0" := utf8Decode_encode "0"
  have parsed : parseI64 "0" = some 0 := by
    have digits : "0".toList = Nat.toDigits 10 0 := rfl
    rw [parseI64_of_digits digits]
    exact checkedI64_eq_some.mpr Int64.toInt_zero
  cases sum : checkedI64 (current.toInt + amount.toInt) with
  | none => rfl
  | some total =>
      cases entry : map key with
      | none =>
          rw [entry] at held
          obtain rfl := Option.some.inj held
          simp only [incr, entryOrInsert, entry, decoded, parsed, sum] at fired
          cases (Prod.mk.inj fired).1
      | some value =>
          rw [entry] at held
          obtain ⟨raw, read, found⟩ := Option.bind_eq_some_iff.mp held
          simp only [incr, entryOrInsert, entry, read, found, sum] at fired
          cases (Prod.mk.inj fired).1

/-- An increment adds to the counter and stores the sum, or raises and leaves the map alone. -/
theorem incr_cases (amount : Int64) :
    (∃ current total, counterValue (map key) = some current ∧
      total.toInt = current.toInt + amount.toInt ∧
      map.incr key amount = (.ok total, map.insert key (counterText total.toInt))) ∨
      ∃ error, map.incr key amount = (.error error, map) := by
  cases held : map key with
  | none =>
      -- a counter made on demand holds `0`, and zero plus an amount does not overflow
      have decoded : utf8Decode (utf8Encode "0") = some "0" := utf8Decode_encode "0"
      have parsed : parseI64 "0" = some 0 := by
        have digits : "0".toList = Nat.toDigits 10 0 := rfl
        rw [parseI64_of_digits digits]
        exact checkedI64_eq_some.mpr Int64.toInt_zero
      have sum : checkedI64 ((0 : Int64).toInt + amount.toInt) = some amount :=
        checkedI64_eq_some.mpr (by rw [Int64.toInt_zero, Int.zero_add])
      refine .inl ⟨0, amount, rfl, by rw [Int64.toInt_zero, Int.zero_add], ?_⟩
      simp only [incr, entryOrInsert, held, decoded, parsed, sum]
      rw [insert, insert, Function.update_idem]
      rfl
  | some value =>
      simp only [incr, entryOrInsert, held]
      cases decoded : utf8Decode value with
      | none => exact .inr ⟨.notUtf8 key, rfl⟩
      | some raw =>
          cases parsed : parseI64 raw with
          | none => exact .inr ⟨.notInteger key raw, by simp only [parsed]⟩
          | some current =>
              cases sum : checkedI64 (current.toInt + amount.toInt) with
              | none => exact .inr ⟨.overflow key, by simp only [parsed, sum]⟩
              | some total =>
                  refine .inl ⟨current, total, ?_, checkedI64_eq_some.mp sum, ?_⟩
                  · rw [counterValue, decoded, Option.bind_some, parsed]
                  · simp only [parsed, sum, counterText]

theorem decr_cases (amount : Int64) :
    (∃ current total, counterValue (map key) = some current ∧
      total.toInt = current.toInt + -amount.toInt ∧
      map.decr key amount = (.ok total, map.insert key (counterText total.toInt))) ∨
      ∃ error, map.decr key amount = (.error error, map) := by
  rw [decr]
  cases negated : checkedI64 (-amount.toInt) with
  | none => exact .inr ⟨.minAmount, rfl⟩
  | some opposite =>
      rw [← checkedI64_eq_some.mp negated]
      exact map.incr_cases key opposite

end SharedMap

namespace StateCall

variable (map : SharedMap) (call : StateCall)

/-- A counting call adds its amount to its counter, or raises and leaves the map alone. -/
theorem perform_count {amount : Int} (counts : call.amount = some amount) :
    (∃ current total, counterValue (map call.key) = some current ∧
      total.toInt = current.toInt + amount ∧
      call.perform map = (.counted total, map.insert call.key (counterText total.toInt))) ∨
      ∃ error, call.perform map = (.raised error, map) := by
  cases call with
  | set | setBytes | delete => cases counts
  | incr key given =>
      obtain rfl := Option.some.inj counts
      rcases map.incr_cases key given with ⟨current, total, held, sum, result⟩ | ⟨error, result⟩
      · exact .inl ⟨current, total, held, sum, by rw [perform, result]; rfl⟩
      · exact .inr ⟨error, by rw [perform, result]; rfl⟩
  | decr key given =>
      obtain rfl := Option.some.inj counts
      rcases map.decr_cases key given with ⟨current, total, held, sum, result⟩ | ⟨error, result⟩
      · exact .inl ⟨current, total, held, sum, by rw [perform, result]; rfl⟩
      · exact .inr ⟨error, by rw [perform, result]; rfl⟩

theorem perform_of_raised {error : StateCallError} (raised : (call.perform map).1 = .raised error) :
    (call.perform map).2 = map := by
  cases counts : call.amount with
  | none => cases call <;> simp [amount, perform] at counts raised
  | some amount =>
      rcases perform_count map call counts with ⟨_, _, _, _, result⟩ | ⟨_, result⟩
      · rw [result] at raised
        cases raised
      · rw [result]

/-- A call leaves every other entry as it was. -/
theorem perform_of_ne {key : String} (other : call.key ≠ key) :
    (call.perform map).2 key = map key := by
  have apart : key ≠ call.key := other.symm
  cases counts : call.amount with
  | none =>
      cases call with
      | set | setBytes | delete => exact Function.update_of_ne apart _ _
      | incr | decr => cases counts
  | some amount =>
      rcases perform_count map call counts with ⟨_, _, _, _, result⟩ | ⟨_, result⟩
      · rw [result]
        exact Function.update_of_ne apart _ _
      · rw [result]

theorem performAll_concat (calls : List StateCall) :
    performAll map (calls ++ [call]) = (call.perform (performAll map calls)).2 := by
  rw [performAll, List.foldl_append]
  rfl

theorem performAll_append (earlier later : List StateCall) :
    performAll map (earlier ++ later) = performAll (performAll map earlier) later :=
  List.foldl_append

theorem succeeded_concat (key : String) (calls : List StateCall) :
    succeeded key map (calls ++ [call]) =
      succeeded key map calls ++ call.added key (performAll map calls) := by
  induction calls generalizing map with
  | nil => simp [succeeded, performAll]
  | cons first calls induction =>
      rw [List.cons_append, succeeded, induction, succeeded, List.append_assoc]
      rfl

/-! ## A run of calls -/

/-- An entry that `calls` only counted on: as it was while nothing was added to it, and then the
text of the number it started from and all that was added. -/
inductive Counts (key : String) (start : SharedMap) (calls : List StateCall) : Prop
  | untouched (nothing : succeeded key start calls = [])
      (held : performAll start calls key = start key)
  | counted (first current : Int64) (something : succeeded key start calls ≠ [])
      (started : counterValue (start key) = some first)
      (total : current.toInt = first.toInt + (succeeded key start calls).sum)
      (held : performAll start calls key = some (counterText current.toInt))

theorem added_of_ne {key : String} (other : call.key ≠ key) : call.added key map = [] := by
  rw [added]
  split
  · exact if_neg other
  · rfl

theorem added_of_raised {key : String} {error : StateCallError}
    (raised : (call.perform map).1 = .raised error) : call.added key map = [] := by
  rw [added, raised]

theorem added_of_counted {amount : Int} {total : Int64} (counts : call.amount = some amount)
    (counted : (call.perform map).1 = .counted total) : call.added call.key map = [amount] := by
  rw [added, counted, counts]
  exact if_pos rfl

theorem Counts.frame {key : String} {start : SharedMap} {calls : List StateCall} {call : StateCall}
    (earlier : Counts key start calls) (nothing : call.added key (performAll start calls) = [])
    (held : (call.perform (performAll start calls)).2 key = performAll start calls key) :
    Counts key start (calls ++ [call]) := by
  have same : succeeded key start (calls ++ [call]) = succeeded key start calls := by
    rw [succeeded_concat, nothing, List.append_nil]
  have kept : performAll start (calls ++ [call]) key = performAll start calls key := by
    rw [performAll_concat, held]
  cases earlier with
  | untouched none before => exact .untouched (same.trans none) (kept.trans before)
  | counted first current something started total before =>
      exact .counted first current (same ▸ something) started (same ▸ total) (kept.trans before)

/-- The number of the entry is where it started and what was added, whether or not something was. -/
theorem Counts.number {key : String} {start : SharedMap} {calls : List StateCall} {current : Int64}
    (earlier : Counts key start calls)
    (held : counterValue (performAll start calls key) = some current) :
    ∃ first, counterValue (start key) = some first ∧
      current.toInt = first.toInt + (succeeded key start calls).sum := by
  cases earlier with
  | untouched nothing before =>
      rw [before] at held
      exact ⟨current, held, by rw [nothing, List.sum_nil, Int.add_zero]⟩
  | counted first stored something started total before =>
      rw [before, counterValue_counterText] at held
      obtain rfl := Option.some.inj held
      exact ⟨first, started, total⟩

theorem Counts.concat {key : String} {start : SharedMap} {calls : List StateCall} {call : StateCall}
    (earlier : Counts key start calls) (counting : call.key = key → call.amount ≠ none) :
    Counts key start (calls ++ [call]) := by
  by_cases same : call.key = key
  · obtain ⟨amount, counts⟩ := Option.ne_none_iff_exists'.mp (counting same)
    obtain rfl := same
    rcases perform_count (performAll start calls) call counts with
      ⟨current, total, held, sum, result⟩ | ⟨error, result⟩
    · obtain ⟨first, started, before⟩ := earlier.number held
      have added := added_of_counted _ call counts (congrArg Prod.fst result)
      have amounts := succeeded_concat start call call.key calls
      rw [added] at amounts
      refine .counted first total ?_ started ?_ ?_
      · rw [amounts]
        exact List.append_ne_nil_of_right_ne_nil _ (List.cons_ne_nil _ _)
      · rw [amounts, List.sum_append, List.sum_singleton, sum, before, Int.add_assoc]
      · rw [performAll_concat, result]
        exact Function.update_self _ _ _
    · exact earlier.frame (added_of_raised _ call (congrArg Prod.fst result)) (by rw [result])
  · exact earlier.frame (added_of_ne _ call same) (perform_of_ne _ call same)

theorem counts_of_counting {key : String} (start : SharedMap) {calls : List StateCall}
    (counting : ∀ call ∈ calls, call.key = key → call.amount ≠ none) : Counts key start calls := by
  induction calls using List.reverseRecOn with
  | nil => exact .untouched rfl rfl
  | append_singleton calls call induction =>
      have earlier := induction fun call member => counting call (List.mem_append_left _ member)
      exact earlier.concat (counting call (by simp))

/-- The starting integer of a counter: zero where the key is absent, else the integer its text
spells. -/
def StartsAt (held : Option Bytes) (first : Int) : Prop :=
  held = none ∧ first = 0 ∨
    ∃ value text number, held = some value ∧ utf8Decode value = some text ∧
      parseI64 text = some number ∧ number.toInt = first

theorem startsAt_of_counterValue {held : Option Bytes} {number : Int64}
    (read : counterValue held = some number) : StartsAt held number.toInt := by
  cases held with
  | none =>
      obtain rfl := Option.some.inj read
      exact .inl ⟨rfl, Int64.toInt_zero⟩
  | some value =>
      obtain ⟨text, decoded, parsed⟩ := Option.bind_eq_some_iff.mp read
      exact .inr ⟨value, text, number, rfl, decoded, parsed, rfl⟩

/-- No increment is lost or applied twice.  After any calls, let `since` set or delete `key` no
more, whatever it does to other keys.  Once a call on `key` succeeded, the entry holds the decimal
text of its starting integer and all that was added, and each call that succeeded returned the total
at its place in the order.  A call that raises leaves the whole map as it was. -/
theorem counter_exact (map : SharedMap) (earlier since : List StateCall) (key : String)
    (counting : ∀ call ∈ since, call.key = key → call.amount ≠ none) :
    (succeeded key (performAll map earlier) since ≠ [] →
      ∃ first, StartsAt (performAll map earlier key) first ∧
        performAll map (earlier ++ since) key =
          some (utf8Encode (toString
            (first + (succeeded key (performAll map earlier) since).sum))) ∧
        ∀ front call back total, since = front ++ call :: back → call.key = key →
          (call.perform (performAll map (earlier ++ front))).1 = .counted total →
          total.toInt =
            first + (succeeded key (performAll map earlier) (front ++ [call])).sum) ∧
      ∀ front call back error, earlier ++ since = front ++ call :: back →
        (call.perform (performAll map front)).1 = .raised error →
        (call.perform (performAll map front)).2 = performAll map front := by
  refine ⟨?_, fun front call _ _ _ raised => perform_of_raised _ call raised⟩
  simp only [performAll_append]
  generalize performAll map earlier = start
  intro something
  cases counts_of_counting start counting with
  | untouched nothing => exact absurd nothing something
  | counted first current _ started total held =>
      refine ⟨first.toInt, startsAt_of_counterValue started, ?_, ?_⟩
      · rw [held, counterText, total]
      · rintro front call back running rfl rfl counted
        obtain ⟨amount, counts⟩ := Option.ne_none_iff_exists'.mp (counting call (by simp) rfl)
        have before : Counts call.key start front :=
          counts_of_counting start fun call member => counting call (List.mem_append_left _ member)
        rcases perform_count (performAll start front) call counts with
          ⟨current, total, held, sum, result⟩ | ⟨error, result⟩
        · rw [result] at counted
          obtain rfl := StateResult.counted.inj counted
          obtain ⟨sameFirst, sameStart, reached⟩ := before.number held
          obtain rfl := Option.some.inj (started.symm.trans sameStart)
          rw [succeeded_concat, added_of_counted _ call counts (congrArg Prod.fst result),
            List.sum_append, List.sum_singleton, sum, reached, Int.add_assoc]
        · rw [result] at counted
          cases counted

/-- Two counts on a value that was set, around a call on another key. -/
theorem counter_exact_shared :
    ∃ first, StartsAt (performAll (fun _ => none) [.set "hits" "+40"] "hits") first ∧
      performAll (fun _ => none)
          ([.set "hits" "+40"] ++ [.incr "hits" 3, .set "name" "x", .decr "hits" 1]) "hits" =
        some (utf8Encode (toString (first + [3, -1].sum))) := by
  have counting : ∀ call ∈ [incr "hits" 3, set "name" "x", decr "hits" 1],
      call.key = "hits" → call.amount ≠ none := by simp [StateCall.key, amount]
  have both : succeeded "hits" (performAll (fun _ => none) [.set "hits" "+40"])
      [incr "hits" 3, set "name" "x", decr "hits" 1] = [3, -1] := by decide
  obtain ⟨first, starts, held, -⟩ :=
    (counter_exact (fun _ => none) [.set "hits" "+40"] _ "hits" counting).1
      (both ▸ List.cons_ne_nil _ _)
  rw [both] at held
  exact ⟨first, starts, held⟩

end StateCall

end Pyronova
