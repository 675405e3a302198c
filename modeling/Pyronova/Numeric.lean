import Mathlib.Data.List.DropRight
import Mathlib.Tactic
import Pyronova.Body
import Pyronova.DecimalDigits

/-!
# The NUMERIC wire format

A number travels as base-10000 groups with the weight of the first one and the number of decimal
places to show.  Encoding groups the digits around the decimal point and drops zero groups at both
ends; decoding places the groups by their weight alone.  What is decoded is the text that was
encoded, in its normal form.
-/

namespace Pyronova
namespace Numeric

open DecimalDigits

def DIGITS_PER_GROUP : Nat := 4

def HEADER_WORDS : Nat := 4

/-- Every group is one base-10000 digit. -/
def NBASE : Nat := 10000

/-- The largest display scale accepted. -/
def MAX_DSCALE : Nat := 0x3FFF

inductive NumericError
  | truncated (length : Nat)
  | sign (word : UInt16)
  /-- `Syntax`. -/
  | notDecimal (text : String)
  | tooLarge (text : String)
  | scale (text : String)
  | digit (group : UInt16)
  deriving DecidableEq, Repr

/-- The text of an error, given how a string is quoted. -/
def NumericError.text (quoted : String → String) : NumericError → String
  | .truncated length =>
      "numeric value of " ++ toString length ++ " bytes is shorter than its header says"
  | .sign word =>
      "numeric value has an unknown sign word 0x" ++
        String.ofList ((Nat.toDigits 16 word.toNat).leftpad 4 '0')
  | .notDecimal text => quoted text ++ " is not a decimal number"
  | .tooLarge text => quoted text ++ " has more digits than a Postgres numeric holds"
  | .scale text =>
      quoted text ++ " has more than " ++ toString MAX_DSCALE ++
        " decimal places, the most a Postgres numeric shows"
  | .digit group =>
      "numeric value has a digit group " ++ toString group.toNat ++ ", not a base-10000 digit"

/-! ## The wire -/

inductive Sign
  | positive
  | negative
  | nan
  | posInfinity
  | negInfinity
  deriving DecidableEq, Repr

namespace Sign

def word : Sign → UInt16
  | positive => 0x0000
  | negative => 0x4000
  | nan => 0xC000
  | posInfinity => 0xD000
  | negInfinity => 0xF000

def ofWord (word : UInt16) : Option Sign :=
  [positive, negative, nan, posInfinity, negInfinity].find? (Sign.word · == word)

theorem ofWord_word (sign : Sign) : ofWord sign.word = some sign := by
  cases sign <;> rfl

end Sign

/-- A value that a buffer can hold and `decode` accepts. -/
structure Wire where
  digits : List UInt16
  weight : Int16
  sign : Sign
  dscale : UInt16
  groups : ∀ digit ∈ digits, digit.toNat < NBASE
  count : digits.length < 2 ^ 16

@[ext] theorem Wire.ext {left right : Wire} (digits : left.digits = right.digits)
    (weight : left.weight = right.weight) (sign : left.sign = right.sign)
    (dscale : left.dscale = right.dscale) : left = right := by
  cases left
  cases right
  simp_all

def toBeBytes (word : UInt16) : Bytes :=
  [UInt8.ofNat (word.toNat / 256), UInt8.ofNat (word.toNat % 256)]

def writeWords (out : Bytes) (words : List UInt16) : Bytes := out ++ words.flatMap toBeBytes

/-- Word number `index` of a buffer. -/
def word (buf : Bytes) (index : Nat) : Except NumericError UInt16 :=
  match buf[2 * index]?, buf[2 * index + 1]? with
  | some high, some low => .ok (UInt16.ofNat (high.toNat * 256 + low.toNat))
  | _, _ => .error (.truncated buf.length)

/-- `count` words from number `start` on, or the error of the first that is missing. -/
def wordsFrom (buf : Bytes) (start : Nat) : Nat → Except NumericError (List UInt16)
  | 0 => .ok []
  | count + 1 =>
      match word buf start with
      | .error error => .error error
      | .ok first =>
          match wordsFrom buf (start + 1) count with
          | .error error => .error error
          | .ok rest => .ok (first :: rest)

theorem length_of_wordsFrom {buf : Bytes} {start count : Nat} {words : List UInt16}
    (read : wordsFrom buf start count = .ok words) : words.length = count := by
  induction count generalizing start words with
  | zero =>
      obtain rfl := Except.ok.inj read
      rfl
  | succ count induction =>
      simp only [wordsFrom] at read
      split at read
      · simp at read
      split at read
      · simp at read
      rename_i rest later
      obtain rfl := Except.ok.inj read
      rw [List.length_cons, induction later]

/-- The first half of `decode`: the header words, the groups, and the checks on them. -/
def Wire.read (buf : Bytes) : Except NumericError Wire := do
  let ndigits ← word buf 0
  let weight ← word buf 1
  let sign ← word buf 2
  let dscale ← word buf 3
  match read : wordsFrom buf HEADER_WORDS ndigits.toNat with
  | .error error => .error error
  | .ok digits =>
      match checked : digits.find? (NBASE ≤ ·.toNat) with
      | some digit => .error (.digit digit)
      | none =>
          match Sign.ofWord sign with
          | none => .error (.sign sign)
          | some sign =>
              .ok
                { digits
                  weight := weight.toInt16
                  sign
                  dscale
                  groups := by simpa using checked
                  count := by
                    rw [length_of_wordsFrom read]
                    exact ndigits.toNat_lt }

/-- The groups as the words `encode` writes. -/
def Wire.words (wire : Wire) : List UInt16 :=
  [UInt16.ofNat wire.digits.length, wire.weight.toUInt16, wire.sign.word, wire.dscale] ++
    wire.digits

/-! ## The text of a wire -/

namespace Wire

/-- The group `index` places after the first; zero outside the wire. -/
def group (wire : Wire) (index : Int) : Nat :=
  if index < 0 then 0 else ((wire.digits[index.toNat]?).getD 0).toNat

def integerText (wire : Wire) : List Char :=
  if wire.weight.toInt < 0 then ['0']
  else
    Nat.toDigits 10 (wire.group 0) ++
      (List.range wire.weight.toInt.toNat).flatMap fun index : Nat =>
        padded DIGITS_PER_GROUP (wire.group (index + 1 : Nat))

def fractionText (wire : Wire) : List Char :=
  ((List.range ((wire.dscale.toNat + DIGITS_PER_GROUP - 1) / DIGITS_PER_GROUP)).flatMap
    fun index : Nat => padded DIGITS_PER_GROUP (wire.group (wire.weight.toInt + 1 + index))).take
      wire.dscale.toNat

/-- A signed decimal text; the point only before decimal places. -/
def decimalText (negative : Bool) (integer fraction : List Char) : String :=
  String.ofList ((if negative then ['-'] else []) ++ integer ++
    if fraction = [] then [] else '.' :: fraction)

/-- The second half of `decode`. -/
def text (wire : Wire) : String :=
  match wire.sign with
  | .positive => decimalText false wire.integerText wire.fractionText
  | .negative => decimalText true wire.integerText wire.fractionText
  | .nan => "NaN"
  | .posInfinity => "Infinity"
  | .negInfinity => "-Infinity"

end Wire

def decode (buf : Bytes) : Except NumericError String := (Wire.read buf).map Wire.text

/-! ## Encoding a text -/

/-- `strip_prefix('-')`, with whether there was one. -/
def stripSign : List Char → Bool × List Char
  | '-' :: rest => (true, rest)
  | text => (false, text)

/-- `split_once('.')`; without a point the text is all integer part. -/
def splitPoint (text : List Char) : List Char × List Char :=
  (text.takeWhile (· != '.'), (text.dropWhile (· != '.')).drop 1)

/-- A text that passed the digit checks, split at its sign and point. -/
structure Decimal where
  negative : Bool
  integer : List Char
  fraction : List Char
  allInteger : AllDigits integer
  allFraction : AllDigits fraction

instance (digits : List Char) : Decidable (AllDigits digits) :=
  decidable_of_iff (digits.all Char.isDigit = true) List.all_eq_true

def Decimal.parse (text : String) : Option Decimal :=
  let (negative, unsigned) := stripSign text.toList
  let (integer, fraction) := splitPoint unsigned
  if integer = [] ∧ fraction = [] then none
  else if allInteger : AllDigits integer then
    if allFraction : AllDigits fraction then
      some { negative, integer, fraction, allInteger, allFraction }
    else none
  else none

/-- `slice::chunks` at `DIGITS_PER_GROUP`; the last chunk may be shorter. -/
def chunks : List Char → List (List Char)
  | [] => []
  | a :: b :: c :: d :: rest => [a, b, c, d] :: chunks rest
  | rest => [rest]

/-- The digits missing to a whole number of groups. -/
def padding (length : Nat) : Nat :=
  (DIGITS_PER_GROUP - length % DIGITS_PER_GROUP) % DIGITS_PER_GROUP

namespace Decimal

variable (decimal : Decimal)

/-- The integer digits without leading zeros, padded in front to whole groups. -/
def integerDigits : List Char :=
  List.replicate (padding (stripped decimal.integer).length) '0' ++ stripped decimal.integer

/-- The fraction digits padded at the end to whole groups. -/
def fractionDigits : List Char :=
  decimal.fraction ++ List.replicate (padding decimal.fraction.length) '0'

/-- A group is below `NBASE`, so the `u16` accumulator of the source does not overflow. -/
def groups : List Nat := (chunks (decimal.integerDigits ++ decimal.fractionDigits)).map value

def integerGroups : Nat := decimal.integerDigits.length / DIGITS_PER_GROUP

def leadingZeros : Nat := (decimal.groups.takeWhile (· == 0)).length

/-- The groups from the first to the last that is not zero. -/
def significant : List Nat := (decimal.groups.drop decimal.leadingZeros).rdropWhile (· == 0)

/-- `i16::try_from` of the weight of the first significant group; zero has weight zero. -/
def weight : Option Int16 :=
  if decimal.significant = [] then some 0
  else
    let weight : Int := decimal.integerGroups - 1 - decimal.leadingZeros
    if -2 ^ 15 ≤ weight ∧ weight < 2 ^ 15 then some (Int16.ofInt weight) else none

def sign : Sign := if decimal.negative ∧ decimal.significant ≠ [] then .negative else .positive

end Decimal

/-! ### Chunks -/

/-- Induction over a whole number of groups, one group at a time. -/
@[elab_as_elim]
theorem wholeGroups_induction
    {motive : ∀ digits : List Char, DIGITS_PER_GROUP ∣ digits.length → Prop}
    (nil : motive [] (dvd_zero _))
    (group : ∀ a b c d rest wholeRest whole,
      motive rest wholeRest → motive (a :: b :: c :: d :: rest) whole)
    (digits : List Char) (whole : DIGITS_PER_GROUP ∣ digits.length) : motive digits whole := by
  induction digits using chunks.induct with
  | case1 => exact nil
  | case2 a b c d rest induction =>
      have wholeRest : DIGITS_PER_GROUP ∣ rest.length := by
        simp only [DIGITS_PER_GROUP, List.length_cons] at whole ⊢
        omega
      exact group a b c d rest wholeRest whole (induction wholeRest)
  | case3 digits nonempty short =>
      -- between one and three digits are no whole number of groups
      match digits, nonempty, short, whole with
      | [], nonempty, _, _ => exact absurd rfl nonempty
      | [_], _, _, whole => simp [DIGITS_PER_GROUP] at whole
      | [_, _], _, _, whole => simp [DIGITS_PER_GROUP] at whole
      | [_, _, _], _, _, whole => simp [DIGITS_PER_GROUP] at whole
      | _ :: _ :: _ :: _ :: _, _, short, _ => exact absurd rfl (short _ _ _ _ _)

theorem chunks_append {front : List Char} (back : List Char)
    (whole : DIGITS_PER_GROUP ∣ front.length) :
    chunks (front ++ back) = chunks front ++ chunks back := by
  induction front, whole using wholeGroups_induction with
  | nil => rfl
  | group a b c d rest _ _ induction => simp only [List.cons_append, chunks, induction]

theorem length_chunks {digits : List Char} (whole : DIGITS_PER_GROUP ∣ digits.length) :
    (chunks digits).length = digits.length / DIGITS_PER_GROUP := by
  induction digits, whole using wholeGroups_induction with
  | nil => rfl
  | group a b c d rest _ _ induction =>
      simp only [chunks, List.length_cons, induction, DIGITS_PER_GROUP]
      omega

/-- Whole groups printed at the group's width are the digits they were cut from. -/
theorem flatMap_padded_chunks {digits : List Char} (whole : DIGITS_PER_GROUP ∣ digits.length)
    (all : AllDigits digits) :
    ((chunks digits).map value).flatMap (padded DIGITS_PER_GROUP) = digits := by
  induction digits, whole using wholeGroups_induction with
  | nil => rfl
  | group a b c d rest _ _ induction =>
      have split : AllDigits [a, b, c, d] ∧ AllDigits rest := AllDigits.of_append all
      have printed : padded DIGITS_PER_GROUP (value [a, b, c, d]) = [a, b, c, d] :=
        padded_value split.1 (List.cons_ne_nil _ _)
      rw [chunks, List.map_cons, List.flatMap_cons, printed, induction split.2]
      rfl

theorem chunks_eq_zero {digits : List Char} (whole : DIGITS_PER_GROUP ∣ digits.length)
    (all : AllDigits digits) :
    (∀ group ∈ (chunks digits).map value, group = 0) ↔ ∀ digit ∈ digits, digit = '0' := by
  induction digits, whole using wholeGroups_induction with
  | nil => simp [chunks]
  | group a b c d rest _ _ induction =>
      have split : AllDigits [a, b, c, d] ∧ AllDigits rest := AllDigits.of_append all
      have first := value_eq_zero split.1
      rw [chunks, List.map_cons, List.forall_mem_cons, induction split.2, first]
      exact List.forall_mem_append.symm

/-- A chunk of digits is a base-10000 digit. -/
theorem value_chunk_lt {digits chunk : List Char} (all : AllDigits digits)
    (member : chunk ∈ chunks digits) : value chunk < NBASE := by
  have bound (chunk : List Char) (all : AllDigits chunk) (short : chunk.length ≤ 4) :
      value chunk < NBASE :=
    lt_of_lt_of_le (value_lt all) (Nat.pow_le_pow_right (by decide) short)
  induction digits using chunks.induct with
  | case1 => simp [chunks] at member
  | case2 a b c d rest induction =>
      have split : AllDigits [a, b, c, d] ∧ AllDigits rest := AllDigits.of_append all
      rcases List.mem_cons.mp member with rfl | member
      · exact bound _ split.1 (le_refl _)
      · exact induction split.2 member
  | case3 digits nonempty short =>
      rw [chunks] at member
      · obtain rfl := List.mem_singleton.mp member
        apply bound _ all
        match chunk, short with
        | [], _ | [_], _ | [_, _], _ | [_, _, _], _ => simp
        | _ :: _ :: _ :: _ :: _, short => exact absurd rfl (short _ _ _ _ _)
      · exact nonempty
      · exact short

theorem whole_padding (length : Nat) : DIGITS_PER_GROUP ∣ length + padding length := by
  simp only [padding, DIGITS_PER_GROUP]
  omega

theorem padding_lt (length : Nat) : padding length < DIGITS_PER_GROUP :=
  Nat.mod_lt _ (by decide)

/-! ### The groups of a text -/

namespace Decimal

variable (decimal : Decimal)

theorem allDigits_stripped : AllDigits (stripped decimal.integer) :=
  fun digit member => decimal.allInteger digit ((List.dropWhile_suffix _).subset member)

theorem allDigits_integerDigits : AllDigits decimal.integerDigits :=
  (allDigits_replicate _).append decimal.allDigits_stripped

theorem allDigits_fractionDigits : AllDigits decimal.fractionDigits :=
  decimal.allFraction.append (allDigits_replicate _)

theorem whole_integerDigits : DIGITS_PER_GROUP ∣ decimal.integerDigits.length := by
  have whole := whole_padding (stripped decimal.integer).length
  simpa [integerDigits, Nat.add_comm] using whole

theorem whole_fractionDigits : DIGITS_PER_GROUP ∣ decimal.fractionDigits.length := by
  have whole := whole_padding decimal.fraction.length
  simpa [fractionDigits] using whole

theorem groups_lt : ∀ group ∈ decimal.groups, group < NBASE := by
  intro group member
  obtain ⟨chunk, cut, rfl⟩ := List.mem_map.mp member
  exact value_chunk_lt (decimal.allDigits_integerDigits.append decimal.allDigits_fractionDigits) cut

theorem groups_eq :
    decimal.groups =
      (chunks decimal.integerDigits).map value ++ (chunks decimal.fractionDigits).map value := by
  rw [groups, chunks_append _ decimal.whole_integerDigits, List.map_append]

theorem drop_groups :
    decimal.groups.drop decimal.integerGroups = (chunks decimal.fractionDigits).map value := by
  rw [groups_eq, integerGroups, ← length_chunks decimal.whole_integerDigits, List.drop_left']
  exact List.length_map _

end Decimal

namespace Decimal

variable (decimal : Decimal)

/-- The groups are the leading zeros, the significant ones, and zeros again. -/
theorem groups_split :
    ∃ front back, decimal.groups = front ++ decimal.significant ++ back ∧
      front.length = decimal.leadingZeros ∧
      (∀ group ∈ front, group = 0) ∧ ∀ group ∈ back, group = 0 := by
  let front := decimal.groups.takeWhile (· == 0)
  let back := (decimal.groups.drop decimal.leadingZeros).rtakeWhile (· == 0)
  have taken : front = decimal.groups.take decimal.leadingZeros :=
    List.prefix_iff_eq_take.mp (List.takeWhile_prefix _)
  refine ⟨front, back, ?_, rfl, ?_, ?_⟩
  · rw [List.append_assoc, significant, List.rdropWhile_append_rtakeWhile, taken,
      List.take_append_drop]
  · intro group member
    simpa using List.mem_takeWhile_imp member
  · intro group member
    simpa using List.mem_rtakeWhile_imp member

theorem getD_of_zeros {zeros : List Nat} (all : ∀ group ∈ zeros, group = 0) (index : Nat) :
    (zeros[index]?).getD 0 = 0 := by
  cases found : zeros[index]? with
  | none => rfl
  | some group => exact all group (List.mem_of_getElem? found)

theorem groups_of_lt_leadingZeros {index : Nat} (early : index < decimal.leadingZeros) :
    (decimal.groups[index]?).getD 0 = 0 := by
  obtain ⟨front, back, split, length, zeros, -⟩ := decimal.groups_split
  have within : index < front.length := length ▸ early
  rw [split, List.append_assoc, List.getElem?_append_left within]
  exact getD_of_zeros zeros index

theorem getD_significant (index : Nat) :
    (decimal.significant[index]?).getD 0 =
      (decimal.groups[decimal.leadingZeros + index]?).getD 0 := by
  obtain ⟨front, back, split, length, -, zeros⟩ := decimal.groups_split
  rw [split, List.append_assoc, ← length,
    List.getElem?_append_right (Nat.le_add_right _ _), Nat.add_sub_cancel_left]
  by_cases within : index < decimal.significant.length
  · rw [List.getElem?_append_left within]
  · have outside : decimal.significant.length ≤ index := Nat.le_of_not_lt within
    rw [List.getElem?_append_right outside, getD_of_zeros zeros, List.getElem?_eq_none outside]
    rfl

theorem significant_eq_nil :
    decimal.significant = [] ↔ ∀ group ∈ decimal.groups, group = 0 := by
  obtain ⟨front, back, split, -, zerosFront, zerosBack⟩ := decimal.groups_split
  constructor
  · intro empty group member
    rw [split, empty, List.append_nil] at member
    rcases List.mem_append.mp member with member | member
    · exact zerosFront group member
    · exact zerosBack group member
  · intro zeros
    rw [significant, List.rdropWhile_eq_nil_iff]
    intro group member
    simpa using zeros group (List.mem_of_mem_drop member)

/-! ### The wire of a text -/

def wire (text : String) : Except NumericError Wire :=
  match decimal.weight with
  | none => .error (.tooLarge text)
  | some weight =>
      if count : decimal.significant.length < 2 ^ 16 then
        if decimal.fraction.length ≤ MAX_DSCALE then
          .ok
            { digits := decimal.significant.map UInt16.ofNat
              weight
              sign := decimal.sign
              dscale := UInt16.ofNat decimal.fraction.length
              groups := by
                intro digit member
                obtain ⟨group, kept, rfl⟩ := List.mem_map.mp member
                have small : group < NBASE := decimal.groups_lt group
                  (List.mem_of_mem_drop ((List.rdropWhile_prefix _ _).subset kept))
                exact lt_of_le_of_lt (Nat.mod_le _ _) small
              count := by rwa [List.length_map] }
        else .error (.scale text)
      else .error (.tooLarge text)

end Decimal

/-- The spellings of the values that are no numbers. -/
def special : String → Option Sign
  | "NaN" => some .nan
  | "Infinity" | "inf" => some .posInfinity
  | "-Infinity" | "-inf" => some .negInfinity
  | _ => none

def Wire.special (sign : Sign) : Wire where
  digits := []
  weight := 0
  sign
  dscale := 0
  groups := by simp
  count := by simp

/-- The wire `encode` writes for a text, or its error. -/
def wireOf (text : String) : Except NumericError Wire :=
  match Numeric.special text with
  | some sign => .ok (Wire.special sign)
  | none =>
      match Decimal.parse text with
      | none => .error (.notDecimal text)
      | some decimal => decimal.wire text

/-- `encode`: the result and the buffer afterwards. -/
def encode (text : String) (out : Bytes) : Except NumericError Unit × Bytes :=
  match wireOf text with
  | .error error => (.error error, out)
  | .ok wire => (.ok (), writeWords out wire.words)

/-! ## Reading back what was written -/

theorem flatMap_toBeBytes_getElem? (words : List UInt16) (index : Nat) :
    (words.flatMap toBeBytes)[2 * index]? =
        words[index]?.map (fun word => UInt8.ofNat (word.toNat / 256)) ∧
      (words.flatMap toBeBytes)[2 * index + 1]? =
        words[index]?.map fun word => UInt8.ofNat (word.toNat % 256) := by
  induction words generalizing index with
  | nil => simp
  | cons first words induction =>
      cases index with
      | zero => simp [toBeBytes]
      | succ index =>
          obtain ⟨high, low⟩ := induction index
          have shift : 2 * (index + 1) = 2 * index + 1 + 1 := by omega
          simp only [List.flatMap_cons, toBeBytes, List.cons_append, List.nil_append, shift,
            List.getElem?_cons_succ]
          exact ⟨high, low⟩

theorem word_flatMap {words : List UInt16} {index : Nat} {written : UInt16}
    (found : words[index]? = some written) :
    word (words.flatMap toBeBytes) index = .ok written := by
  obtain ⟨high, low⟩ := flatMap_toBeBytes_getElem? words index
  rw [found] at high low
  have whole : written.toNat / 256 * 256 + written.toNat % 256 = written.toNat :=
    Nat.div_add_mod' _ _
  have small : written.toNat / 256 < 256 := by
    have := written.toNat_lt
    omega
  simp only [word, high, low, Option.map_some]
  congr 1
  apply UInt16.toNat_inj.mp
  simp [Nat.mod_eq_of_lt small, whole]

theorem wordsFrom_flatMap {front back : List UInt16} :
    wordsFrom ((front ++ back).flatMap toBeBytes) front.length back.length = .ok back := by
  induction back generalizing front with
  | nil => rfl
  | cons first back induction =>
      have found : (front ++ first :: back)[front.length]? = some first := by simp
      have later := @induction (front ++ [first])
      rw [List.append_assoc, List.singleton_append, List.length_append,
        List.length_singleton] at later
      simp only [List.length_cons, wordsFrom, word_flatMap found, later]

/-- What is written for a wire is read as that wire. -/
theorem read_words (wire : Wire) : Wire.read (wire.words.flatMap toBeBytes) = .ok wire := by
  have count : (UInt16.ofNat wire.digits.length).toNat = wire.digits.length :=
    Nat.mod_eq_of_lt wire.count
  have digits : wordsFrom (wire.words.flatMap toBeBytes) HEADER_WORDS
      (UInt16.ofNat wire.digits.length).toNat = .ok wire.digits := by
    rw [count]
    exact wordsFrom_flatMap
  have below : wire.digits.find? (NBASE ≤ ·.toNat) = none := by
    simpa using wire.groups
  have ndigits : word (wire.words.flatMap toBeBytes) 0 = .ok _ := word_flatMap rfl
  have weight : word (wire.words.flatMap toBeBytes) 1 = .ok _ := word_flatMap rfl
  have sign : word (wire.words.flatMap toBeBytes) 2 = .ok _ := word_flatMap rfl
  have dscale : word (wire.words.flatMap toBeBytes) 3 = .ok _ := word_flatMap rfl
  simp only [Wire.read, ndigits, weight, sign, dscale, bind, Except.bind]
  split
  · rename_i error failed
    rw [digits] at failed
    exact absurd failed (by simp)
  · rename_i read succeeded
    obtain rfl : wire.digits = read := Except.ok.inj (digits.symm.trans succeeded)
    split
    · rename_i digit found
      rw [below] at found
      exact absurd found (by simp)
    · simp only [Sign.ofWord_word]
      rfl

theorem decode_words (wire : Wire) : decode (wire.words.flatMap toBeBytes) = .ok wire.text := by
  rw [decode, read_words]
  rfl

/-! ## The normal form -/

/-- The number of a text as it is printed: no zeros in front of the integer part, no sign of
zero, the decimal places as they were. -/
def normalForm : String → String
  | "NaN" => "NaN"
  | "Infinity" | "inf" => "Infinity"
  | "-Infinity" | "-inf" => "-Infinity"
  | text =>
      let (negative, unsigned) := stripSign text.toList
      let (integer, fraction) := splitPoint unsigned
      let integer := match stripped integer with
        | [] => ['0']
        | trimmed => trimmed
      let isZero := integer == ['0'] && fraction.all (· == '0')
      Wire.decimalText (negative && !isZero) integer fraction

theorem flatMap_range_getD {α β : Type} (list : List α) (default : α) (print : α → List β) :
    (List.range list.length).flatMap (fun index => print (list[index]?.getD default)) =
      list.flatMap print := by
  have indexed : (List.range list.length).map (fun index => list[index]?.getD default) = list := by
    apply List.ext_getElem
    · simp
    · intro index _ within
      simp [List.getElem?_eq_getElem within]
  rw [← List.flatMap_map, indexed]

namespace Decimal

variable {decimal : Decimal} {text : String} {wire : Wire}

theorem wire_spec (success : decimal.wire text = .ok wire) :
    wire.digits = decimal.significant.map UInt16.ofNat ∧ decimal.weight = some wire.weight ∧
      wire.sign = decimal.sign ∧ wire.dscale.toNat = decimal.fraction.length := by
  rw [Decimal.wire] at success
  split at success
  · simp at success
  rename_i weight exact
  split at success
  · split at success
    · rename_i scale
      obtain rfl := Except.ok.inj success
      have small : decimal.fraction.length < 2 ^ 16 := lt_of_le_of_lt scale (by decide)
      exact ⟨rfl, exact, rfl, Nat.mod_eq_of_lt small⟩
    · simp at success
  · simp at success

theorem weight_toInt (nonzero : decimal.significant ≠ []) {weight : Int16}
    (fits : decimal.weight = some weight) :
    weight.toInt = decimal.integerGroups - 1 - decimal.leadingZeros := by
  simp only [Decimal.weight, if_neg nonzero] at fits
  split at fits
  · rename_i bounds
    obtain rfl := Option.some.inj fits
    exact Int16.toInt_ofInt_of_le bounds.1 bounds.2
  · simp at fits

theorem group_of_digits (success : decimal.wire text = .ok wire) (index : Nat) :
    wire.group index = (decimal.significant[index]?).getD 0 := by
  have notNegative : ¬ (index : Int) < 0 := by omega
  rw [Wire.group, if_neg notNegative, (wire_spec success).1, List.getElem?_map, Int.toNat_natCast]
  cases found : decimal.significant[index]? with
  | none => rfl
  | some group =>
      have member : group ∈ decimal.groups :=
        List.mem_of_mem_drop ((List.rdropWhile_prefix _ _).subset (List.mem_of_getElem? found))
      have small : group < 2 ^ 16 := lt_trans (decimal.groups_lt group member) (by decide)
      exact Nat.mod_eq_of_lt small

/-- Counted from the decimal point, the wire has the groups of the text. -/
theorem group_wire (success : decimal.wire text = .ok wire) (index : Nat) :
    wire.group (wire.weight.toInt + 1 - decimal.integerGroups + index) =
      (decimal.groups[index]?).getD 0 := by
  by_cases zero : decimal.significant = []
  · have noDigits : wire.digits = [] := by rw [(wire_spec success).1, zero, List.map_nil]
    have allZero := getD_of_zeros (decimal.significant_eq_nil.mp zero) index
    rw [allZero, Wire.group, noDigits]
    split <;> rfl
  · have weight := weight_toInt zero (wire_spec success).2.1
    by_cases early : index < decimal.leadingZeros
    · have negative : wire.weight.toInt + 1 - decimal.integerGroups + index < 0 := by omega
      rw [Wire.group, if_pos negative, decimal.groups_of_lt_leadingZeros early]
    · have place : wire.weight.toInt + 1 - decimal.integerGroups + index =
          ((index - decimal.leadingZeros : Nat) : Int) := by omega
      have position : decimal.leadingZeros + (index - decimal.leadingZeros) = index := by omega
      rw [place, group_of_digits success, getD_significant, position]

theorem fractionText_wire (success : decimal.wire text = .ok wire) :
    wire.fractionText = decimal.fraction := by
  have scale : wire.dscale.toNat = decimal.fraction.length := (wire_spec success).2.2.2
  have count : (decimal.fraction.length + DIGITS_PER_GROUP - 1) / DIGITS_PER_GROUP =
      (decimal.groups.drop decimal.integerGroups).length := by
    rw [drop_groups, List.length_map, length_chunks decimal.whole_fractionDigits]
    simp only [fractionDigits, padding, DIGITS_PER_GROUP, List.length_append, List.length_replicate]
    omega
  have groups (index : Nat) : wire.group (wire.weight.toInt + 1 + index) =
      ((decimal.groups.drop decimal.integerGroups)[index]?).getD 0 := by
    have place : wire.weight.toInt + 1 + index =
        wire.weight.toInt + 1 - decimal.integerGroups + (decimal.integerGroups + index : Nat) := by
      omega
    rw [place, group_wire success, List.getElem?_drop]
  simp only [Wire.fractionText, scale, count, groups]
  rw [flatMap_range_getD, drop_groups,
    flatMap_padded_chunks decimal.whole_fractionDigits decimal.allDigits_fractionDigits,
    fractionDigits, List.take_left]

theorem integerGroups_eq_zero (zero : stripped decimal.integer = []) :
    decimal.integerGroups = 0 := by
  simp [integerGroups, integerDigits, zero, padding, DIGITS_PER_GROUP]

/-- The first group of a text with a nonzero integer digit, with the digits after it. -/
theorem integerDigits_split (nonzero : stripped decimal.integer ≠ []) :
    ∃ first rest, decimal.integerDigits = first ++ rest ∧ first.length = DIGITS_PER_GROUP ∧
      DIGITS_PER_GROUP ∣ rest.length ∧ stripped first ≠ [] ∧
      stripped first ++ rest = stripped decimal.integer := by
  obtain ⟨digit, digits, cons⟩ := List.exists_cons_of_ne_nil nonzero
  have notZero : digit ≠ '0' := by
    have head := List.head_dropWhile_not (· == '0') nonzero
    simp only [stripped] at cons
    simpa [cons] using head
  let missing := padding (stripped decimal.integer).length
  have short : missing < DIGITS_PER_GROUP := padding_lt _
  have whole : DIGITS_PER_GROUP ∣ (stripped decimal.integer).length + missing := whole_padding _
  have atLeastOne : 0 < (stripped decimal.integer).length := List.length_pos_iff.mpr nonzero
  obtain ⟨taken, present⟩ : ∃ taken, DIGITS_PER_GROUP - missing = taken + 1 :=
    ⟨DIGITS_PER_GROUP - missing - 1, by omega⟩
  have kept : stripped (List.replicate missing '0' ++
      (stripped decimal.integer).take (DIGITS_PER_GROUP - missing)) =
        (stripped decimal.integer).take (DIGITS_PER_GROUP - missing) := by
    rw [stripped_replicate_append, present, cons, List.take_succ_cons, stripped]
    simp [notZero]
  refine ⟨List.replicate missing '0' ++
      (stripped decimal.integer).take (DIGITS_PER_GROUP - missing),
    (stripped decimal.integer).drop (DIGITS_PER_GROUP - missing), ?_, ?_, ?_, ?_, ?_⟩
  · rw [List.append_assoc, List.take_append_drop]
    rfl
  · rw [List.length_append, List.length_replicate, List.length_take]
    simp only [DIGITS_PER_GROUP] at whole short ⊢
    omega
  · rw [List.length_drop]
    simp only [DIGITS_PER_GROUP] at whole short ⊢
    omega
  · rw [kept, present, cons, List.take_succ_cons]
    exact List.cons_ne_nil _ _
  · rw [kept, List.take_append_drop]

theorem integerText_of_zero (success : decimal.wire text = .ok wire)
    (zero : stripped decimal.integer = []) : wire.integerText = ['0'] := by
  have noGroups := integerGroups_eq_zero zero
  have weight := (wire_spec success).2.1
  by_cases empty : decimal.significant = []
  · have still : wire.weight = 0 := by
      rw [Decimal.weight, if_pos empty] at weight
      exact (Option.some.inj weight).symm
    have first : wire.group 0 = 0 := by
      have group := group_of_digits success 0
      rwa [empty] at group
    rw [Wire.integerText, first, still]
    rfl
  · have negative : wire.weight.toInt < 0 := by
      rw [weight_toInt empty weight]
      omega
    rw [Wire.integerText, if_pos negative]

theorem integerText_of_nonzero (success : decimal.wire text = .ok wire)
    (nonzero : stripped decimal.integer ≠ []) :
    wire.integerText = stripped decimal.integer := by
  obtain ⟨first, rest, split, width, wholeRest, firstNonzero, joined⟩ :=
    integerDigits_split nonzero
  have allDigits : AllDigits first ∧ AllDigits rest :=
    AllDigits.of_append (split ▸ decimal.allDigits_integerDigits)
  have firstPositive : 0 < value first := (value_pos allDigits.1).mpr firstNonzero
  have cut : (chunks decimal.integerDigits).map value =
      value first :: (chunks rest).map value := by
    have firstChunk : chunks first = [first] := by
      match first, width with
      | [_, _, _, _], _ => rfl
    rw [split, chunks_append rest (dvd_of_eq width.symm), firstChunk]
    rfl
  have groups : decimal.groups =
      value first :: ((chunks rest).map value ++ (chunks decimal.fractionDigits).map value) := by
    rw [groups_eq, cut, List.cons_append]
  have noLeading : decimal.leadingZeros = 0 := by
    rw [leadingZeros, groups, List.takeWhile_cons_of_neg (by simpa using firstPositive.ne')]
    rfl
  have significant : decimal.significant ≠ [] := by
    intro empty
    have zero := decimal.significant_eq_nil.mp empty (value first) (by simp [groups])
    omega
  have count : decimal.integerGroups = ((chunks rest).map value).length + 1 := by
    rw [integerGroups, ← length_chunks decimal.whole_integerDigits,
      ← List.length_map (f := value), cut, List.length_cons]
  have weight : wire.weight.toInt = ((chunks rest).map value).length := by
    rw [weight_toInt significant (wire_spec success).2.1, noLeading, count]
    omega
  have place (index : Nat) : wire.group index = (decimal.groups[index]?).getD 0 := by
    have group := group_wire success index
    rwa [weight, count, Nat.cast_add, Nat.cast_one, sub_self, zero_add] at group
  have head : wire.group 0 = value first := by
    rw [← Int.natCast_zero, place 0, groups]
    rfl
  have later : (List.range ((chunks rest).map value).length).flatMap
      (fun index : Nat => padded DIGITS_PER_GROUP (wire.group (index + 1 : Nat))) = rest := by
    have groupOf : ∀ index ∈ List.range ((chunks rest).map value).length,
        padded DIGITS_PER_GROUP (wire.group (index + 1 : Nat)) =
          padded DIGITS_PER_GROUP ((((chunks rest).map value)[index]?).getD 0) := by
      intro index member
      have within := List.mem_range.mp member
      rw [place, groups, List.getElem?_cons_succ, List.getElem?_append_left within]
    rw [List.flatMap_congr groupOf, flatMap_range_getD,
      flatMap_padded_chunks wholeRest allDigits.2]
  have notNegative : ¬ wire.weight.toInt < 0 := by omega
  rw [Wire.integerText, if_neg notNegative, head, weight, Int.toNat_natCast, later,
    toDigits_value allDigits.1 firstPositive, joined]

/-- The integer part without zeros in front, `0` when nothing is left of it. -/
theorem integerText_wire (success : decimal.wire text = .ok wire) :
    wire.integerText = match stripped decimal.integer with
      | [] => ['0']
      | trimmed => trimmed := by
  by_cases zero : stripped decimal.integer = []
  · rw [integerText_of_zero success zero, zero]
  · rw [integerText_of_nonzero success zero]
    split
    · contradiction
    · rfl

/-- A text is zero when no digit of it is significant. -/
theorem significant_eq_nil_iff :
    decimal.significant = [] ↔
      stripped decimal.integer = [] ∧ ∀ digit ∈ decimal.fraction, digit = '0' := by
  have integerZero : (∀ digit ∈ decimal.integerDigits, digit = '0') ↔
      stripped decimal.integer = [] := by
    rw [← stripped_eq_nil, integerDigits, stripped_replicate_append, stripped, stripped,
      List.dropWhile_idempotent]
  have fractionZero : (∀ digit ∈ decimal.fractionDigits, digit = '0') ↔
      ∀ digit ∈ decimal.fraction, digit = '0' := by
    simp only [fractionDigits, List.forall_mem_append]
    exact and_iff_left fun digit member => List.eq_of_mem_replicate member
  rw [significant_eq_nil, groups_eq, List.forall_mem_append,
    chunks_eq_zero decimal.whole_integerDigits decimal.allDigits_integerDigits,
    chunks_eq_zero decimal.whole_fractionDigits decimal.allDigits_fractionDigits,
    integerZero, fractionZero]

/-- The text read off the wire of a decimal. -/
theorem text_wire (success : decimal.wire text = .ok wire) :
    wire.text = Wire.decimalText (decimal.negative && !decide (decimal.significant = []))
      (match stripped decimal.integer with
        | [] => ['0']
        | trimmed => trimmed)
      decimal.fraction := by
  have sign : wire.sign = decimal.sign := (wire_spec success).2.2.1
  rw [Wire.text, sign, Decimal.sign, integerText_wire success, fractionText_wire success]
  by_cases negative : decimal.negative ∧ decimal.significant ≠ []
  · rw [if_pos negative, negative.1, decide_eq_false negative.2]
    rfl
  · have unsigned : (decimal.negative && !decide (decimal.significant = [])) = false := by
      simpa using negative
    rw [if_neg negative, unsigned]

end Decimal

theorem Decimal.parse_spec {text : String} {decimal : Decimal}
    (parsed : Decimal.parse text = some decimal) :
    decimal.negative = (stripSign text.toList).1 ∧
      (decimal.integer, decimal.fraction) = splitPoint (stripSign text.toList).2 := by
  simp only [Decimal.parse] at parsed
  split at parsed
  · simp at parsed
  split at parsed
  · split at parsed
    · obtain rfl := Option.some.inj parsed
      exact ⟨rfl, rfl⟩
    · simp at parsed
  · simp at parsed

theorem normalForm_of_special {text : String} {sign : Sign}
    (isSpecial : Numeric.special text = some sign) :
    (Wire.special sign).text = normalForm text := by
  unfold Numeric.special at isSpecial
  split at isSpecial
  all_goals first
    | obtain rfl := Option.some.inj isSpecial
      rfl
    | simp at isSpecial

theorem normalForm_of_decimal {text : String} {decimal : Decimal}
    (notSpecial : Numeric.special text = none) (parsed : Decimal.parse text = some decimal) :
    normalForm text =
      Wire.decimalText (decimal.negative && !decide (decimal.significant = []))
        (match stripped decimal.integer with
          | [] => ['0']
          | trimmed => trimmed)
        decimal.fraction := by
  obtain ⟨negative, parts⟩ := Decimal.parse_spec parsed
  unfold normalForm
  split
  iterate 5 simp [Numeric.special] at notSpecial
  have zero : (match stripped decimal.integer with
        | [] => ['0']
        | trimmed => trimmed) = ['0'] ↔ stripped decimal.integer = [] := by
    cases cons : stripped decimal.integer with
    | nil => simp
    | cons digit digits =>
        -- a trimmed integer part does not start with a zero
        have head := List.head?_dropWhile_not (· == '0') decimal.integer
        rw [← stripped, cons] at head
        have notZero : digit ≠ '0' := by simpa using head
        simp [notZero]
  have isZero : decide (decimal.significant = []) =
      ((match stripped decimal.integer with
        | [] => ['0']
        | trimmed => trimmed) == ['0'] && decimal.fraction.all (· == '0')) := by
    rw [Bool.eq_iff_iff, decide_eq_true_iff, Decimal.significant_eq_nil_iff, ← zero]
    simp
  simp only [← parts, ← negative, isZero]

/-- The wire of every accepted text reads as the text's normal form. -/
theorem text_wireOf {text : String} {wire : Wire} (success : wireOf text = .ok wire) :
    wire.text = normalForm text := by
  rw [wireOf] at success
  split at success
  · rename_i sign isSpecial
    obtain rfl := Except.ok.inj success
    exact normalForm_of_special isSpecial
  · rename_i notSpecial
    split at success
    · simp at success
    · rename_i decimal parsed
      rw [Decimal.text_wire success, normalForm_of_decimal notSpecial parsed]

theorem decode_encode {text : String} {out after : Bytes}
    (accepted : encode text out = (.ok (), after)) :
    ∃ written, after = out ++ written ∧ decode written = .ok (normalForm text) := by
  rw [encode] at accepted
  split at accepted
  · simp at accepted
  rename_i wire success
  obtain ⟨-, rfl⟩ := Prod.ext_iff.mp accepted
  refine ⟨wire.words.flatMap toBeBytes, rfl, ?_⟩
  rw [decode_words, text_wireOf success]

/-- Zeros in front are dropped, the decimal places and the sign are kept. -/
theorem decode_encode_padded :
    ∃ written, [7, 0, 2, 0, 0, 64, 0, 0, 2, 0, 12, 19, 136] = [7] ++ written ∧
      decode written = .ok (normalForm "-0012.50") := by
  have accepted : encode "-0012.50" [7] =
      (.ok (), [7, 0, 2, 0, 0, 64, 0, 0, 2, 0, 12, 19, 136]) := rfl
  exact decode_encode accepted

example : normalForm "-0012.50" = "-12.50" := rfl

example : normalForm "-00.0" = "0.0" := rfl

end Numeric
end Pyronova
