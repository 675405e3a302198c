import Mathlib.Tactic
import Pyronova.Numeric
import Pyronova.Positional

/-!
# The number a NUMERIC stands for

A wire denotes its groups placed by the weight, a text its digits placed by the point.  The decoded
text denotes what the wire does, cut off after the decimal places it shows.
-/

namespace Pyronova
namespace Numeric

open DecimalDigits Positional

/-- The number a sign, an integer part and decimal places denote. -/
def decimalValue (negative : Bool) (integer fraction : List Char) : ℚ :=
  (if negative then -1 else 1) * (value integer + value fraction / 10 ^ fraction.length)

/-- A number cut toward zero after `places` decimal places. -/
def truncated (places : Nat) (number : ℚ) : ℚ :=
  ((if number < 0 then ⌈number * 10 ^ places⌉ else ⌊number * 10 ^ places⌋ : ℤ) : ℚ) / 10 ^ places

/-! ## The words of a buffer -/

/-- Word number `index` of a buffer that is long enough to have it. -/
def wordAt (buf : Bytes) (index : Nat) : UInt16 :=
  UInt16.ofNat ((buf[2 * index]?.getD 0).toNat * 256 + (buf[2 * index + 1]?.getD 0).toNat)

/-- The number of groups a buffer's header says. -/
def ndigits (buf : Bytes) : Nat := (wordAt buf 0).toNat

def groupAt (buf : Bytes) (index : Nat) : Nat := (wordAt buf (HEADER_WORDS + index)).toNat

/-- The number a buffer's sign word, weight and groups stand for. -/
def wireNumber (buf : Bytes) : ℚ :=
  (if wordAt buf 2 = 0x4000 then -1 else 1) *
    ∑ index ∈ Finset.range (ndigits buf),
      (groupAt buf index : ℚ) * 10000 ^ ((wordAt buf 1).toInt16.toInt - index)

theorem word_eq (buf : Bytes) (index : Nat) :
    word buf index = if 2 * index + 2 ≤ buf.length then .ok (wordAt buf index)
      else .error (.truncated buf.length) := by
  by_cases long : 2 * index + 2 ≤ buf.length
  · have high : buf[2 * index]? = some (buf[2 * index]) := List.getElem?_eq_getElem (by omega)
    have low : buf[2 * index + 1]? = some (buf[2 * index + 1]) :=
      List.getElem?_eq_getElem (by omega)
    simp only [word, wordAt, if_pos long, high, low, Option.getD_some]
  · have low : buf[2 * index + 1]? = none := List.getElem?_eq_none (by omega)
    rw [word, if_neg long, low]
    cases buf[2 * index]? <;> rfl

theorem map_wordAt_succ (buf : Bytes) (start count : Nat) :
    (List.range (count + 1)).map (fun index => wordAt buf (start + index)) =
      wordAt buf start :: (List.range count).map fun index => wordAt buf (start + 1 + index) := by
  rw [List.range_succ_eq_map, List.map_cons, List.map_map]
  refine congrArg₂ List.cons rfl (List.map_congr_left fun index _ => congrArg (wordAt buf) ?_)
  omega

theorem wordsFrom_eq {buf : Bytes} {start : Nat} (header : 2 * start ≤ buf.length) (count : Nat) :
    wordsFrom buf start count =
      if 2 * (start + count) ≤ buf.length then
        .ok ((List.range count).map fun index => wordAt buf (start + index))
      else .error (.truncated buf.length) := by
  induction count generalizing start with
  | zero => simp [wordsFrom, header]
  | succ count induction =>
      rw [wordsFrom, word_eq]
      by_cases first : 2 * start + 2 ≤ buf.length
      · have shift : start + 1 + count = start + (count + 1) := by omega
        rw [if_pos first, induction (by omega), shift]
        by_cases long : 2 * (start + (count + 1)) ≤ buf.length
        · simp only [if_pos long, map_wordAt_succ]
        · simp only [if_neg long]
      · have short : ¬ 2 * (start + (count + 1)) ≤ buf.length := by omega
        simp only [if_neg first, if_neg short]

/-- The wire a buffer is read as has the buffer's words. -/
structure Wire.Reads (buf : Bytes) (wire : Wire) : Prop where
  long : 2 * (HEADER_WORDS + ndigits buf) ≤ buf.length
  digits : wire.digits =
    (List.range (ndigits buf)).map fun index => wordAt buf (HEADER_WORDS + index)
  weight : wire.weight = (wordAt buf 1).toInt16
  sign : Sign.ofWord (wordAt buf 2) = some wire.sign
  dscale : wire.dscale = wordAt buf 3

/-- A buffer is refused for one of three reasons, or read word for word. -/
theorem Wire.read_spec (buf : Bytes) :
    (∃ error, Wire.read buf = .error error ∧
      (buf.length < 2 * (HEADER_WORDS + ndigits buf) ∨
        (∃ index < ndigits buf, NBASE ≤ groupAt buf index) ∨
        Sign.ofWord (wordAt buf 2) = none)) ∨
      ∃ wire, Wire.read buf = .ok wire ∧ Wire.Reads buf wire := by
  by_cases header : 2 * HEADER_WORDS ≤ buf.length
  · have four : 8 ≤ buf.length := header
    have words (index : Nat) (early : index < 4) : word buf index = .ok (wordAt buf index) := by
      rw [word_eq, if_pos (by omega)]
    have groups := wordsFrom_eq header (ndigits buf)
    simp only [Wire.read, words 0 (by omega), words 1 (by omega), words 2 (by omega),
      words 3 (by omega), bind, Except.bind]
    split
    · rename_i error failed
      refine .inl ⟨error, rfl, .inl ?_⟩
      by_contra long
      have missing := groups.symm.trans failed
      rw [if_pos (by omega)] at missing
      simp at missing
    rename_i digits present
    have read := groups.symm.trans present
    split at read
    · rename_i long
      obtain rfl := Except.ok.inj read
      split
      · rename_i digit found
        obtain ⟨index, early, rfl⟩ := List.mem_map.mp (List.mem_of_find?_eq_some found)
        have large : NBASE ≤ (wordAt buf (HEADER_WORDS + index)).toNat := by
          simpa using List.find?_some found
        exact .inl ⟨.digit _, rfl, .inr (.inl ⟨index, List.mem_range.mp early, large⟩)⟩
      split
      · rename_i unknown
        exact .inl ⟨.sign _, rfl, .inr (.inr unknown)⟩
      · rename_i sign known
        exact .inr ⟨_, rfl, long, rfl, rfl, known, rfl⟩
    · simp at read
  · refine .inl ⟨.truncated buf.length, ?_, .inl ?_⟩
    · -- the header word that is missing first gives the error of the last
      have each (index : Nat) : word buf index = .ok (wordAt buf index) ∨
          word buf index = .error (.truncated buf.length) := by
        rw [word_eq]
        exact ite_eq_or_eq _ _ _
      have last : word buf 3 = .error (.truncated buf.length) := by
        rw [word_eq]
        exact if_neg header
      simp only [Wire.read, bind, Except.bind, last]
      rcases each 0 with first | first <;> simp only [first]
      rcases each 1 with second | second <;> simp only [second]
      rcases each 2 with third | third <;> simp only [third]
    · simp only [HEADER_WORDS] at header ⊢
      omega

/-- Exactly the buffers shorter than their header says, those with a group that is no base-10000
digit and those with an unknown sign word are refused. -/
theorem Wire.read_refused (buf : Bytes) :
    (∃ error, Wire.read buf = .error error) ↔
      buf.length < 2 * (HEADER_WORDS + ndigits buf) ∨
        (∃ index < ndigits buf, NBASE ≤ groupAt buf index) ∨
        Sign.ofWord (wordAt buf 2) = none := by
  rcases Wire.read_spec buf with ⟨error, failed, reason⟩ | ⟨wire, success, reads⟩
  · exact iff_of_true ⟨error, failed⟩ reason
  · refine iff_of_false ?_ ?_
    · rintro ⟨error, failed⟩
      rw [success] at failed
      simp at failed
    · rintro (short | ⟨index, early, large⟩ | unknown)
      · exact absurd reads.long (by omega)
      · have member : wordAt buf (HEADER_WORDS + index) ∈ wire.digits := by
          rw [reads.digits]
          exact List.mem_map_of_mem (List.mem_range.mpr early)
        exact absurd (wire.groups _ member) (by exact Nat.not_lt.mpr large)
      · rw [reads.sign] at unknown
        simp at unknown

/-! ## The groups in `i32` -/

/-- A result of `i32` arithmetic; `none` where it overflows. -/
def i32 (result : Int) : Option Int :=
  if -2 ^ 31 ≤ result ∧ result < 2 ^ 31 then some result else none

theorem i32_eq {result : Int} (lower : -2 ^ 31 ≤ result) (upper : result < 2 ^ 31) :
    i32 result = some result :=
  if_pos ⟨lower, upper⟩

/-- The values of an `i32` range, each formed in `i32`. -/
def i32Range (start : Int) (count : Nat) : Option (List Int) :=
  (List.range count).mapM fun index : Nat => i32 (start + index)

theorem i32Range_eq {start : Int} {count : Nat} (lower : -2 ^ 31 ≤ start)
    (upper : start + count ≤ 2 ^ 31) :
    i32Range start count = some ((List.range count).map fun index : Nat => start + index) := by
  induction count with
  | zero => rfl
  | succ count induction =>
      have front := induction (by omega)
      have last : i32 (start + count) = some _ := i32_eq (by omega) (by omega)
      rw [i32Range] at front ⊢
      rw [List.range_succ, List.mapM_append, front, List.map_append]
      simp [last]

namespace Wire

/-- `integerText` with its group numbers in `i32`. -/
def checkedIntegerText (wire : Wire) : Option (List Char) := do
  let weight ← i32 wire.weight.toInt
  if weight < 0 then some ['0']
  else
    let rest ← i32Range 1 weight.toNat
    some (Nat.toDigits 10 (wire.group 0) ++
      rest.flatMap fun index => padded DIGITS_PER_GROUP (wire.group index))

/-- `fractionText` with its group numbers in `i32`. -/
def checkedFractionText (wire : Wire) : Option (List Char) := do
  let weight ← i32 wire.weight.toInt
  let fractionGroups ←
    i32 ((wire.dscale.toNat + DIGITS_PER_GROUP - 1) / DIGITS_PER_GROUP : Nat)
  let start ← i32 (weight + 1)
  let stop ← i32 (start + fractionGroups)
  let groups ← i32Range start (stop - start).toNat
  some ((groups.flatMap fun index => padded DIGITS_PER_GROUP (wire.group index)).take
    wire.dscale.toNat)

/-- The second half of `decode` with its group numbers in `i32`. -/
def checkedText (wire : Wire) : Option String :=
  match wire.sign with
  | .positive => do
      some (decimalText false (← wire.checkedIntegerText) (← wire.checkedFractionText))
  | .negative => do
      some (decimalText true (← wire.checkedIntegerText) (← wire.checkedFractionText))
  | .nan => some "NaN"
  | .posInfinity => some "Infinity"
  | .negInfinity => some "-Infinity"

variable (wire : Wire)

theorem weight_bounds : -2 ^ 15 ≤ wire.weight.toInt ∧ wire.weight.toInt < 2 ^ 15 :=
  ⟨wire.weight.le_toInt, wire.weight.toInt_lt⟩

theorem checkedIntegerText_eq : wire.checkedIntegerText = some wire.integerText := by
  obtain ⟨lower, upper⟩ := wire.weight_bounds
  rw [checkedIntegerText, i32_eq (by omega) (by omega), integerText]
  by_cases negative : wire.weight.toInt < 0
  · rw [Option.bind_eq_bind, Option.bind_some, if_pos negative, if_pos negative]
  · have rest : i32Range 1 wire.weight.toInt.toNat = some _ := i32Range_eq (by omega) (by omega)
    have shift (index : Nat) : (1 + index : Int) = ((index + 1 : Nat) : Int) := by omega
    rw [Option.bind_eq_bind, Option.bind_some, if_neg negative, if_neg negative, rest,
      Option.bind_eq_bind, Option.bind_some, List.flatMap_map]
    simp only [shift]

theorem checkedFractionText_eq : wire.checkedFractionText = some wire.fractionText := by
  obtain ⟨lower, upper⟩ := wire.weight_bounds
  have scale := wire.dscale.toNat_lt
  have few : (wire.dscale.toNat + DIGITS_PER_GROUP - 1) / DIGITS_PER_GROUP < 2 ^ 15 := by
    simp only [DIGITS_PER_GROUP]
    omega
  rw [checkedFractionText, fractionText]
  generalize (wire.dscale.toNat + DIGITS_PER_GROUP - 1) / DIGITS_PER_GROUP = count at few ⊢
  generalize wire.weight.toInt = weight at lower upper ⊢
  have length : (weight + 1 + count - (weight + 1)).toNat = count := by omega
  have range : i32Range (weight + 1) count = some _ := i32Range_eq (by omega) (by omega)
  have weightFits : i32 weight = some _ := i32_eq (by omega) (by omega)
  have countFits : i32 count = some _ := i32_eq (by omega) (by omega)
  have startFits : i32 (weight + 1) = some _ := i32_eq (by omega) (by omega)
  have stopFits : i32 (weight + 1 + count) = some _ := i32_eq (by omega) (by omega)
  simp only [weightFits, countFits, startFits, stopFits, length, range, Option.bind_eq_bind,
    Option.bind_some, List.flatMap_map]

/-- No group number leaves the `i32` range. -/
theorem checkedText_eq : wire.checkedText = some wire.text := by
  rw [checkedText, text]
  cases wire.sign with
  | positive | negative => simp [wire.checkedIntegerText_eq, wire.checkedFractionText_eq]
  | nan | posInfinity | negInfinity => rfl

end Wire

/-- `decode` with its group numbers in `i32`; `none` where one overflows. -/
def checkedDecode (buf : Bytes) : Option (Except NumericError String) :=
  match Wire.read buf with
  | .error error => some (.error error)
  | .ok wire => wire.checkedText.map .ok

theorem checkedDecode_eq (buf : Bytes) : checkedDecode buf = some (decode buf) := by
  rw [checkedDecode, decode]
  cases Wire.read buf with
  | error error => rfl
  | ok wire =>
      change wire.checkedText.map Except.ok = some (Except.ok wire.text)
      rw [wire.checkedText_eq, Option.map_some]

/-! ## The value of a wire -/

/-- Groups printed at the group's width denote the same number. -/
theorem value_flatMap_padded {groups : List Nat} (below : ∀ group ∈ groups, group < NBASE) :
    value (groups.flatMap (padded DIGITS_PER_GROUP)) = number NBASE groups ∧
      (groups.flatMap (padded DIGITS_PER_GROUP)).length = DIGITS_PER_GROUP * groups.length := by
  induction groups using List.reverseRecOn with
  | nil => exact ⟨rfl, rfl⟩
  | append_singleton groups group induction =>
      obtain ⟨front, length⟩ :=
        induction fun group member => below group (List.mem_append_left _ member)
      have width : (padded DIGITS_PER_GROUP group).length = DIGITS_PER_GROUP :=
        length_padded (by decide) (below group (by simp))
      rw [List.flatMap_append, List.flatMap_singleton]
      constructor
      · rw [value_append, number_concat, front, value_padded, width]
        rfl
      · rw [List.length_append, length, width, List.length_append, List.length_singleton,
          Nat.mul_add, Nat.mul_one]

theorem allDigits_flatMap_padded (groups : List Nat) :
    AllDigits (groups.flatMap (padded DIGITS_PER_GROUP)) := by
  intro digit member
  obtain ⟨group, -, printed⟩ := List.mem_flatMap.mp member
  exact allDigits_padded _ group digit printed

namespace Wire

variable (wire : Wire)

/-- The groups of a wire as numbers. -/
def groupNumbers : List Nat := wire.digits.map UInt16.toNat

/-- The number the groups denote, without the sign. -/
def magnitude : ℚ := placed NBASE wire.groupNumbers wire.weight.toInt

theorem groupNumbers_lt : ∀ group ∈ wire.groupNumbers, group < NBASE := by
  intro group member
  obtain ⟨digit, kept, rfl⟩ := List.mem_map.mp member
  exact wire.groups digit kept

theorem group_eq_nth (index : Int) : wire.group index = nth wire.groupNumbers index := by
  rw [group, nth, groupNumbers, List.getElem?_map]
  cases wire.digits[index.toNat]? <;> rfl

theorem group_lt (index : Int) : wire.group index < NBASE := by
  rw [group]
  split
  · decide
  · cases found : wire.digits[index.toNat]? with
    | none => decide
    | some digit => exact wire.groups digit (List.mem_of_getElem? found)

/-- The groups in front of the decimal point. -/
def integerGroups : List Nat :=
  (List.range (wire.weight.toInt + 1).toNat).map fun index : Nat => wire.group index

/-- The groups that decimal places are shown of. -/
def fractionGroups : List Nat :=
  (List.range ((wire.dscale.toNat + DIGITS_PER_GROUP - 1) / DIGITS_PER_GROUP)).map
    fun index : Nat => wire.group (wire.weight.toInt + 1 + index)

theorem integerGroups_lt : ∀ group ∈ wire.integerGroups, group < NBASE := by
  intro group member
  obtain ⟨index, -, rfl⟩ := List.mem_map.mp member
  exact wire.group_lt index

theorem fractionGroups_lt : ∀ group ∈ wire.fractionGroups, group < NBASE := by
  intro group member
  obtain ⟨index, -, rfl⟩ := List.mem_map.mp member
  exact wire.group_lt _

theorem allDigits_integerText : AllDigits wire.integerText := by
  rw [integerText]
  split
  · exact allDigits_replicate 1
  · rw [← List.flatMap_map]
    exact (allDigits_toDigits _).append (allDigits_flatMap_padded _)

theorem integerText_ne_nil : wire.integerText ≠ [] := by
  rw [integerText]
  split
  · exact List.cons_ne_nil _ _
  · exact List.append_ne_nil_of_left_ne_nil Nat.toDigits_ne_nil _

theorem integerGroups_of_nonneg (notNegative : ¬ wire.weight.toInt < 0) :
    wire.integerGroups = wire.group 0 ::
      (List.range wire.weight.toInt.toNat).map fun index : Nat => wire.group (index + 1 : Nat) := by
  have count : (wire.weight.toInt + 1).toNat = wire.weight.toInt.toNat + 1 := by omega
  rw [integerGroups, count, List.range_succ_eq_map, List.map_cons, List.map_map]
  rfl

theorem value_integerText : value wire.integerText = number NBASE wire.integerGroups := by
  by_cases negative : wire.weight.toInt < 0
  · have none : (wire.weight.toInt + 1).toNat = 0 := by omega
    rw [integerText, if_pos negative, integerGroups, none]
    rfl
  · have groups := wire.integerGroups_of_nonneg negative
    have below := wire.integerGroups_lt
    rw [groups] at below ⊢
    obtain ⟨printed, length⟩ := value_flatMap_padded (List.forall_mem_cons.mp below).2
    rw [integerText, if_neg negative, ← List.flatMap_map, value_append, value_toDigits, printed,
      length, ← List.singleton_append, number_append, pow_mul]
    congr 2
    exact (Nat.zero_add _).symm

theorem length_fractionDigits :
    (wire.fractionGroups.flatMap (padded DIGITS_PER_GROUP)).length =
      DIGITS_PER_GROUP * ((wire.dscale.toNat + DIGITS_PER_GROUP - 1) / DIGITS_PER_GROUP) := by
  rw [(value_flatMap_padded wire.fractionGroups_lt).2, fractionGroups, List.length_map,
    List.length_range]

theorem fractionText_eq :
    wire.fractionText =
      (wire.fractionGroups.flatMap (padded DIGITS_PER_GROUP)).take wire.dscale.toNat := by
  rw [fractionText, fractionGroups, List.flatMap_map]

theorem allDigits_fractionText : AllDigits wire.fractionText := by
  rw [fractionText_eq]
  exact fun digit member => allDigits_flatMap_padded _ digit (List.mem_of_mem_take member)

theorem length_fractionText : wire.fractionText.length = wire.dscale.toNat := by
  rw [fractionText_eq, List.length_take, length_fractionDigits]
  simp only [DIGITS_PER_GROUP]
  omega

/-- The printed groups are a window onto the groups of the wire, from the first printed to the
last that decimal places are shown of. -/
theorem number_printedGroups :
    number NBASE (wire.integerGroups ++ wire.fractionGroups) =
      ⌊wire.magnitude * (NBASE : ℚ) ^ wire.fractionGroups.length⌋₊ := by
  have start : min 0 (wire.weight.toInt + 1) ≤ 0 := min_le_left _ _
  have window := number_window (by decide) wire.groupNumbers_lt wire.weight.toInt start
    ((wire.weight.toInt + 1).toNat + wire.fractionGroups.length)
  have groups : wire.integerGroups ++ wire.fractionGroups =
      (List.range ((wire.weight.toInt + 1).toNat + wire.fractionGroups.length)).map
        fun index : Nat => nth wire.groupNumbers (min 0 (wire.weight.toInt + 1) + index) := by
    rw [List.range_add, List.map_append, List.map_map, integerGroups, fractionGroups,
      List.length_map, List.length_range]
    congr 1
    · refine List.map_congr_left fun index member => ?_
      have within := List.mem_range.mp member
      rw [group_eq_nth]
      congr 1
      omega
    · refine List.map_congr_left fun index _ => ?_
      rw [group_eq_nth, Function.comp_apply]
      congr 1
      omega
  have exponent : wire.weight.toInt + 1 - min 0 (wire.weight.toInt + 1) -
      (((wire.weight.toInt + 1).toNat + wire.fractionGroups.length : Nat) : Int) =
        -(wire.fractionGroups.length : Int) := by omega
  rw [groups, window, exponent, zpow_neg, zpow_natCast, div_inv_eq_mul]
  rfl

/-- The printed digits denote the whole part of the number, scaled to the last of them. -/
theorem value_digits :
    value (wire.integerText ++ wire.fractionText) =
      ⌊wire.magnitude * 10 ^ wire.dscale.toNat⌋₊ := by
  let shown := wire.fractionGroups.flatMap (padded DIGITS_PER_GROUP)
  have all : AllDigits (wire.integerText ++ shown) :=
    wire.allDigits_integerText.append (allDigits_flatMap_padded _)
  obtain ⟨printed, length⟩ := value_flatMap_padded wire.fractionGroups_lt
  have scale : wire.dscale.toNat ≤ DIGITS_PER_GROUP * wire.fractionGroups.length := by
    rw [← length, length_fractionDigits]
    simp only [DIGITS_PER_GROUP]
    omega
  have cut : wire.integerText ++ wire.fractionText =
      (wire.integerText ++ shown).take (wire.integerText.length + wire.dscale.toNat) := by
    rw [fractionText_eq, List.take_length_add_append]
  have whole : value (wire.integerText ++ shown) =
      ⌊wire.magnitude * (NBASE : ℚ) ^ wire.fractionGroups.length⌋₊ := by
    rw [← number_printedGroups, value_append, number_append, printed, length, value_integerText,
      pow_mul]
    rfl
  have rest : (wire.integerText ++ shown).length -
      (wire.integerText.length + wire.dscale.toNat) =
        DIGITS_PER_GROUP * wire.fractionGroups.length - wire.dscale.toNat := by
    rw [List.length_append, length, Nat.add_sub_add_left]
  have scaled : wire.magnitude * (NBASE : ℚ) ^ wire.fractionGroups.length =
      wire.magnitude * 10 ^ wire.dscale.toNat *
        ((10 ^ (DIGITS_PER_GROUP * wire.fractionGroups.length - wire.dscale.toNat) : Nat) : ℚ) := by
    have base : (NBASE : ℚ) = 10 ^ DIGITS_PER_GROUP := by norm_num [NBASE, DIGITS_PER_GROUP]
    rw [base, ← pow_mul, Nat.cast_pow, Nat.cast_ofNat, mul_assoc, ← pow_add,
      Nat.add_sub_cancel' scale]
  rw [cut, value_take all, whole, rest, ← Nat.floor_div_natCast, scaled,
    mul_div_cancel_right₀ _ (by positivity)]

theorem magnitude_nonneg : 0 ≤ wire.magnitude := by
  rw [magnitude, placed_eq (by decide)]
  positivity

/-- The number of a wire's sign and groups. -/
def value : ℚ := (if wire.sign = .negative then -1 else 1) * wire.magnitude

end Wire

theorem decimalValue_eq (negative : Bool) (integer fraction : List Char) :
    decimalValue negative integer fraction =
      (if negative then -1 else 1) *
        ((value (integer ++ fraction) : ℚ) / 10 ^ fraction.length) := by
  rw [decimalValue, value_append]
  congr 1
  push_cast
  field_simp

/-- Cutting off decimal places does not look at the sign. -/
theorem truncated_signed (places : Nat) (negative : Bool) {magnitude : ℚ}
    (nonneg : 0 ≤ magnitude) :
    truncated places ((if negative then -1 else 1) * magnitude) =
      (if negative then -1 else 1) * ((⌊magnitude * 10 ^ places⌋₊ : ℚ) / 10 ^ places) := by
  have whole : ((⌊magnitude * 10 ^ places⌋₊ : Nat) : ℚ) = ⌊magnitude * 10 ^ places⌋ :=
    natCast_floor_eq_intCast_floor (by positivity)
  rw [whole, truncated]
  cases negative with
  | false =>
      have notNegative : ¬ magnitude < 0 := not_lt.mpr nonneg
      simp [notNegative]
  | true =>
      rcases nonneg.eq_or_lt with rfl | positive
      · simp
      · have below : -1 * magnitude < 0 := by linarith
        have ceil : ⌈-1 * magnitude * 10 ^ places⌉ = -⌊magnitude * 10 ^ places⌋ := by
          rw [← Int.ceil_neg]
          congr 1
          ring
        simp only [if_pos, below, ceil]
        push_cast
        ring

/-- The decoded text denotes the number of the wire, cut off after the decimal places shown. -/
theorem Wire.decimalValue_text (wire : Wire) :
    decimalValue (decide (wire.sign = .negative)) wire.integerText wire.fractionText =
      truncated wire.dscale.toNat wire.value := by
  have signed := truncated_signed wire.dscale.toNat (decide (wire.sign = .negative))
    wire.magnitude_nonneg
  rw [decimalValue_eq, wire.value_digits, wire.length_fractionText, ← signed, Wire.value]
  simp only [decide_eq_true_eq]

theorem Wire.Reads.groupNumbers_eq {buf : Bytes} {wire : Wire} (reads : Wire.Reads buf wire) :
    wire.groupNumbers = (List.range (ndigits buf)).map (groupAt buf) := by
  rw [Wire.groupNumbers, reads.digits, List.map_map]
  rfl

theorem Wire.Reads.magnitude_eq {buf : Bytes} {wire : Wire} (reads : Wire.Reads buf wire) :
    wire.magnitude = ∑ index ∈ Finset.range (ndigits buf),
      (groupAt buf index : ℚ) * 10000 ^ ((wordAt buf 1).toInt16.toInt - index) := by
  rw [Wire.magnitude, placed, reads.groupNumbers_eq, List.length_map, List.length_range,
    reads.weight]
  refine Finset.sum_congr rfl fun index member => ?_
  have within := Finset.mem_range.mp member
  rw [List.getElem?_map, List.getElem?_range within]
  rfl

theorem Sign.ofWord_eq_none {word : UInt16} :
    Sign.ofWord word = none ↔ word ∉ [0x0000, 0x4000, 0xC000, 0xD000, 0xF000] := by
  rw [Sign.ofWord, List.find?_eq_none]
  simp [Sign.word, eq_comm (a := word)]

theorem Wire.Reads.sign_iff {buf : Bytes} {wire : Wire} (reads : Wire.Reads buf wire)
    (sign : Sign) : wire.sign = sign ↔ wordAt buf 2 = sign.word := by
  have found := reads.sign
  rw [Sign.ofWord] at found
  have word : wire.sign.word = wordAt buf 2 := by simpa using List.find?_some found
  rw [← word]
  constructor
  · rintro rfl
    rfl
  · intro same
    have known := Sign.ofWord_word wire.sign
    rw [same, Sign.ofWord_word] at known
    exact (Option.some.inj known).symm

theorem Wire.Reads.value_eq {buf : Bytes} {wire : Wire} (reads : Wire.Reads buf wire) :
    wire.value = wireNumber buf := by
  rw [Wire.value, wireNumber, reads.magnitude_eq]
  simp only [reads.sign_iff .negative, Sign.word]

theorem Wire.text_of_sign {wire : Wire} (signed : wire.sign = .positive ∨ wire.sign = .negative) :
    wire.text =
      decimalText (decide (wire.sign = .negative)) wire.integerText wire.fractionText := by
  rcases signed with sign | sign <;> simp [Wire.text, sign]

/-- A buffer is refused exactly when it is shorter than its header says, a group is no base-10000
digit or the sign word is unknown.  The text of a number has the decimal places of the header, a
minus exactly for the negative sign word, and denotes the groups placed by the weight, cut off
toward zero.  No group number leaves the `i32` range. -/
theorem decode_denotes (buf : Bytes) :
    ((∃ error, decode buf = .error error) ↔
      buf.length < 2 * (HEADER_WORDS + ndigits buf) ∨
        (∃ index < ndigits buf, 10000 ≤ groupAt buf index) ∨
        wordAt buf 2 ∉ [0x0000, 0x4000, 0xC000, 0xD000, 0xF000]) ∧
      (∀ text, decode buf = .ok text → wordAt buf 2 = 0x0000 ∨ wordAt buf 2 = 0x4000 →
        ∃ integer fraction,
          text.toList = (if wordAt buf 2 = 0x4000 then ['-'] else []) ++ integer ++
            (if wordAt buf 3 = 0 then [] else '.' :: fraction) ∧
          AllDigits integer ∧ integer ≠ [] ∧
          AllDigits fraction ∧ fraction.length = (wordAt buf 3).toNat ∧
          decimalValue (wordAt buf 2 = 0x4000) integer fraction =
            truncated (wordAt buf 3).toNat (wireNumber buf)) ∧
      checkedDecode buf = some (decode buf) := by
  refine ⟨?_, ?_, checkedDecode_eq buf⟩
  · rw [← Sign.ofWord_eq_none, ← show NBASE = 10000 from rfl, ← Wire.read_refused, decode]
    cases Wire.read buf with
    | error error => exact iff_of_true ⟨error, rfl⟩ ⟨error, rfl⟩
    | ok wire => exact iff_of_false (by rintro ⟨_, failed⟩; cases failed) (by simp)
  · intro text decoded signWord
    rcases Wire.read_spec buf with ⟨error, failed, -⟩ | ⟨wire, success, reads⟩
    · rw [decode, failed] at decoded
      cases decoded
    rw [decode, success] at decoded
    obtain rfl : wire.text = text := Except.ok.inj decoded
    have negative := reads.sign_iff .negative
    have signed : wire.sign = .positive ∨ wire.sign = .negative := by
      rcases signWord with word | word
      · exact .inl ((reads.sign_iff .positive).mpr word)
      · exact .inr (negative.mpr word)
    have scale : wire.fractionText = [] ↔ wordAt buf 3 = 0 := by
      rw [← List.length_eq_zero_iff, wire.length_fractionText, reads.dscale, ← UInt16.toNat_inj]
      rfl
    refine ⟨wire.integerText, wire.fractionText, ?_, wire.allDigits_integerText,
      wire.integerText_ne_nil, wire.allDigits_fractionText, ?_, ?_⟩
    · rw [Wire.text_of_sign signed, Wire.decimalText, String.toList_ofList]
      simp only [decide_eq_true_eq, negative, Sign.word, scale]
    · rw [wire.length_fractionText, reads.dscale]
    · rw [← reads.value_eq, ← reads.dscale, ← wire.decimalValue_text]
      simp only [negative, Sign.word]

/-- Two groups, one decimal place shown: the second group is cut after its first digit. -/
theorem decode_denotes_cut :
    ∃ integer fraction, "-12.5".toList = ['-'] ++ integer ++ '.' :: fraction ∧
      AllDigits integer ∧ AllDigits fraction ∧ fraction.length = 1 ∧
      decimalValue true integer fraction =
        truncated 1 (wireNumber [0, 2, 0, 0, 64, 0, 0, 1, 0, 12, 20, 80]) := by
  obtain ⟨integer, fraction, text, allInteger, -, allFraction, length, denoted⟩ :=
    (decode_denotes [0, 2, 0, 0, 64, 0, 0, 1, 0, 12, 20, 80]).2.1 "-12.5" rfl (.inr rfl)
  exact ⟨integer, fraction, text, allInteger, allFraction, length, denoted⟩

end Numeric
end Pyronova
