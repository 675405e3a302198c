import Mathlib.Tactic
import Pyronova.NumericValue

/-!
# The wire of a decimal text

A text is accepted when it spells a decimal number whose groups and decimal places the wire can
count.  Its wire is in normal form and denotes exactly the number of the text, so texts of one
number with as many decimal places have one wire.
-/

namespace Pyronova
namespace Numeric

open DecimalDigits Positional

/-! ## The value of a text -/

/-- A text is an optional minus, digits, and an optional point with digits after it. -/
def Spells (text : String) (negative : Bool) (integer fraction : List Char) : Prop :=
  AllDigits integer ∧ AllDigits fraction ∧
    (text.toList = (if negative then ['-'] else []) ++ integer ++ '.' :: fraction ∨
      fraction = [] ∧ text.toList = (if negative then ['-'] else []) ++ integer)

theorem stripSign_eq {text unsigned : List Char} {negative : Bool}
    (notSigned : ∀ rest, unsigned ≠ '-' :: rest)
    (signed : text = (if negative then ['-'] else []) ++ unsigned) :
    stripSign text = (negative, unsigned) := by
  subst signed
  cases negative with
  | true => rfl
  | false =>
      rw [if_neg Bool.false_ne_true, List.nil_append, stripSign]
      exact notSigned

theorem stripSign_append (text : List Char) :
    text = (if (stripSign text).1 then ['-'] else []) ++ (stripSign text).2 := by
  rw [stripSign.eq_def]
  split <;> rfl

theorem splitPoint_append_point {integer : List Char} (noPoint : '.' ∉ integer)
    (fraction : List Char) : splitPoint (integer ++ '.' :: fraction) = (integer, fraction) := by
  have kept : ∀ char ∈ integer, (char != '.') = true := by
    intro char member
    rw [bne_iff_ne]
    rintro rfl
    exact noPoint member
  rw [splitPoint, List.takeWhile_append_of_pos kept, List.dropWhile_append_of_pos kept]
  simp

theorem splitPoint_of_noPoint {integer : List Char} (noPoint : '.' ∉ integer) :
    splitPoint integer = (integer, []) := by
  have kept : ∀ char ∈ integer, (char != '.') = true := by
    intro char member
    rw [bne_iff_ne]
    rintro rfl
    exact noPoint member
  rw [splitPoint, List.takeWhile_eq_self_iff.mpr kept, List.dropWhile_eq_nil_iff.mpr kept]
  rfl

theorem splitPoint_append (text : List Char) :
    text = (splitPoint text).1 ++ '.' :: (splitPoint text).2 ∨
      (splitPoint text).2 = [] ∧ text = (splitPoint text).1 := by
  have whole : text.takeWhile (· != '.') ++ text.dropWhile (· != '.') = text :=
    List.takeWhile_append_dropWhile
  cases rest : text.dropWhile (· != '.') with
  | nil =>
      right
      rw [rest, List.append_nil] at whole
      exact ⟨by rw [splitPoint, rest]; rfl, whole.symm⟩
  | cons point fraction =>
      left
      have head := List.head?_dropWhile_not (· != '.') text
      rw [rest] at head
      have isPoint : point = '.' := by simpa using head
      rw [rest, isPoint] at whole
      rw [splitPoint, rest]
      exact whole.symm

theorem noPoint_of_allDigits {digits : List Char} (all : AllDigits digits) : '.' ∉ digits := by
  intro member
  exact absurd (all '.' member) (by decide)

theorem ne_minus_of_allDigits {digits : List Char} (all : AllDigits digits) (rest : List Char) :
    digits ≠ '-' :: rest := by
  rintro rfl
  exact absurd (all '-' List.mem_cons_self) (by decide)

/-- The source splits a text where its spelling does. -/
theorem Spells.split {text : String} {negative : Bool} {integer fraction : List Char}
    (spells : Spells text negative integer fraction) :
    (stripSign text.toList).1 = negative ∧
      splitPoint (stripSign text.toList).2 = (integer, fraction) := by
  obtain ⟨allInteger, allFraction, pointed | ⟨rfl, plain⟩⟩ := spells
  · have notSigned : ∀ rest, integer ++ '.' :: fraction ≠ '-' :: rest := by
      intro rest signed
      cases integer with
      | nil => simp at signed
      | cons digit digits =>
          obtain rfl := (List.cons.inj signed).1
          exact ne_minus_of_allDigits allInteger digits rfl
    rw [stripSign_eq notSigned (by rw [pointed, List.append_assoc])]
    exact ⟨rfl, splitPoint_append_point (noPoint_of_allDigits allInteger) fraction⟩
  · rw [stripSign_eq (ne_minus_of_allDigits allInteger) plain]
    exact ⟨rfl, splitPoint_of_noPoint (noPoint_of_allDigits allInteger)⟩

theorem Decimal.parse_of_spells {text : String} {negative : Bool} {integer fraction : List Char}
    (spells : Spells text negative integer fraction) (digits : integer ++ fraction ≠ []) :
    Decimal.parse text =
      some { negative, integer, fraction, allInteger := spells.1, allFraction := spells.2.1 } := by
  obtain ⟨sign, parts⟩ := spells.split
  have some_digit : ¬ (integer = [] ∧ fraction = []) := by
    rintro ⟨rfl, rfl⟩
    exact digits rfl
  simp only [Decimal.parse, parts, sign]
  rw [if_neg some_digit, dif_pos spells.1, dif_pos spells.2.1]

theorem Decimal.spells {text : String} {decimal : Decimal}
    (parsed : Decimal.parse text = some decimal) :
    Spells text decimal.negative decimal.integer decimal.fraction ∧
      decimal.integer ++ decimal.fraction ≠ [] := by
  obtain ⟨sign, parts⟩ := Decimal.parse_spec parsed
  have unsigned := splitPoint_append (stripSign text.toList).2
  rw [← parts] at unsigned
  have whole := stripSign_append text.toList
  rw [← sign] at whole
  refine ⟨⟨decimal.allInteger, decimal.allFraction, ?_⟩, ?_⟩
  · rcases unsigned with pointed | ⟨noFraction, plain⟩
    · exact .inl (by rw [whole, List.append_assoc]; exact congrArg _ pointed)
    · exact .inr ⟨noFraction, by rw [whole]; exact congrArg _ plain⟩
  · intro empty
    obtain ⟨noInteger, noFraction⟩ := List.append_eq_nil_iff.mp empty
    rw [noInteger, noFraction] at parts
    simp only [Decimal.parse, ← parts, and_self, if_true] at parsed
    cases parsed

/-- The groups cut from whole digits denote the number of the digits. -/
theorem number_chunks {digits : List Char} (whole : DIGITS_PER_GROUP ∣ digits.length)
    (all : AllDigits digits) : number NBASE ((chunks digits).map value) = value digits := by
  have below : ∀ group ∈ (chunks digits).map value, group < NBASE := by
    intro group member
    obtain ⟨chunk, cut, rfl⟩ := List.mem_map.mp member
    exact value_chunk_lt all cut
  rw [← (value_flatMap_padded below).1, flatMap_padded_chunks whole all]

namespace Decimal

variable (decimal : Decimal)

/-- The number of the digits, without the sign. -/
def magnitude : ℚ :=
  value decimal.integer + (value decimal.fraction : ℚ) / 10 ^ decimal.fraction.length

theorem magnitude_nonneg : 0 ≤ decimal.magnitude := by
  rw [magnitude]
  positivity

theorem value_integerDigits : value decimal.integerDigits = value decimal.integer := by
  rw [integerDigits, value_replicate_append, value_stripped]

theorem value_fractionDigits :
    value decimal.fractionDigits =
      value decimal.fraction * 10 ^ padding decimal.fraction.length := by
  rw [fractionDigits, value_append, value_replicate, Nat.add_zero, List.length_replicate]

theorem length_groups :
    DIGITS_PER_GROUP * (decimal.groups.length - decimal.integerGroups) =
      decimal.fraction.length + padding decimal.fraction.length ∧
    decimal.integerGroups ≤ decimal.groups.length := by
  have total : decimal.groups.length =
      decimal.integerGroups + decimal.fractionDigits.length / DIGITS_PER_GROUP := by
    rw [groups_eq, List.length_append, List.length_map, List.length_map,
      length_chunks decimal.whole_integerDigits, length_chunks decimal.whole_fractionDigits,
      integerGroups]
  have whole := Nat.mul_div_cancel' decimal.whole_fractionDigits
  rw [total, Nat.add_sub_cancel_left, whole, fractionDigits, List.length_append,
    List.length_replicate]
  exact ⟨rfl, Nat.le_add_right _ _⟩

/-- Placed around the point, the groups denote the number of the digits. -/
theorem magnitude_eq_groups :
    decimal.magnitude = placed NBASE decimal.groups (decimal.integerGroups - 1) := by
  obtain ⟨fractionLength, fewer⟩ := decimal.length_groups
  generalize places : decimal.groups.length - decimal.integerGroups = count at fractionLength
  have exponent : (decimal.integerGroups - 1 : Int) + 1 - decimal.groups.length = -count := by omega
  have digits : number NBASE decimal.groups =
      value decimal.integer * 10 ^ (DIGITS_PER_GROUP * count) +
        value decimal.fraction * 10 ^ padding decimal.fraction.length := by
    rw [groups, number_chunks, value_append, value_integerDigits, value_fractionDigits,
      fractionDigits, List.length_append, List.length_replicate, fractionLength]
    · rw [List.length_append]
      exact dvd_add decimal.whole_integerDigits decimal.whole_fractionDigits
    · exact decimal.allDigits_integerDigits.append decimal.allDigits_fractionDigits
  have base : (NBASE : ℚ) ^ (-(count : Int)) =
      ((10 : ℚ) ^ (decimal.fraction.length + padding decimal.fraction.length))⁻¹ := by
    rw [← fractionLength, zpow_neg, zpow_natCast, pow_mul]
    norm_num [NBASE, DIGITS_PER_GROUP]
  rw [placed_eq (by decide), exponent, base, digits, fractionLength, magnitude]
  push_cast
  rw [pow_add]
  field_simp

/-- Zero groups on both sides do not change the number. -/
theorem magnitude_eq_significant :
    decimal.magnitude =
      placed NBASE decimal.significant (decimal.integerGroups - 1 - decimal.leadingZeros) := by
  obtain ⟨front, back, split, length, zerosFront, zerosBack⟩ := decimal.groups_split
  rw [magnitude_eq_groups, split, placed_of_zeros (by decide) _ zerosFront zerosBack, length]

theorem significant_eq_nil_iff_magnitude : decimal.significant = [] ↔ decimal.magnitude = 0 := by
  have integerZero : stripped decimal.integer = [] ↔ value decimal.integer = 0 := by
    rw [stripped_eq_nil, value_eq_zero decimal.allInteger]
  rw [significant_eq_nil_iff, integerZero, ← value_eq_zero decimal.allFraction, magnitude,
    add_eq_zero_iff_of_nonneg (by positivity) (by positivity)]
  simp

theorem significant_lt : ∀ group ∈ decimal.significant, group < NBASE :=
  fun group member => decimal.groups_lt group
    (List.mem_of_mem_drop ((List.rdropWhile_prefix _ _).subset member))

theorem significant_head {first : Nat} {rest : List Nat}
    (cons : decimal.significant = first :: rest) : first ≠ 0 := by
  have dropped : decimal.groups.drop decimal.leadingZeros = decimal.groups.dropWhile (· == 0) := by
    have split := List.takeWhile_append_dropWhile (p := (· == 0)) (l := decimal.groups)
    rw [leadingZeros, ← split, List.drop_left', split]
    rw [split]
  obtain ⟨back, joined⟩ :=
    List.rdropWhile_prefix (· == 0) (decimal.groups.drop decimal.leadingZeros)
  rw [← significant, cons, dropped] at joined
  have head := List.head?_dropWhile_not (· == 0) decimal.groups
  rw [← joined] at head
  simpa using head

theorem significant_getLast (nonempty : decimal.significant ≠ []) :
    decimal.significant.getLast nonempty ≠ 0 := by
  have last := List.rdropWhile_last_not (· == 0) _ nonempty
  rwa [beq_iff_eq] at last

variable {decimal : Decimal} {text : String} {wire : Wire}

theorem groupNumbers_wire (success : decimal.wire text = .ok wire) :
    wire.groupNumbers = decimal.significant := by
  rw [Wire.groupNumbers, (wire_spec success).1, List.map_map]
  refine (List.map_congr_left fun group member => ?_).trans (List.map_id _)
  have small : group < 2 ^ 16 := lt_trans (decimal.significant_lt group member) (by decide)
  exact Nat.mod_eq_of_lt small

theorem magnitude_wire (success : decimal.wire text = .ok wire) :
    wire.magnitude = decimal.magnitude := by
  rw [Wire.magnitude, groupNumbers_wire success]
  by_cases zero : decimal.significant = []
  · rw [decimal.significant_eq_nil_iff_magnitude.mp zero, zero]
    rfl
  · rw [weight_toInt zero (wire_spec success).2.1, ← magnitude_eq_significant]

theorem sign_eq_negative :
    decimal.sign = .negative ↔ decimal.negative ∧ decimal.magnitude ≠ 0 := by
  rw [ne_eq, ← decimal.significant_eq_nil_iff_magnitude, sign]
  split
  · rename_i negative
    exact iff_of_true rfl negative
  · rename_i notNegative
    exact iff_of_false (by simp) notNegative

/-- The wire denotes the number of the text. -/
theorem value_wire (success : decimal.wire text = .ok wire) :
    wire.value = decimalValue decimal.negative decimal.integer decimal.fraction := by
  rw [Wire.value, magnitude_wire success, (wire_spec success).2.2.1, decimalValue, ← magnitude]
  by_cases zero : decimal.magnitude = 0
  · rw [zero, mul_zero, mul_zero]
  · have negative : decimal.sign = .negative ↔ decimal.negative := by
      rw [sign_eq_negative]
      exact and_iff_left zero
    simp only [negative]

theorem abs_decimalValue (decimal : Decimal) :
    |decimalValue decimal.negative decimal.integer decimal.fraction| = decimal.magnitude := by
  rw [decimalValue, ← magnitude, abs_mul, abs_of_nonneg decimal.magnitude_nonneg]
  split <;> simp

theorem sign_eq (decimal : Decimal) :
    decimal.sign =
      if decimalValue decimal.negative decimal.integer decimal.fraction < 0 then .negative
      else .positive := by
  have nonneg := decimal.magnitude_nonneg
  have negative : decimalValue decimal.negative decimal.integer decimal.fraction < 0 ↔
      decimal.sign = .negative := by
    rw [sign_eq_negative, decimalValue, ← magnitude]
    cases decimal.negative with
    | false => simpa using nonneg
    | true => simp [nonneg.lt_iff_ne, eq_comm]
  by_cases isNegative : decimal.sign = .negative
  · rw [if_pos (negative.mpr isNegative), isNegative]
  · rw [if_neg (negative.not.mpr isNegative)]
    rw [sign] at isNegative ⊢
    split
    · rename_i sign
      exact absurd (if_pos sign) isNegative
    · rfl

/-- A number with its count of decimal places determines the digits of its spelling, up to the
zeros in front. -/
theorem digits_of_magnitude {left right : Decimal} (same : left.magnitude = right.magnitude)
    (places : left.fraction.length = right.fraction.length) :
    stripped left.integer = stripped right.integer ∧ left.fraction = right.fraction := by
  have leftSmall := value_lt left.allFraction
  have rightSmall := value_lt right.allFraction
  rw [magnitude, magnitude, places] at same
  rw [places] at leftSmall
  have scale : (10 : ℚ) ^ right.fraction.length ≠ 0 := by positivity
  have scaled : value left.integer * 10 ^ right.fraction.length + value left.fraction =
      value right.integer * 10 ^ right.fraction.length + value right.fraction := by
    field_simp at same
    rw [mul_comm ((10 : ℚ) ^ right.fraction.length)] at same
    exact_mod_cast same
  have quotient (integer : Nat) {rest : Nat} (small : rest < 10 ^ right.fraction.length) :
      (integer * 10 ^ right.fraction.length + rest) / 10 ^ right.fraction.length = integer := by
    rw [Nat.mul_comm, Nat.mul_add_div (by positivity), Nat.div_eq_of_lt small, Nat.add_zero]
  have integer : value left.integer = value right.integer := by
    rw [← quotient (value left.integer) leftSmall, scaled, quotient _ rightSmall]
  have fraction : value left.fraction = value right.fraction := by
    rw [integer] at scaled
    exact Nat.add_left_cancel scaled
  exact ⟨stripped_eq_of_value left.allInteger right.allInteger integer,
    eq_of_value left.allFraction right.allFraction places fraction⟩

theorem wire_unique {left right : Decimal} {leftText rightText : String} {leftWire rightWire : Wire}
    (leftSuccess : left.wire leftText = .ok leftWire)
    (rightSuccess : right.wire rightText = .ok rightWire)
    (same : decimalValue left.negative left.integer left.fraction =
      decimalValue right.negative right.integer right.fraction)
    (places : left.fraction.length = right.fraction.length) : leftWire = rightWire := by
  have magnitudes : left.magnitude = right.magnitude := by
    have absolute := congrArg abs same
    rwa [abs_decimalValue, abs_decimalValue] at absolute
  obtain ⟨integer, fraction⟩ := digits_of_magnitude magnitudes places
  have integerDigits : left.integerDigits = right.integerDigits := by
    rw [Decimal.integerDigits, Decimal.integerDigits, integer]
  have groups : left.groups = right.groups := by
    rw [Decimal.groups, Decimal.groups, integerDigits, Decimal.fractionDigits,
      Decimal.fractionDigits, fraction]
  have zeros : left.leadingZeros = right.leadingZeros := by
    rw [Decimal.leadingZeros, Decimal.leadingZeros, groups]
  have significant : left.significant = right.significant := by
    rw [Decimal.significant, Decimal.significant, groups, zeros]
  have weight : left.weight = right.weight := by
    rw [Decimal.weight, Decimal.weight, significant, zeros, Decimal.integerGroups,
      Decimal.integerGroups, integerDigits]
  have sign : left.sign = right.sign := by
    rw [sign_eq, sign_eq, same]
  obtain ⟨leftDigits, leftWeight, leftSign, leftScale⟩ := wire_spec leftSuccess
  obtain ⟨rightDigits, rightWeight, rightSign, rightScale⟩ := wire_spec rightSuccess
  apply Wire.ext
  · rw [leftDigits, rightDigits, significant]
  · rw [weight, rightWeight] at leftWeight
    exact (Option.some.inj leftWeight).symm
  · rw [leftSign, rightSign, sign]
  · rw [← UInt16.toNat_inj, leftScale, rightScale, places]

end Decimal

/-! ## The normal form of a wire -/

/-- The words of a wire as they are stored: no zero group on either side, zero without groups,
weight or minus. -/
structure NormalForm (written : Bytes) : Prop where
  length : written.length = 2 * (HEADER_WORDS + ndigits written)
  below : ∀ index < ndigits written, groupAt written index < 10000
  first : 0 < ndigits written → groupAt written 0 ≠ 0
  last : 0 < ndigits written → groupAt written (ndigits written - 1) ≠ 0
  sign : wordAt written 2 = 0x0000 ∨ wordAt written 2 = 0x4000
  zero : wireNumber written = 0 →
    ndigits written = 0 ∧ wordAt written 1 = 0 ∧ wordAt written 2 = 0x0000

theorem Wire.reads_words (wire : Wire) : Wire.Reads (wire.words.flatMap toBeBytes) wire := by
  have read := read_words wire
  rcases Wire.read_spec (wire.words.flatMap toBeBytes) with
    ⟨error, failed, -⟩ | ⟨other, success, reads⟩
  · rw [read] at failed
    cases failed
  · rw [read] at success
    obtain rfl := Except.ok.inj success
    exact reads

theorem Wire.Reads.ndigits_eq {buf : Bytes} {wire : Wire} (reads : Wire.Reads buf wire) :
    ndigits buf = wire.digits.length := by
  rw [reads.digits, List.length_map, List.length_range]

theorem length_flatMap_toBeBytes (words : List UInt16) :
    (words.flatMap toBeBytes).length = 2 * words.length := by
  induction words with
  | nil => rfl
  | cons word words induction =>
      rw [List.flatMap_cons, List.length_append, induction, List.length_cons]
      simp only [toBeBytes, List.length_cons, List.length_nil]
      omega

theorem Decimal.normalForm_wire {decimal : Decimal} {text : String} {wire : Wire}
    (success : decimal.wire text = .ok wire) :
    NormalForm (wire.words.flatMap toBeBytes) := by
  have reads := wire.reads_words
  have groups := reads.groupNumbers_eq
  rw [Decimal.groupNumbers_wire success] at groups
  generalize buffer : wire.words.flatMap toBeBytes = written at reads groups
  have count : decimal.significant.length = ndigits written := by
    rw [groups, List.length_map, List.length_range]
  refine ⟨?_, ?_, ?_, ?_, ?_, ?_⟩
  · rw [← buffer, length_flatMap_toBeBytes, buffer, reads.ndigits_eq, Wire.words,
      List.length_append]
    rfl
  · intro index within
    apply decimal.significant_lt
    rw [groups]
    exact List.mem_map_of_mem (List.mem_range.mpr within)
  · intro nonempty
    obtain ⟨rest, more⟩ := Nat.exists_eq_add_one.mpr nonempty
    rw [more, List.range_succ_eq_map, List.map_cons] at groups
    exact decimal.significant_head groups
  · intro nonempty
    obtain ⟨rest, more⟩ := Nat.exists_eq_add_one.mpr nonempty
    have nonzero : decimal.significant ≠ [] := by
      rw [← List.length_pos_iff, count]
      exact nonempty
    have last := decimal.significant_getLast nonzero
    rw [more, Nat.add_sub_cancel]
    rw [more, List.range_succ, List.map_append] at groups
    simpa [groups] using last
  · have sign : wire.sign = decimal.sign := (Decimal.wire_spec success).2.2.1
    rw [Decimal.sign] at sign
    split at sign
    · exact .inr ((reads.sign_iff .negative).mp sign)
    · exact .inl ((reads.sign_iff .positive).mp sign)
  · intro zero
    rw [← reads.value_eq, Decimal.value_wire success] at zero
    have empty : decimal.significant = [] := by
      rw [decimal.significant_eq_nil_iff_magnitude, ← decimal.abs_decimalValue, zero, abs_zero]
    have weight := (Decimal.wire_spec success).2.1
    have sign := (Decimal.wire_spec success).2.2.1
    rw [Decimal.weight, if_pos empty] at weight
    rw [Decimal.sign, if_neg (by simp [empty])] at sign
    refine ⟨by rw [← count, empty]; rfl, ?_, (reads.sign_iff .positive).mp sign⟩
    have still : (wordAt written 1).toInt16 = 0 := by
      rw [← reads.weight]
      exact (Option.some.inj weight).symm
    have word := congrArg Int16.toUInt16 still
    rwa [UInt16.toUInt16_toInt16] at word

theorem decimal_of_encode {text : String} {out after : Bytes}
    (accepted : encode text out = (.ok (), after)) (notSpecial : Numeric.special text = none) :
    ∃ decimal wire, Decimal.parse text = some decimal ∧ decimal.wire text = .ok wire ∧
      after = out ++ wire.words.flatMap toBeBytes := by
  rw [encode] at accepted
  split at accepted
  · simp at accepted
  rename_i wire success
  obtain ⟨-, rfl⟩ := Prod.ext_iff.mp accepted
  rw [wireOf, notSpecial] at success
  cases parsed : Decimal.parse text with
  | none => simp [parsed] at success
  | some decimal =>
      rw [parsed] at success
      exact ⟨decimal, wire, rfl, success, rfl⟩

/-- What is written for a number is in normal form and denotes the number of the text, and every
accepted text of the number with as many decimal places writes the same. -/
theorem encode_canonical {text : String} {out after : Bytes}
    (accepted : encode text out = (.ok (), after)) (notSpecial : Numeric.special text = none) :
    ∃ written negative integer fraction,
      after = out ++ written ∧ NormalForm written ∧ Spells text negative integer fraction ∧
      wireNumber written = decimalValue negative integer fraction ∧
      ∀ other otherOut otherAfter otherNegative otherInteger otherFraction,
        encode other otherOut = (.ok (), otherAfter) → Numeric.special other = none →
        Spells other otherNegative otherInteger otherFraction →
        decimalValue otherNegative otherInteger otherFraction =
          decimalValue negative integer fraction →
        otherFraction.length = fraction.length → otherAfter = otherOut ++ written := by
  obtain ⟨decimal, wire, parsed, success, rfl⟩ := decimal_of_encode accepted notSpecial
  refine ⟨_, decimal.negative, decimal.integer, decimal.fraction, rfl,
    Decimal.normalForm_wire success, (Decimal.spells parsed).1, ?_, ?_⟩
  · rw [← wire.reads_words.value_eq, Decimal.value_wire success]
  · intro other otherOut otherAfter otherNegative otherInteger otherFraction otherAccepted
      otherNotSpecial spells same places
    obtain ⟨otherDecimal, otherWire, otherParsed, otherSuccess, rfl⟩ :=
      decimal_of_encode otherAccepted otherNotSpecial
    -- the spelling given is the one the text is split by
    obtain ⟨sign, parts⟩ := Decimal.parse_spec otherParsed
    obtain ⟨signSpelled, partsSpelled⟩ := spells.split
    rw [signSpelled] at sign
    rw [partsSpelled] at parts
    obtain ⟨integer, fraction⟩ := Prod.mk.inj parts
    rw [← sign, ← integer, ← fraction] at same
    rw [← fraction] at places
    rw [Decimal.wire_unique otherSuccess success same places]

/-- Zeros in front leave no group and no trace in the weight. -/
theorem encode_canonical_padded :
    ∃ written, [7, 0, 2, 0, 0, 64, 0, 0, 2, 0, 12, 19, 136] = [7] ++ written ∧
      NormalForm written := by
  obtain ⟨written, -, -, -, appended, normal, -⟩ :=
    @encode_canonical "-00012.50" [7] [7, 0, 2, 0, 0, 64, 0, 0, 2, 0, 12, 19, 136] rfl rfl
  exact ⟨written, appended, normal⟩

/-! ## The accepted texts -/

theorem Decimal.wire_ok_iff (decimal : Decimal) (text : String) :
    (∃ wire, decimal.wire text = .ok wire) ↔
      decimal.fraction.length ≤ MAX_DSCALE ∧ decimal.weight ≠ none ∧
        decimal.significant.length < 2 ^ 16 := by
  rw [Decimal.wire]
  cases decimal.weight with
  | none => simp
  | some weight =>
      by_cases count : decimal.significant.length < 2 ^ 16
      · by_cases scale : decimal.fraction.length ≤ MAX_DSCALE
        · simp only [dif_pos count, if_pos scale]
          exact iff_of_true ⟨_, rfl⟩ ⟨scale, by simp, count⟩
        · simp only [dif_pos count, if_neg scale]
          exact iff_of_false (by simp) fun fits => scale fits.1
      · simp only [dif_neg count]
        exact iff_of_false (by simp) fun fits => count fits.2.2

theorem Decimal.weight_ne_none (decimal : Decimal) (nonempty : decimal.significant ≠ []) :
    decimal.weight ≠ none ↔
      -2 ^ 15 ≤ (decimal.integerGroups - 1 - decimal.leadingZeros : Int) ∧
        (decimal.integerGroups - 1 - decimal.leadingZeros : Int) < 2 ^ 15 := by
  rw [Decimal.weight, if_neg nonempty]
  by_cases bounds : -2 ^ 15 ≤ (decimal.integerGroups - 1 - decimal.leadingZeros : Int) ∧
      (decimal.integerGroups - 1 - decimal.leadingZeros : Int) < 2 ^ 15
  · simp only [if_pos bounds]
    exact iff_of_true (by simp) bounds
  · simp only [if_neg bounds]
    exact iff_of_false (by simp) bounds

/-- The places of the first and the last significant group. -/
theorem Decimal.significant_places (decimal : Decimal) (nonempty : decimal.significant ≠ []) :
    IsGreatest {place | digitAt NBASE decimal.magnitude place ≠ 0}
        (decimal.integerGroups - 1 - decimal.leadingZeros) ∧
      IsLeast {place | digitAt NBASE decimal.magnitude place ≠ 0}
        (decimal.integerGroups - 1 - decimal.leadingZeros - (decimal.significant.length - 1)) := by
  rw [decimal.magnitude_eq_significant]
  have below := decimal.significant_lt
  constructor
  · obtain ⟨head, rest, cons⟩ := List.exists_cons_of_ne_nil nonempty
    have nonzero := decimal.significant_head cons
    rw [cons] at below ⊢
    exact isGreatest_place (by decide) below nonzero _
  · have nonzero := decimal.significant_getLast nonempty
    have front : decimal.significant.dropLast ++ [decimal.significant.getLast nonempty] =
        decimal.significant := List.dropLast_append_getLast nonempty
    have length : (decimal.significant.length - 1 : Int) = decimal.significant.dropLast.length := by
      have atLeastOne := List.length_pos_iff.mpr nonempty
      rw [List.length_dropLast]
      omega
    rw [length]
    rw [← front] at below
    have least := isLeast_place (by decide) below nonzero
      (decimal.integerGroups - 1 - decimal.leadingZeros)
    rwa [front] at least

theorem Decimal.no_place (decimal : Decimal) (empty : decimal.significant = []) (place : Int) :
    digitAt NBASE decimal.magnitude place = 0 := by
  rw [decimal.magnitude_eq_significant, empty, digitAt_placed (by decide) (by simp)]
  exact ite_self _

/-- The wire can hold a number exactly when it can hold the weight of the first significant group
and the count of the significant groups. -/
theorem Decimal.fits_iff (decimal : Decimal) :
    decimal.weight ≠ none ∧ decimal.significant.length < 2 ^ 16 ↔
      ∀ first last, IsGreatest {place | digitAt NBASE decimal.magnitude place ≠ 0} first →
        IsLeast {place | digitAt NBASE decimal.magnitude place ≠ 0} last →
          (-2 ^ 15 ≤ first ∧ first < 2 ^ 15) ∧ first - last + 1 ≤ 65535 := by
  by_cases empty : decimal.significant = []
  · refine iff_of_true ⟨by simp [Decimal.weight, empty], by simp [empty]⟩ ?_
    intro first last greatest
    exact absurd (decimal.no_place empty first) greatest.1
  · obtain ⟨greatest, least⟩ := decimal.significant_places empty
    have count (length : Nat) (first : Int) :
        length < 2 ^ 16 ↔ first - (first - (length - 1)) + 1 ≤ 65535 := by omega
    rw [decimal.weight_ne_none empty, count]
    constructor
    · intro fits first last isGreatest isLeast
      rw [isGreatest.unique greatest, isLeast.unique least]
      exact fits
    · intro fits
      exact fits _ _ greatest least

theorem special_eq_none {text : String} :
    Numeric.special text = none ↔ text ∉ ["NaN", "Infinity", "inf", "-Infinity", "-inf"] := by
  unfold Numeric.special
  split <;> simp_all

theorem encode_ok_iff {text : String} {out after : Bytes} :
    encode text out = (.ok (), after) ↔
      ∃ wire, wireOf text = .ok wire ∧ after = out ++ wire.words.flatMap toBeBytes := by
  rw [encode]
  cases wireOf text with
  | error error => simp
  | ok wire => simp [writeWords, eq_comm]

theorem Decimal.magnitude_eq_decimalValue (decimal : Decimal) :
    decimal.magnitude = decimalValue false decimal.integer decimal.fraction := by
  rw [magnitude, decimalValue, if_neg Bool.false_ne_true, one_mul]

theorem wireOf_ok_iff {text : String} (notSpecial : Numeric.special text = none) :
    (∃ wire, wireOf text = .ok wire) ↔
      ∃ decimal, Decimal.parse text = some decimal ∧ ∃ wire, decimal.wire text = .ok wire := by
  rw [wireOf, notSpecial]
  cases Decimal.parse text with
  | none => simp
  | some decimal => simp

/-- A text is accepted exactly when it is a special spelling or a decimal number whose decimal
places, first group and groups the wire can count.  What is accepted is appended, what is not leaves
the buffer as it was. -/
theorem encode_accepts (text : String) (out : Bytes) :
    ((∃ after, encode text out = (.ok (), after)) ↔
      text ∈ ["NaN", "Infinity", "inf", "-Infinity", "-inf"] ∨
        ∃ negative integer fraction, Spells text negative integer fraction ∧
          integer ++ fraction ≠ [] ∧ fraction.length ≤ 0x3FFF ∧
          ∀ first last,
            IsGreatest {place | digitAt 10000 (decimalValue false integer fraction) place ≠ 0}
              first →
            IsLeast {place | digitAt 10000 (decimalValue false integer fraction) place ≠ 0}
              last →
            (-2 ^ 15 ≤ first ∧ first < 2 ^ 15) ∧ first - last + 1 ≤ 65535) ∧
      (∀ after, encode text out = (.ok (), after) →
        ∃ wire, wireOf text = .ok wire ∧ after = out ++ wire.words.flatMap toBeBytes) ∧
      ∀ error after, encode text out = (.error error, after) → after = out := by
  refine ⟨?_, fun after => encode_ok_iff.mp, ?_⟩
  · have accepted :
        (∃ after, encode text out = (.ok (), after)) ↔ ∃ wire, wireOf text = .ok wire := by
      constructor
      · rintro ⟨after, accepted⟩
        obtain ⟨wire, success, -⟩ := encode_ok_iff.mp accepted
        exact ⟨wire, success⟩
      · rintro ⟨wire, success⟩
        exact ⟨_, encode_ok_iff.mpr ⟨wire, success, rfl⟩⟩
    rw [accepted]
    by_cases isSpecial : text ∈ ["NaN", "Infinity", "inf", "-Infinity", "-inf"]
    · obtain ⟨sign, found⟩ := Option.ne_none_iff_exists'.mp (special_eq_none.not_left.mpr isSpecial)
      refine iff_of_true ⟨Wire.special sign, ?_⟩ (.inl isSpecial)
      rw [wireOf, found]
    · rw [wireOf_ok_iff (special_eq_none.mpr isSpecial), or_iff_right isSpecial]
      constructor
      · rintro ⟨decimal, parsed, wire⟩
        obtain ⟨scale, fits⟩ := (decimal.wire_ok_iff text).mp wire
        obtain ⟨spells, digits⟩ := Decimal.spells parsed
        rw [decimal.fits_iff, decimal.magnitude_eq_decimalValue] at fits
        exact ⟨_, _, _, spells, digits, scale, fits⟩
      · rintro ⟨negative, integer, fraction, spells, digits, scale, fits⟩
        have parsed := Decimal.parse_of_spells spells digits
        refine ⟨_, parsed, (Decimal.wire_ok_iff _ text).mpr ⟨scale, ?_⟩⟩
        rw [Decimal.fits_iff, Decimal.magnitude_eq_decimalValue]
        exact fits
  · intro error after failed
    rw [encode] at failed
    split at failed
    · exact (Prod.mk.inj failed).2.symm
    · simp at failed

end Numeric
end Pyronova
