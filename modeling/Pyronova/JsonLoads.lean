import Pyronova.Delimiter
import Pyronova.JsonIntegers
import Pyronova.Response

/-!
# Decoding JSON

A text is decoded by a fast decoder, which holds an integer only within a word, unless a run of
digits in it is long enough to spell a wider one: then by an exact decoder.
-/

namespace Pyronova

/-- The shortest digit run that can spell an integer outside `i64::MIN..=u64::MAX`. -/
def WIDE_DIGITS : Nat := 19

/-- `u8::is_ascii_digit`. -/
def isAsciiDigit (byte : UInt8) : Bool := 48 ≤ byte.toNat && byte.toNat ≤ 57

/-- Whether a run of that many digits stands anywhere in the text. -/
def mayHoldWideInteger (text : Bytes) : Bool :=
  (text.splitOnP fun byte => !isAsciiDigit byte).any fun run => WIDE_DIGITS ≤ run.length

/-- The two decoders of an interpreter. -/
structure Decoders (Decoded : Type*) where
  fast : Bytes → Decoded
  exact : Bytes → Decoded

def Decoders.loads {Decoded : Type*} (decoders : Decoders Decoded) (text : Bytes) : Decoded :=
  if mayHoldWideInteger text then decoders.exact text else decoders.fast text

/-- The integers the fast decoder holds. -/
def heldByWord (number : Int) : Prop := -2 ^ 63 ≤ number ∧ number ≤ 2 ^ 64 - 1

/-! ## Runs of digits -/

theorem mayHoldWideInteger_of_run {run text : Bytes} (inside : run <:+: text)
    (digits : ∀ byte ∈ run, isAsciiDigit byte = true) (long : WIDE_DIGITS ≤ run.length) :
    mayHoldWideInteger text = true := by
  have clear : ∀ byte ∈ run, (!isAsciiDigit byte) = false := fun byte own => by
    rw [digits byte own]
    rfl
  obtain ⟨part, member, within⟩ := List.exists_part_of_infix inside clear
  exact List.any_eq_true.mpr ⟨part, member, decide_eq_true (long.trans within.length_le)⟩

/-- A digit is one byte, which is no part of another character. -/
theorem utf8EncodeChar_of_isDigit {digit : Char} (isDigit : digit.isDigit = true) :
    ∃ byte, String.utf8EncodeChar digit = [byte] ∧ isAsciiDigit byte = true := by
  have bounds : 48 ≤ digit.toNat ∧ digit.toNat ≤ 57 := by
    simpa [Char.isDigit, UInt32.le_iff_toNat_le] using isDigit
  refine ⟨asciiByte digit, utf8EncodeChar_ascii (by omega), ?_⟩
  have byte : (asciiByte digit).toNat = digit.toNat := by
    rw [asciiByte, UInt8.toNat_ofNat', Nat.mod_eq_of_lt (by omega)]
  rw [isAsciiDigit, byte, Bool.and_eq_true, decide_eq_true_eq, decide_eq_true_eq]
  exact bounds

theorem encoded_digits {digits : List Char} (all : DecimalDigits.AllDigits digits) :
    (digits.flatMap String.utf8EncodeChar).length = digits.length ∧
      ∀ byte ∈ digits.flatMap String.utf8EncodeChar, isAsciiDigit byte = true := by
  induction digits with
  | nil => exact ⟨rfl, fun _ member => absurd member List.not_mem_nil⟩
  | cons digit digits induction =>
      obtain ⟨here, later⟩ := List.forall_mem_cons.mp all
      obtain ⟨length, bytes⟩ := induction later
      obtain ⟨byte, encoded, isDigit⟩ := utf8EncodeChar_of_isDigit here
      rw [List.flatMap_cons, encoded]
      exact ⟨congrArg (· + 1) length, List.forall_mem_cons.mpr ⟨isDigit, bytes⟩⟩

/-- A text that spells an integer no word holds goes to the exact decoder. -/
theorem mayHoldWideInteger_of_spelled {text : List Char} {number : Int}
    (spelled : Json.Spelled text number) (wide : ¬heldByWord number) :
    mayHoldWideInteger (utf8Encode (String.ofList text)) = true := by
  obtain ⟨digits, ⟨front, back, rfl⟩, all, small⟩ := spelled.exists_digits
  obtain ⟨length, bytes⟩ := encoded_digits all
  have long : WIDE_DIGITS ≤ digits.length := by
    by_contra short
    have few : digits.length ≤ 18 := by
      rw [WIDE_DIGITS] at short
      omega
    have below := small.trans_le (Nat.pow_le_pow_right (by decide) few)
    rw [heldByWord] at wide
    omega
  refine mayHoldWideInteger_of_run ?_ bytes (long.trans_eq length.symm)
  rw [utf8Encode_ofList, List.flatMap_append, List.flatMap_append]
  exact ⟨_, _, rfl⟩

section Decoding

variable {F : Type*} {format : Json.FloatFormat F} {text : List Char} {value : Json.Value F}

theorem eq_map_of_forall₂ {numbers : List Int} {decoded : List (Json.Value F)}
    (held : ∀ number ∈ numbers, heldByWord number)
    (made : List.Forall₂ (fun number result => heldByWord number → result = .int number)
      numbers decoded) : decoded = numbers.map .int := by
  induction made with
  | nil => rfl
  | cons first _ induction =>
      obtain ⟨here, later⟩ := List.forall_mem_cons.mp held
      rw [List.map_cons, first here, induction later]

/-- A text goes to the fast decoder only if a word holds its integers. -/
theorem heldByWord_of_narrow (found : Json.read format text = some value)
    (narrow : mayHoldWideInteger (utf8Encode (String.ofList text)) = false) :
    ∀ number ∈ Json.integers value, heldByWord number := by
  intro number member
  by_contra wide
  have held := mayHoldWideInteger_of_spelled (Json.spelled_of_read found number member) wide
  rw [narrow] at held
  cases held

end Decoding

/-- A JSON text with an integer that no word holds goes to the exact decoder, so that with a fast
decoder that is exact on what a word holds and an exact one that always is, every integer of every
text that is decoded is exact.  `Decoders` give what they make of the integers, in order. -/
theorem loads_exact {F : Type*} (format : Json.FloatFormat F)
    (decoders : Decoders (Option (List (Json.Value F))))
    (fastExact : ∀ text value decoded, Json.read format text = some value →
      decoders.fast (utf8Encode (String.ofList text)) = some decoded →
        List.Forall₂ (fun number made => heldByWord number → made = .int number)
          (Json.integers value) decoded)
    (exactExact : ∀ text value decoded, Json.read format text = some value →
      decoders.exact (utf8Encode (String.ofList text)) = some decoded →
        decoded = (Json.integers value).map .int)
    (text : List Char) (value : Json.Value F) (found : Json.read format text = some value) :
    ((∃ number ∈ Json.integers value, ¬(-2 ^ 63 ≤ number ∧ number ≤ 2 ^ 64 - 1)) →
      decoders.loads (utf8Encode (String.ofList text)) =
        decoders.exact (utf8Encode (String.ofList text))) ∧
    ∀ decoded, decoders.loads (utf8Encode (String.ofList text)) = some decoded →
      decoded = (Json.integers value).map .int := by
  constructor
  · rintro ⟨number, member, wide⟩
    have spelled := Json.spelled_of_read found number member
    exact if_pos (mayHoldWideInteger_of_spelled spelled wide)
  · intro decoded result
    cases narrow : mayHoldWideInteger (utf8Encode (String.ofList text)) with
    | true =>
        rw [Decoders.loads, narrow] at result
        exact exactExact text value decoded found result
    | false =>
        rw [Decoders.loads, narrow] at result
        have held := heldByWord_of_narrow found narrow
        have made := fastExact text value decoded found result
        exact eq_map_of_forall₂ held made

theorem numberKind_zero : Json.numberKind ['0', '.', '0'] = some .float := rfl

theorem finite_unit (number : Unit) : Json.Float.finite () = .finite number := rfl

/-- Floats of which only that they are floats is kept. -/
def someFloat : Json.FloatFormat Unit where
  write := fun _ => ['0', '.', '0']
  read := fun _ => .finite ()
  literal := fun _ => numberKind_zero
  read_write := finite_unit

/-- Decoders that read the text and make floats of what a word does not hold, and of nothing. -/
def sampleDecoders : Decoders (Option (List (Json.Value Unit))) where
  fast := fun bytes => (utf8Decode bytes).bind fun text =>
    (Json.read someFloat text.toList).map fun value => (Json.integers value).map fun number =>
      if -2 ^ 63 ≤ number ∧ number ≤ 2 ^ 64 - 1 then .int number else .float (.finite ())
  exact := fun bytes => (utf8Decode bytes).bind fun text =>
    (Json.read someFloat text.toList).map fun value => (Json.integers value).map .int

theorem sampleDecoders_fast (text : List Char) (value : Json.Value Unit)
    (found : Json.read someFloat text = some value) :
    sampleDecoders.fast (utf8Encode (String.ofList text)) = some ((Json.integers value).map
      fun number => if -2 ^ 63 ≤ number ∧ number ≤ 2 ^ 64 - 1 then .int number
        else .float (.finite ())) := by
  simp [sampleDecoders, found]

theorem sampleDecoders_exact (text : List Char) (value : Json.Value Unit)
    (found : Json.read someFloat text = some value) :
    sampleDecoders.exact (utf8Encode (String.ofList text)) =
      some ((Json.integers value).map .int) := by
  simp [sampleDecoders, found]

/-- An array of an integer that no word holds and one that a word does. -/
theorem loads_exact_sample :
    sampleDecoders.loads (utf8Encode (String.ofList
        (Json.write someFloat (.array [.int 18446744073709551616, .int 7])))) =
      some [.int 18446744073709551616, .int 7] := by
  have found : Json.read someFloat
      (Json.write someFloat (.array [.int 18446744073709551616, .int 7])) =
        some (.array [.int 18446744073709551616, .int 7]) := by
    rw [Json.read_write]
    simp [Json.isFinite, Json.areFinite, Json.join, Json.joinItems]
  have integers : Json.integers (.array [.int 18446744073709551616, .int 7] : Json.Value Unit) =
      [18446744073709551616, 7] := by
    simp [Json.integers, Json.itemIntegers]
  have exact := (loads_exact someFloat sampleDecoders ?_ ?_ _ _ found).1
  · rw [exact ⟨18446744073709551616, by simp [integers], by decide⟩,
      sampleDecoders_exact _ _ found, integers]
    rfl
  · intro text value decoded read made
    rw [sampleDecoders_fast text value read] at made
    rw [← Option.some.inj made, List.forall₂_map_right_iff, List.forall₂_same]
    exact fun number _ held => if_pos held
  · intro text value decoded read made
    rw [sampleDecoders_exact text value read] at made
    exact (Option.some.inj made).symm

end Pyronova
