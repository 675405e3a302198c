import Pyronova.Json

/-!
# The integer literals of a JSON text

The integers of a value are those of its literals, in the order they stand in the text, the values
of names that are given twice included.  Every one of them is spelled out in the text it was read
from.
-/

namespace Json

variable {F : Type*}

mutual

/-- The integers of a value, in order. -/
def integers : Value F → List Int
  | .int number => [number]
  | .array items => itemIntegers items
  | .object members => memberIntegers members
  | _ => []

def itemIntegers : List (Value F) → List Int
  | [] => []
  | item :: items => integers item ++ itemIntegers items

def memberIntegers : List (Text × Value F) → List Int
  | [] => []
  | (_, value) :: members => integers value ++ memberIntegers members

end

/-- A literal of the integer stands in the text. -/
def Spelled (text : List Char) (number : Int) : Prop :=
  ∃ literal, literal <:+: text ∧ numberKind literal = some .int ∧ readInt literal = number

theorem Spelled.within {text whole : List Char} {number : Int} (spelled : Spelled text number)
    (inside : text <:+: whole) : Spelled whole number := by
  obtain ⟨literal, stands, kind, value⟩ := spelled
  exact ⟨literal, stands.trans inside, kind, value⟩

/-- What was read of a text left an end of it, and every integer of it is spelled there. -/
def Reads (text : List Char) (numbers : List Int) (rest : List Char) : Prop :=
  rest <:+ text ∧ ∀ number ∈ numbers, Spelled text number

theorem Reads.none {text rest : List Char} (left : rest <:+ text) : Reads text [] rest :=
  ⟨left, fun _ member => absurd member List.not_mem_nil⟩

/-- Blanks and marks before what is read do not count. -/
theorem Reads.of_suffix {text whole rest : List Char} {numbers : List Int}
    (reads : Reads text numbers rest) (inside : text <:+ whole) : Reads whole numbers rest :=
  ⟨reads.1.trans inside, fun number member => (reads.2 number member).within inside.isInfix⟩

theorem Reads.left {text middle rest : List Char} {numbers : List Int}
    (reads : Reads text numbers middle) (left : rest <:+ middle) : Reads text numbers rest :=
  ⟨left.trans reads.1, reads.2⟩

theorem Reads.append {text middle rest : List Char} {numbers others : List Int}
    (reads : Reads text numbers middle) (more : Reads middle others rest) :
    Reads text (numbers ++ others) rest := by
  refine ⟨more.1.trans reads.1, fun number member => ?_⟩
  rcases List.mem_append.mp member with first | second
  · exact reads.2 number first
  · exact (more.2 number second).within reads.1.isInfix

theorem skipBlank_suffix (text : List Char) : skipBlank text <:+ text :=
  List.dropWhile_suffix _

/-- What is done to a value that was read leaves the same rest. -/
theorem exists_of_map {α β : Type*} {f : α → β} {read : Option (α × List Char)} {value : β}
    {rest : List Char} (found : (read.map fun pair => (f pair.1, pair.2)) = some (value, rest)) :
    ∃ inner, read = some (inner, rest) ∧ f inner = value := by
  obtain ⟨⟨inner, left⟩, rfl, same⟩ := Option.map_eq_some_iff.mp found
  obtain ⟨rfl, rfl⟩ := Prod.mk.inj same
  exact ⟨inner, rfl, rfl⟩

theorem readString_suffix {text rest : List Char} {read : Text}
    (found : readString text = some (read, rest)) : rest <:+ text := by
  induction text using readString.induct generalizing read with
  | case1 => cases found
  | case2 after =>
      obtain ⟨-, rfl⟩ := Prod.mk.inj (Option.some.inj found)
      exact List.suffix_cons _ _
  | case3 first second third fourth after unit known induction =>
      rw [readString, known] at found
      obtain ⟨inner, more, -⟩ := exists_of_map found
      exact (induction more).trans ⟨['\\', 'u', first, second, third, fourth], rfl⟩
  | case4 first second third fourth after unknown =>
      rw [readString, unknown] at found
      cases found
  | case5 mark after notUnit entry known induction =>
      rw [readString, known] at found
      · obtain ⟨inner, more, -⟩ := exists_of_map found
        exact (induction more).trans ⟨['\\', mark], rfl⟩
      · exact notUnit
  | case6 mark after notUnit unknown =>
      rw [readString, unknown] at found
      · cases found
      · exact notUnit
  | case7 => cases found
  | case8 c after notQuote notUnit notEscape notLast control =>
      rw [readString, if_pos control] at found
      · cases found
      · exact notQuote
      · exact notUnit
      · exact notEscape
      · exact notLast
  | case9 c after notQuote notUnit notEscape notLast visible induction =>
      rw [readString, if_neg visible] at found
      · obtain ⟨inner, more, -⟩ := exists_of_map found
        exact (induction more).trans (List.suffix_cons _ _)
      · exact notQuote
      · exact notUnit
      · exact notEscape
      · exact notLast

theorem readNumber_reads {format : FloatFormat F} {text rest : List Char} {value : Value F}
    (found : readNumber format text = some (value, rest)) : Reads text (integers value) rest := by
  have left : text.dropWhile isNumberChar <:+ text := List.dropWhile_suffix _
  simp only [readNumber] at found
  split at found
  · cases found
  · rename_i kind
    obtain ⟨rfl, rfl⟩ := Prod.mk.inj (Option.some.inj found)
    refine ⟨left, fun number member => ?_⟩
    rw [integers, List.mem_singleton] at member
    exact ⟨_, (List.takeWhile_prefix _).isInfix, kind, member.symm⟩
  · obtain ⟨rfl, rfl⟩ := Prod.mk.inj (Option.some.inj found)
    rw [integers]
    · exact .none left
    all_goals simp

theorem readWord_reads {word text rest : List Char} {plain value : Value F}
    (found : readWord word plain text = some (value, rest)) : value = plain ∧ rest <:+ text := by
  unfold readWord at found
  split at found
  · obtain ⟨rfl, rfl⟩ := Prod.mk.inj (Option.some.inj found)
    exact ⟨rfl, List.drop_suffix _ _⟩
  · cases found

section Steps

variable {format : FloatFormat F} {fuel : Nat}
  (value : ∀ {text read rest}, readValue format fuel text = some (read, rest) →
    Reads text (integers read) rest)
  (items : ∀ {text read rest}, readItems format fuel text = some (read, rest) →
    Reads text (itemIntegers read) rest)
  (members : ∀ {text read rest}, readMembers format fuel text = some (read, rest) →
    Reads text (memberIntegers read) rest)

include items members in
theorem readValue_reads {text rest : List Char} {read : Value F}
    (found : readValue format (fuel + 1) text = some (read, rest)) :
    Reads text (integers read) rest := by
  rw [readValue] at found
  have blank := skipBlank_suffix text
  split at found
  · cases found
  · rename_i first after start
    rw [start] at blank
    have behind : after <:+ text := (List.suffix_cons first after).trans blank
    have marked : skipBlank after <:+ text := (skipBlank_suffix after).trans behind
    split at found
    · obtain ⟨string, tail, rfl⟩ := exists_of_map found
      rw [integers]
      · exact .none ((readString_suffix tail).trans behind)
      all_goals simp
    · split at found
      · split at found
        · obtain ⟨rfl, rfl⟩ := Prod.mk.inj (Option.some.inj found)
          rw [integers, itemIntegers]
          exact .none ((List.tail_suffix _).trans marked)
        · obtain ⟨others, tail, rfl⟩ := exists_of_map found
          rw [integers]
          exact (items tail).of_suffix behind
      · split at found
        · split at found
          · obtain ⟨rfl, rfl⟩ := Prod.mk.inj (Option.some.inj found)
            rw [integers, memberIntegers]
            exact .none ((List.tail_suffix _).trans marked)
          · obtain ⟨others, tail, rfl⟩ := exists_of_map found
            rw [integers]
            exact (members tail).of_suffix behind
        · split at found
          · obtain ⟨rfl, left⟩ := readWord_reads found
            exact .none (left.trans blank)
          · split at found
            · obtain ⟨rfl, left⟩ := readWord_reads found
              exact .none (left.trans blank)
            · split at found
              · obtain ⟨rfl, left⟩ := readWord_reads found
                exact .none (left.trans blank)
              · exact (readNumber_reads found).of_suffix blank

include value items in
theorem readItems_reads {text rest : List Char} {read : List (Value F)}
    (found : readItems format (fuel + 1) text = some (read, rest)) :
    Reads text (itemIntegers read) rest := by
  rw [readItems] at found
  split at found
  · cases found
  · rename_i item after first
    have head := value first
    have blank := skipBlank_suffix after
    split at found
    · rename_i more comma
      obtain ⟨others, tail, rfl⟩ := exists_of_map found
      rw [comma] at blank
      rw [itemIntegers]
      exact head.append ((items tail).of_suffix ((List.suffix_cons _ _).trans blank))
    · rename_i more close
      obtain ⟨rfl, rfl⟩ := Prod.mk.inj (Option.some.inj found)
      rw [close] at blank
      rw [itemIntegers, itemIntegers, List.append_nil]
      exact head.left ((List.suffix_cons _ _).trans blank)
    · cases found

include value members in
theorem readMembers_reads {text rest : List Char} {read : List (Text × Value F)}
    (found : readMembers format (fuel + 1) text = some (read, rest)) :
    Reads text (memberIntegers read) rest := by
  rw [readMembers] at found
  have blank := skipBlank_suffix text
  split at found
  · rename_i after quote
    rw [quote] at blank
    split at found
    · cases found
    · rename_i name behind string
      have named := (readString_suffix string).trans ((List.suffix_cons _ _).trans blank)
      have between := (skipBlank_suffix behind).trans named
      split at found
      · rename_i after colon
        rw [colon] at between
        split at found
        · cases found
        · rename_i given after first
          have head := (value first).of_suffix ((List.suffix_cons _ _).trans between)
          have last := skipBlank_suffix after
          split at found
          · rename_i more comma
            obtain ⟨others, tail, rfl⟩ := exists_of_map found
            rw [comma] at last
            rw [memberIntegers]
            exact head.append ((members tail).of_suffix ((List.suffix_cons _ _).trans last))
          · rename_i more close
            obtain ⟨rfl, rfl⟩ := Prod.mk.inj (Option.some.inj found)
            rw [close] at last
            rw [memberIntegers, memberIntegers, List.append_nil]
            exact head.left ((List.suffix_cons _ _).trans last)
          · cases found
      · cases found
  · cases found

end Steps

theorem readAll_reads (format : FloatFormat F) (fuel : Nat) :
    (∀ {text read rest}, readValue format fuel text = some (read, rest) →
      Reads text (integers read) rest) ∧
    (∀ {text read rest}, readItems format fuel text = some (read, rest) →
      Reads text (itemIntegers read) rest) ∧
    ∀ {text read rest}, readMembers format fuel text = some (read, rest) →
      Reads text (memberIntegers read) rest := by
  induction fuel with
  | zero =>
      refine ⟨?_, ?_, ?_⟩
      · intro text read rest found
        cases found
      · intro text read rest found
        cases found
      · intro text read rest found
        cases found
  | succ fuel induction =>
      obtain ⟨value, items, members⟩ := induction
      refine ⟨?_, ?_, ?_⟩
      · intro text read rest found
        exact readValue_reads items members found
      · intro text read rest found
        exact readItems_reads value items found
      · intro text read rest found
        exact readMembers_reads value members found

/-- Every integer of the value of a text is spelled out in it. -/
theorem spelled_of_read {format : FloatFormat F} {text : List Char} {value : Value F}
    (found : read format text = some value) : ∀ number ∈ integers value, Spelled text number := by
  unfold read at found
  split at found
  · rename_i whole
    split at found
    · obtain rfl := Option.some.inj found
      exact ((readAll_reads format _).1 whole).2
    · cases found
  · cases found

/-! ## The length of a literal -/

/-- An integer literal is digits, behind a minus if the number is negative. -/
theorem digits_of_int {literal : List Char} (kind : numberKind literal = some .int) :
    DecimalDigits.AllDigits (withoutMinus literal) ∧
      (readInt literal).natAbs = DecimalDigits.value (withoutMinus literal) := by
  constructor
  · simp only [numberKind] at kind
    split at kind
    · cases kind
    · split at kind
      · rename_i whole
        intro digit member
        have digits : (withoutMinus literal).takeWhile Char.isDigit = withoutMinus literal := by
          have parts :=
            List.takeWhile_append_dropWhile (p := Char.isDigit) (l := withoutMinus literal)
          rwa [whole, List.append_nil] at parts
        rw [← digits] at member
        exact List.mem_takeWhile_imp member
      · split at kind
        · cases kind
        · split at kind
          · cases kind
          · cases kind
  · unfold readInt withoutMinus
    split
    · simp
    · rfl

/-- A spelled number has as many digits in a row as its size takes. -/
theorem Spelled.exists_digits {text : List Char} {number : Int} (spelled : Spelled text number) :
    ∃ digits, digits <:+: text ∧ DecimalDigits.AllDigits digits ∧
      number.natAbs < 10 ^ digits.length := by
  obtain ⟨literal, inside, kind, rfl⟩ := spelled
  obtain ⟨all, value⟩ := digits_of_int kind
  have unsigned : withoutMinus literal <:+: literal := by
    rcases withoutMinus_eq literal with same | signed
    · rw [← same]
    · rw [signed]
      exact (List.suffix_cons _ _).isInfix
  refine ⟨withoutMinus literal, unsigned.trans inside, all, ?_⟩
  rw [value]
  exact DecimalDigits.value_lt all

end Json
