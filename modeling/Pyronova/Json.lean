import Mathlib.Tactic
import Pyronova.DecimalDigits

/-!
# JSON texts

A value is written as a text of ASCII characters, the way `json.dumps` writes it, and a text is read
by the grammar of JSON.  Strings are lists of code points, so that they may hold lone surrogates: a
high one and a low one after it come back as the character they stand for together.  NaN and the
infinities are written as words that are not in the grammar.
-/

namespace Json

/-- Surrogates included. -/
abbrev CodePoint := Fin 0x110000

abbrev Text := List CodePoint

def codePoint (c : Char) : CodePoint := ⟨c.toNat, by
  rcases c.valid with low | high
  · exact low.trans (by decide)
  · exact high.2⟩

/-- The code point of a number in their range. -/
def point (number : Nat) : CodePoint := Fin.ofNat _ number

theorem val_point {number : Nat} (small : number < 0x110000) : (point number).val = number :=
  Nat.mod_eq_of_lt small

theorem point_val (given : CodePoint) : point given.val = given :=
  Fin.ext (Nat.mod_eq_of_lt given.isLt)

/-- The text of a string without lone surrogates. -/
def ofString (string : String) : Text := string.toList.map codePoint

/-- A floating-point number. -/
inductive Float (F : Type*)
  | finite (number : F)
  | nan
  | infinity (negative : Bool)
  deriving DecidableEq, Repr

inductive Value (F : Type*)
  | null
  | bool (value : Bool)
  | int (number : Int)
  | float (number : Float F)
  | string (text : Text)
  | array (items : List (Value F))
  | object (members : List (Text × Value F))

/-! ## Numbers -/

def isNumberChar (c : Char) : Bool := c.isDigit || ['-', '+', '.', 'e', 'E'].contains c

inductive NumberKind
  | int
  | float
  deriving DecidableEq, Repr

def withoutMinus : List Char → List Char
  | '-' :: digits => digits
  | digits => digits

def withoutSign : List Char → List Char
  | '+' :: digits => digits
  | digits => withoutMinus digits

/-- What follows a fraction, if one is there; `none` for a point without digits. -/
def afterFraction : List Char → Option (List Char)
  | '.' :: rest =>
      if rest.takeWhile Char.isDigit = [] then none else some (rest.dropWhile Char.isDigit)
  | rest => some rest

/-- Nothing, or an exponent and nothing after it. -/
def isExponent : List Char → Bool
  | [] => true
  | mark :: rest =>
      (mark == 'e' || mark == 'E') && withoutSign rest != [] && (withoutSign rest).all Char.isDigit

/-- The kind of number that a literal is. -/
def numberKind (literal : List Char) : Option NumberKind :=
  let digits := (withoutMinus literal).takeWhile Char.isDigit
  let rest := (withoutMinus literal).dropWhile Char.isDigit
  if digits = [] ∨ (digits.head? = some '0' ∧ digits.length ≠ 1) then none
  else if rest = [] then some .int
  else
    match afterFraction rest with
    | none => none
    | some rest => if isExponent rest then some .float else none

def writeInt (number : Int) : List Char :=
  if number < 0 then '-' :: Nat.toDigits 10 number.natAbs else Nat.toDigits 10 number.natAbs

def readInt : List Char → Int
  | '-' :: digits => -(DecimalDigits.value digits : Int)
  | digits => DecimalDigits.value digits

/-- How the finite floating-point numbers are written and read: as literals with a fraction or an
exponent, from which the number comes back. -/
structure FloatFormat (F : Type*) where
  write : F → List Char
  read : List Char → Float F
  literal : ∀ number, numberKind (write number) = some .float
  read_write : ∀ number, read (write number) = .finite number

variable {F : Type*}

/-! ## Writing -/

/-- `\uXXXX`. -/
def unicodeEscape (unit : Nat) : List Char :=
  ['\\', 'u', Nat.digitChar (unit / 4096 % 16), Nat.digitChar (unit / 256 % 16),
    Nat.digitChar (unit / 16 % 16), Nat.digitChar (unit % 16)]

/-- The two surrogates of a code point beyond the first plane. -/
def highSurrogate (given : Nat) : Nat := 0xd800 + (given - 0x10000) / 0x400

def lowSurrogate (given : Nat) : Nat := 0xdc00 + (given - 0x10000) % 0x400

/-- The escapes of two characters. -/
def shortEscapes : List (Char × CodePoint) :=
  [('"', 0x22), ('\\', 0x5c), ('/', 0x2f), ('b', 8), ('f', 12), ('n', 10), ('r', 13), ('t', 9)]

/-- A code point in a string; a slash is not escaped. -/
def escape (given : CodePoint) : List Char :=
  match (shortEscapes.filter fun entry => entry.1 != '/').find? fun entry => entry.2 == given with
  | some entry => ['\\', entry.1]
  | none =>
      if 0x20 ≤ given.val ∧ given.val ≤ 0x7e then [Char.ofNat given]
      else if given.val < 0x10000 then unicodeEscape given
      else unicodeEscape (highSurrogate given) ++ unicodeEscape (lowSurrogate given)

def writeString (text : Text) : List Char := '"' :: text.flatMap escape ++ ['"']

def writeFloat (format : FloatFormat F) : Float F → List Char
  | .finite number => format.write number
  | .nan => ['N', 'a', 'N']
  | .infinity false => ['I', 'n', 'f', 'i', 'n', 'i', 't', 'y']
  | .infinity true => ['-', 'I', 'n', 'f', 'i', 'n', 'i', 't', 'y']

mutual

def write (format : FloatFormat F) : Value F → List Char
  | .null => ['n', 'u', 'l', 'l']
  | .bool true => ['t', 'r', 'u', 'e']
  | .bool false => ['f', 'a', 'l', 's', 'e']
  | .int number => writeInt number
  | .float number => writeFloat format number
  | .string text => writeString text
  | .array items => '[' :: writeItems format items ++ [']']
  | .object members => '\x7b' :: writeMembers format members ++ ['\x7d']

def writeItems (format : FloatFormat F) : List (Value F) → List Char
  | [] => []
  | [last] => write format last
  | item :: items => write format item ++ [',', ' '] ++ writeItems format items

def writeMembers (format : FloatFormat F) : List (Text × Value F) → List Char
  | [] => []
  | [(name, last)] => writeString name ++ [':', ' '] ++ write format last
  | (name, value) :: members =>
      writeString name ++ [':', ' '] ++ write format value ++ [',', ' '] ++
        writeMembers format members

end

/-! ## Reading -/

def isWhitespace (c : Char) : Bool := [' ', '\t', '\n', '\r'].contains c

def skipBlank (text : List Char) : List Char := text.dropWhile isWhitespace

def hexValue (c : Char) : Option Nat :=
  if c.isDigit then some (c.toNat - '0'.toNat)
  else if 'a' ≤ c ∧ c ≤ 'f' then some (c.toNat - 'a'.toNat + 10)
  else if 'A' ≤ c ∧ c ≤ 'F' then some (c.toNat - 'A'.toNat + 10)
  else none

/-- The code point of four hexadecimal digits. -/
def hexUnit (first second third fourth : Char) : Option CodePoint :=
  match hexValue first, hexValue second, hexValue third, hexValue fourth with
  | some first, some second, some third, some fourth =>
      some (point (((first * 16 + second) * 16 + third) * 16 + fourth))
  | _, _, _, _ => none

def isHigh (given : CodePoint) : Bool := 0xd800 ≤ given.val && given.val < 0xdc00

def isLow (given : CodePoint) : Bool := 0xdc00 ≤ given.val && given.val < 0xe000

/-- The code point that two surrogates stand for. -/
def surrogatePair (high low : CodePoint) : CodePoint :=
  point (0x10000 + (high.val - 0xd800) * 0x400 + (low.val - 0xdc00))

/-- One more code point in front; a high surrogate joins a low one. -/
def prepend (given : CodePoint) : Text → Text
  | [] => [given]
  | next :: rest =>
      if isHigh given && isLow next then surrogatePair given next :: rest
      else given :: next :: rest

/-- The text of a string, after the opening quote, and what follows the closing one. -/
def readString : List Char → Option (Text × List Char)
  | [] => none
  | '"' :: rest => some ([], rest)
  | '\\' :: 'u' :: first :: second :: third :: fourth :: rest =>
      match hexUnit first second third fourth with
      | some unit => (readString rest).map fun read => (prepend unit read.1, read.2)
      | none => none
  | '\\' :: mark :: rest =>
      match shortEscapes.find? fun entry => entry.1 == mark with
      | some entry => (readString rest).map fun read => (prepend entry.2 read.1, read.2)
      | none => none
  | ['\\'] => none
  | c :: rest =>
      if c.toNat < 0x20 then none
      else (readString rest).map fun read => (prepend (codePoint c) read.1, read.2)

/-- The number at the start of a text. -/
def readNumber (format : FloatFormat F) (text : List Char) : Option (Value F × List Char) :=
  let literal := text.takeWhile isNumberChar
  match numberKind literal with
  | none => none
  | some .int => some (.int (readInt literal), text.dropWhile isNumberChar)
  | some .float => some (.float (format.read literal), text.dropWhile isNumberChar)

/-- A word of the grammar at the start of a text. -/
def readWord (word : List Char) (value : Value F) (text : List Char) :
    Option (Value F × List Char) :=
  if word.isPrefixOf text then some (value, text.drop word.length) else none

mutual

/-- The value at the start of a text, and what follows it. -/
def readValue (format : FloatFormat F) : Nat → List Char → Option (Value F × List Char)
  | 0, _ => none
  | fuel + 1, text =>
      match skipBlank text with
      | [] => none
      | first :: rest =>
          if first = '"' then (readString rest).map fun read => (.string read.1, read.2)
          else if first = '[' then
            if (skipBlank rest).head? = some ']' then some (.array [], (skipBlank rest).tail)
            else (readItems format fuel rest).map fun read => (.array read.1, read.2)
          else if first = '\x7b' then
            if (skipBlank rest).head? = some '\x7d' then some (.object [], (skipBlank rest).tail)
            else (readMembers format fuel rest).map fun read => (.object read.1, read.2)
          else if first = 'n' then readWord ['n', 'u', 'l', 'l'] .null (first :: rest)
          else if first = 't' then readWord ['t', 'r', 'u', 'e'] (.bool true) (first :: rest)
          else if first = 'f' then
            readWord ['f', 'a', 'l', 's', 'e'] (.bool false) (first :: rest)
          else readNumber format (first :: rest)

/-- The items of an array, after the opening bracket or a comma. -/
def readItems (format : FloatFormat F) : Nat → List Char → Option (List (Value F) × List Char)
  | 0, _ => none
  | fuel + 1, text =>
      match readValue format fuel text with
      | none => none
      | some (item, rest) =>
          match skipBlank rest with
          | ',' :: rest => (readItems format fuel rest).map fun read => (item :: read.1, read.2)
          | ']' :: rest => some ([item], rest)
          | _ => none

/-- The members of an object, after the opening brace or a comma. -/
def readMembers (format : FloatFormat F) :
    Nat → List Char → Option (List (Text × Value F) × List Char)
  | 0, _ => none
  | fuel + 1, text =>
      match skipBlank text with
      | '"' :: rest =>
          match readString rest with
          | none => none
          | some (name, rest) =>
              match skipBlank rest with
              | ':' :: rest =>
                  match readValue format fuel rest with
                  | none => none
                  | some (value, rest) =>
                      match skipBlank rest with
                      | ',' :: rest =>
                          (readMembers format fuel rest).map fun read =>
                            ((name, value) :: read.1, read.2)
                      | '\x7d' :: rest => some ([(name, value)], rest)
                      | _ => none
              | _ => none
      | _ => none

end

/-- The value of a whole text. -/
def read (format : FloatFormat F) (text : List Char) : Option (Value F) :=
  match readValue format (text.length + 1) text with
  | some (value, rest) => if skipBlank rest = [] then some value else none
  | none => none

/-! ## Reading back what was written -/

mutual

/-- No number in the value is NaN or infinite. -/
def isFinite : Value F → Bool
  | .float (.finite _) => true
  | .float _ => false
  | .array items => areFinite items
  | .object members => membersFinite members
  | _ => true

def areFinite : List (Value F) → Bool
  | [] => true
  | item :: items => isFinite item && areFinite items

def membersFinite : List (Text × Value F) → Bool
  | [] => true
  | (_, value) :: members => isFinite value && membersFinite members

end

/-- A text whose surrogates are joined where they can be. -/
def joinText : Text → Text := List.foldr prepend []

mutual

/-- A value with every text joined. -/
def join : Value F → Value F
  | .string text => .string (joinText text)
  | .array items => .array (joinItems items)
  | .object members => .object (joinMembers members)
  | value => value

def joinItems : List (Value F) → List (Value F)
  | [] => []
  | item :: items => join item :: joinItems items

def joinMembers : List (Text × Value F) → List (Text × Value F)
  | [] => []
  | (name, value) :: members => (joinText name, join value) :: joinMembers members

end

/-! ### Numbers -/

/-- What follows is no further part of a number. -/
def EndsNumber (rest : List Char) : Prop := ∀ c ∈ rest.head?, isNumberChar c = false

theorem takeWhile_append_of_ends {p : Char → Bool} {front rest : List Char}
    (all : ∀ c ∈ front, p c = true) (ends : ∀ c ∈ rest.head?, p c = false) :
    (front ++ rest).takeWhile p = front ∧ (front ++ rest).dropWhile p = rest := by
  have taken : rest.takeWhile p = [] ∧ rest.dropWhile p = rest := by
    cases rest with
    | nil => exact ⟨rfl, rfl⟩
    | cons c rest =>
        have stop : ¬ p c = true := by simp [ends c rfl]
        exact ⟨List.takeWhile_cons_of_neg stop, List.dropWhile_cons_of_neg stop⟩
  rw [List.takeWhile_append_of_pos all, List.dropWhile_append_of_pos all, taken.1, taken.2,
    List.append_nil]
  exact ⟨rfl, rfl⟩

theorem isNumberChar_of_isDigit {c : Char} (digit : c.isDigit = true) : isNumberChar c = true := by
  rw [isNumberChar, digit, Bool.true_or]

theorem withoutMinus_eq (literal : List Char) :
    literal = withoutMinus literal ∨ literal = '-' :: withoutMinus literal := by
  unfold withoutMinus
  split
  · exact .inr rfl
  · exact .inl rfl

theorem withoutSign_eq (literal : List Char) :
    literal = withoutSign literal ∨ ∃ sign, isNumberChar sign = true ∧
      literal = sign :: withoutSign literal := by
  unfold withoutSign
  split
  · exact .inr ⟨'+', by decide, rfl⟩
  · rcases withoutMinus_eq literal with same | signed
    · exact .inl same
    · exact .inr ⟨'-', by decide, signed⟩

theorem isNumberChar_of_exponent {rest : List Char} (exponent : isExponent rest = true) :
    ∀ c ∈ rest, isNumberChar c = true := by
  cases rest with
  | nil => exact fun c member => absurd member List.not_mem_nil
  | cons mark rest =>
      simp only [isExponent, Bool.and_eq_true, Bool.or_eq_true, beq_iff_eq, List.all_eq_true]
        at exponent
      obtain ⟨⟨marked, -⟩, digits⟩ := exponent
      have markChar : isNumberChar mark = true := by
        rcases marked with rfl | rfl <;> decide
      have restChars : ∀ c ∈ withoutSign rest, isNumberChar c = true :=
        fun c member => isNumberChar_of_isDigit (digits c member)
      rw [List.forall_mem_cons]
      refine ⟨markChar, ?_⟩
      rcases withoutSign_eq rest with same | ⟨sign, signChar, signed⟩
      · rwa [same]
      · rw [signed, List.forall_mem_cons]
        exact ⟨signChar, restChars⟩

theorem isNumberChar_of_fraction {rest after : List Char} (found : afterFraction rest = some after)
    (afterChars : ∀ c ∈ after, isNumberChar c = true) : ∀ c ∈ rest, isNumberChar c = true := by
  unfold afterFraction at found
  split at found
  · rename_i digits
    split at found
    · cases found
    · obtain rfl := Option.some.inj found
      rw [List.forall_mem_cons]
      refine ⟨by decide, fun c member => ?_⟩
      rw [← List.takeWhile_append_dropWhile (p := Char.isDigit) (l := digits)] at member
      rcases List.mem_append.mp member with inDigits | later
      · exact isNumberChar_of_isDigit (List.mem_takeWhile_imp inDigits)
      · exact afterChars c later
  · obtain rfl := Option.some.inj found
    exact afterChars

/-- A literal is made of number characters. -/
theorem isNumberChar_of_kind {literal : List Char} {kind : NumberKind}
    (known : numberKind literal = some kind) : ∀ c ∈ literal, isNumberChar c = true := by
  have unsigned : ∀ c ∈ withoutMinus literal, isNumberChar c = true := by
    intro c member
    rw [← List.takeWhile_append_dropWhile (p := Char.isDigit) (l := withoutMinus literal)] at member
    rcases List.mem_append.mp member with inDigits | later
    · exact isNumberChar_of_isDigit (List.mem_takeWhile_imp inDigits)
    · simp only [numberKind] at known
      split at known
      · cases known
      split at known
      · rename_i empty
        rw [empty] at later
        cases later
      split at known
      · cases known
      · rename_i after found
        split at known
        · rename_i exponent
          exact isNumberChar_of_fraction found (isNumberChar_of_exponent exponent) c later
        · cases known
  rcases withoutMinus_eq literal with same | signed
  · rwa [same]
  · rw [signed, List.forall_mem_cons]
    exact ⟨by decide, unsigned⟩

theorem head_toDigits {number : Nat} (zero : (Nat.toDigits 10 number).head? = some '0') :
    (Nat.toDigits 10 number).length = 1 := by
  rcases Nat.eq_zero_or_pos number with rfl | positive
  · rfl
  · have canonical : Nat.toDigits 10 number = DecimalDigits.stripped (Nat.toDigits 10 number) := by
      have own := DecimalDigits.toDigits_value (DecimalDigits.allDigits_toDigits number)
        (by rwa [DecimalDigits.value_toDigits])
      rwa [DecimalDigits.value_toDigits] at own
    obtain ⟨rest, whole⟩ := List.head?_eq_some_iff.mp zero
    have shorter : (DecimalDigits.stripped ('0' :: rest)).length ≤ rest.length := by
      rw [DecimalDigits.stripped, List.dropWhile_cons_of_pos (by decide)]
      exact (List.dropWhile_suffix _).length_le
    rw [whole] at canonical
    have length := congrArg List.length canonical
    rw [List.length_cons] at length
    omega

theorem withoutMinus_digits {digits : List Char} (all : DecimalDigits.AllDigits digits) :
    withoutMinus digits = digits := by
  unfold withoutMinus
  split
  · rename_i rest
    exact absurd (all '-' List.mem_cons_self) (by decide)
  · rfl

theorem numberKind_digits (literal : List Char) (number : Nat)
    (digits : withoutMinus literal = Nat.toDigits 10 number) : numberKind literal = some .int := by
  have all := DecimalDigits.allDigits_toDigits number
  have spans := @takeWhile_append_of_ends Char.isDigit _ [] all (by simp)
  rw [List.append_nil] at spans
  have nonempty : Nat.toDigits 10 number ≠ [] := by
    have := Nat.length_toDigits_pos (b := 10) (n := number)
    exact List.ne_nil_of_length_pos this
  rw [numberKind, digits, spans.1, spans.2, if_neg, if_pos rfl]
  rintro (empty | ⟨zero, long⟩)
  · exact nonempty empty
  · exact long (head_toDigits zero)

theorem numberKind_writeInt (number : Int) : numberKind (writeInt number) = some .int := by
  apply numberKind_digits _ number.natAbs
  unfold writeInt
  split
  · rfl
  · exact withoutMinus_digits (DecimalDigits.allDigits_toDigits _)

theorem readInt_writeInt (number : Int) : readInt (writeInt number) = number := by
  unfold writeInt
  split
  · rw [readInt, DecimalDigits.value_toDigits]
    omega
  · have all := DecimalDigits.allDigits_toDigits number.natAbs
    have unsigned : readInt (Nat.toDigits 10 number.natAbs) =
        DecimalDigits.value (Nat.toDigits 10 number.natAbs) := by
      unfold readInt
      split
      · rename_i rest whole
        exact absurd (all '-' (whole ▸ List.mem_cons_self)) (by decide)
      · rfl
    rw [unsigned, DecimalDigits.value_toDigits]
    omega

variable (format : FloatFormat F)

theorem readNumber_int (number : Int) {rest : List Char} (ends : EndsNumber rest) :
    readNumber format (writeInt number ++ rest) = some (.int number, rest) := by
  have spans := takeWhile_append_of_ends (isNumberChar_of_kind (numberKind_writeInt number)) ends
  simp only [readNumber, spans.1, spans.2, numberKind_writeInt, readInt_writeInt]

theorem readNumber_float (number : F) {rest : List Char} (ends : EndsNumber rest) :
    readNumber format (format.write number ++ rest) = some (.float (.finite number), rest) := by
  have spans := takeWhile_append_of_ends (isNumberChar_of_kind (format.literal number)) ends
  simp only [readNumber, spans.1, spans.2, format.literal, format.read_write]

/-! ### Strings -/

@[simp] theorem joinText_nil : joinText [] = [] := rfl

@[simp] theorem joinText_cons (given : CodePoint) (text : Text) :
    joinText (given :: text) = prepend given (joinText text) := rfl

theorem hexValue_digitChar {digit : Nat} (small : digit < 16) :
    hexValue (Nat.digitChar digit) = some digit := by
  have all : ∀ digit < 16, hexValue (Nat.digitChar digit) = some digit := by decide
  exact all digit small

theorem readString_unicodeEscape {unit : Nat} (small : unit < 0x10000) (rest : List Char) :
    readString (unicodeEscape unit ++ rest) =
      (readString rest).map fun read => (prepend (point unit) read.1, read.2) := by
  have value : ((unit / 4096 % 16 * 16 + unit / 256 % 16) * 16 + unit / 16 % 16) * 16 + unit % 16 =
      unit := by omega
  have digits : hexUnit (Nat.digitChar (unit / 4096 % 16)) (Nat.digitChar (unit / 256 % 16))
      (Nat.digitChar (unit / 16 % 16)) (Nat.digitChar (unit % 16)) = some (point unit) := by
    simp only [hexUnit, hexValue_digitChar (Nat.mod_lt _ (by decide : 0 < 16)), value]
  simp only [unicodeEscape, List.cons_append, List.nil_append, readString, digits]

theorem isHigh_iff {given : CodePoint} :
    isHigh given = true ↔ 0xd800 ≤ given.val ∧ given.val < 0xdc00 := by
  rw [isHigh, Bool.and_eq_true, decide_eq_true_iff, decide_eq_true_iff]

theorem isLow_iff {given : CodePoint} :
    isLow given = true ↔ 0xdc00 ≤ given.val ∧ given.val < 0xe000 := by
  rw [isLow, Bool.and_eq_true, decide_eq_true_iff, decide_eq_true_iff]

theorem prepend_of_not_high {given : CodePoint} (notHigh : ¬ isHigh given = true) (text : Text) :
    prepend given text = given :: text := by
  cases text <;> simp [prepend, notHigh]

theorem prepend_surrogates {given : CodePoint} (large : 0x10000 ≤ given.val) (text : Text) :
    prepend (point (highSurrogate given)) (prepend (point (lowSurrogate given)) text) =
      prepend given text := by
  have bound := given.isLt
  have high : (point (highSurrogate given)).val = 0xd800 + (given.val - 0x10000) / 0x400 :=
    val_point (by unfold highSurrogate; omega)
  have low : (point (lowSurrogate given)).val = 0xdc00 + (given.val - 0x10000) % 0x400 :=
    val_point (by unfold lowSurrogate; omega)
  have highIsHigh : isHigh (point (highSurrogate given)) = true := by
    rw [isHigh_iff, high]
    omega
  have lowIsLow : isLow (point (lowSurrogate given)) = true := by
    rw [isLow_iff, low]
    omega
  have lowNotHigh : ¬ isHigh (point (lowSurrogate given)) = true := by
    rw [isHigh_iff, low]
    omega
  have notHigh : ¬ isHigh given = true := by
    rw [isHigh_iff]
    omega
  have both : surrogatePair (point (highSurrogate given)) (point (lowSurrogate given)) = given := by
    have value : 0x10000 + (0xd800 + (given.val - 0x10000) / 0x400 - 0xd800) * 0x400 +
        (0xdc00 + (given.val - 0x10000) % 0x400 - 0xdc00) = given := by omega
    rw [surrogatePair, high, low, value, point_val]
  rw [prepend_of_not_high lowNotHigh, prepend_of_not_high notHigh, prepend, highIsHigh, lowIsLow,
    Bool.and_self, if_pos rfl, both]

/-- A character that needs no escape is read as itself. -/
theorem readString_plain {c : Char} (visible : ¬ c.toNat < 0x20) (notQuote : c ≠ '"')
    (notBackslash : c ≠ '\\') (rest : List Char) :
    readString (c :: rest) =
      (readString rest).map fun read => (prepend (codePoint c) read.1, read.2) := by
  rw [readString.eq_def]
  split
  · rename_i whole
    cases whole
  · rename_i whole
    exact absurd (List.cons.inj whole).1 notQuote
  · rename_i whole
    exact absurd (List.cons.inj whole).1 notBackslash
  · rename_i whole
    exact absurd (List.cons.inj whole).1 notBackslash
  · rename_i whole
    exact absurd (List.cons.inj whole).1 notBackslash
  · rename_i whole
    obtain ⟨rfl, rfl⟩ := List.cons.inj whole
    rw [if_neg visible]

theorem readString_escape (given : CodePoint) (rest : List Char) :
    readString (escape given ++ rest) =
      (readString rest).map fun read => (prepend given read.1, read.2) := by
  unfold escape
  split
  · rename_i entry found
    have member := List.mem_of_find?_eq_some found
    have own : entry.2 = given := by simpa using List.find?_some found
    subst own
    have seven : entry ∈ [(('"' : Char), (0x22 : CodePoint)), ('\\', 0x5c), ('b', 8), ('f', 12),
        ('n', 10), ('r', 13), ('t', 9)] := member
    simp only [List.mem_cons, List.not_mem_nil, or_false] at seven
    rcases seven with rfl | rfl | rfl | rfl | rfl | rfl | rfl <;> rfl
  · rename_i notShort
    split
    · rename_i visible
      have value : (Char.ofNat given).toNat = given := by
        have valid : given.val.isValidChar := .inl (by omega)
        rw [Char.ofNat, dif_pos valid]
        rfl
      have other (c : Char) (p : CodePoint) (entry : (c, p) ∈ shortEscapes) (notSlash : c ≠ '/')
          (same : c.toNat = p.val) : Char.ofNat given ≠ c := by
        intro equal
        have listed : (c, p) ∈ shortEscapes.filter fun entry => entry.1 != '/' := by
          simp [entry, notSlash]
        have absent := List.find?_eq_none.mp notShort (c, p) listed
        refine absent (beq_iff_eq.mpr (Fin.ext ?_))
        rw [← value, equal, same]
      have read := readString_plain (c := Char.ofNat given) (by omega)
        (other '"' 0x22 (by decide) (by decide) (by decide))
        (other '\\' 0x5c (by decide) (by decide) (by decide)) rest
      have same : codePoint (Char.ofNat given) = given := Fin.ext value
      rwa [same] at read
    · split
      · rename_i small
        rw [readString_unicodeEscape small, point_val]
      · rename_i large
        have bound := given.isLt
        rw [List.append_assoc, readString_unicodeEscape (by unfold highSurrogate; omega),
          readString_unicodeEscape (by unfold lowSurrogate; omega), Option.map_map]
        congr 1
        funext read
        simp only [Function.comp_apply, prepend_surrogates (Nat.le_of_not_lt large)]

theorem readString_write (text : Text) (rest : List Char) :
    readString (text.flatMap escape ++ '"' :: rest) = some (joinText text, rest) := by
  induction text with
  | nil => rfl
  | cons given text induction =>
      rw [List.flatMap_cons, List.append_assoc, readString_escape, induction]
      rfl

/-- A text without lone surrogates has nothing to join. -/
@[simp] theorem joinText_ofString (string : String) :
    joinText (ofString string) = ofString string := by
  have all : ∀ chars : List Char, joinText (chars.map codePoint) = chars.map codePoint := by
    intro chars
    induction chars with
    | nil => rfl
    | cons c chars induction =>
        have notHigh : ¬ isHigh (codePoint c) = true := by
          rw [isHigh_iff]
          have valid : c.toNat < 0xd800 ∨ 0xdfff < c.toNat ∧ c.toNat < 0x110000 := c.valid
          have own : (codePoint c).val = c.toNat := rfl
          omega
        rw [List.map_cons, joinText_cons, induction, prepend_of_not_high notHigh]
  exact all string.toList

theorem ofString_injective : Function.Injective ofString := by
  intro left right same
  have chars : Function.Injective codePoint := by
    intro c d equal
    have numbers : (codePoint c).val = (codePoint d).val := by rw [equal]
    exact Char.toNat_inj.mp numbers
  exact String.toList_inj.mp (List.map_injective_iff.mpr chars same)

@[simp] theorem ofString_beq (left right : String) :
    (ofString left == ofString right) = (left == right) :=
  Bool.eq_iff_iff.mpr (by simp [ofString_injective.eq_iff])

@[simp] theorem isFinite_array (items : List (Value F)) :
    isFinite (.array items) = areFinite items := rfl

@[simp] theorem isFinite_object (members : List (Text × Value F)) :
    isFinite (.object members) = membersFinite members := rfl

theorem areFinite_iff {items : List (Value F)} :
    areFinite items = true ↔ ∀ item ∈ items, isFinite item = true := by
  induction items with
  | nil => simp [areFinite]
  | cons item items induction => simp [areFinite, induction]

theorem areFinite_map {α : Type*} (items : List α) (f : α → Value F) :
    areFinite (items.map f) = true ↔ ∀ item ∈ items, isFinite (f item) = true :=
  areFinite_iff.trans List.forall_mem_map

/-! ### Values -/

/-- The first character of a value tells it from a blank and from a closing bracket. -/
def Starts (text : List Char) : Prop :=
  ∃ first rest, text = first :: rest ∧ isWhitespace first = false ∧ first ≠ ']' ∧ first ≠ '\x7d'

theorem Starts.append {text : List Char} (starts : Starts text) (rest : List Char) :
    Starts (text ++ rest) := by
  obtain ⟨first, others, rfl, visible, open₁, open₂⟩ := starts
  exact ⟨first, others ++ rest, rfl, visible, open₁, open₂⟩

theorem skipBlank_of_starts {text : List Char} (starts : Starts text) : skipBlank text = text := by
  obtain ⟨first, rest, rfl, visible, -⟩ := starts
  exact List.dropWhile_cons_of_neg (by simp [visible])

theorem starts_of_kind {literal : List Char} {kind : NumberKind}
    (known : numberKind literal = some kind) :
    ∃ first rest, literal = first :: rest ∧ isNumberChar first = true := by
  cases literal with
  | nil => cases known
  | cons first rest => exact ⟨first, rest, rfl, isNumberChar_of_kind known first List.mem_cons_self⟩

/-- A number character is none of the marks of the grammar. -/
theorem isNumberChar_ne {c mark : Char} (number : isNumberChar c = true)
    (other : isNumberChar mark = false) : c ≠ mark := by
  rintro rfl
  rw [number] at other
  cases other

theorem isWhitespace_of_number {c : Char} (number : isNumberChar c = true) :
    isWhitespace c = false := by
  rw [isWhitespace, List.contains_eq_mem, decide_eq_false_iff_not]
  intro member
  simp only [List.mem_cons, List.not_mem_nil, or_false] at member
  rcases member with rfl | rfl | rfl | rfl <;> exact absurd number (by decide)

theorem starts_of_number {literal : List Char} {kind : NumberKind}
    (known : numberKind literal = some kind) : Starts literal := by
  obtain ⟨first, rest, rfl, number⟩ := starts_of_kind known
  exact ⟨first, rest, rfl, isWhitespace_of_number number, isNumberChar_ne number (by decide),
    isNumberChar_ne number (by decide)⟩

theorem starts_write (value : Value F) : Starts (write format value) := by
  cases value with
  | null => exact ⟨'n', _, rfl, by decide, by decide, by decide⟩
  | bool value =>
      cases value with
      | true => exact ⟨'t', _, rfl, by decide, by decide, by decide⟩
      | false => exact ⟨'f', _, rfl, by decide, by decide, by decide⟩
  | int number =>
      rw [write]
      exact starts_of_number (numberKind_writeInt number)
  | float number =>
      rw [write]
      cases number with
      | finite number => exact starts_of_number (format.literal number)
      | nan => exact ⟨'N', _, rfl, by decide, by decide, by decide⟩
      | infinity negative =>
          cases negative with
          | false => exact ⟨'I', _, rfl, by decide, by decide, by decide⟩
          | true => exact ⟨'-', _, rfl, by decide, by decide, by decide⟩
  | string text =>
      rw [write]
      exact ⟨'"', _, rfl, by decide, by decide, by decide⟩
  | array items =>
      rw [write]
      exact ⟨'[', _, rfl, by decide, by decide, by decide⟩
  | object members =>
      rw [write]
      exact ⟨'\x7b', _, rfl, by decide, by decide, by decide⟩

theorem starts_writeItems {items : List (Value F)} (some : items ≠ []) :
    Starts (writeItems format items) := by
  match items with
  | [] => exact absurd rfl some
  | [last] =>
      rw [writeItems]
      exact starts_write format last
  | item :: second :: items =>
      rw [writeItems, List.append_assoc]
      · exact (starts_write format item).append _
      · simp

theorem starts_writeMembers {members : List (Text × Value F)}
    (some : members ≠ []) :
    Starts (writeMembers format members) := by
  match members with
  | [] => exact absurd rfl some
  | [(name, last)] =>
      rw [writeMembers]
      exact ⟨'"', _, rfl, by decide, by decide, by decide⟩
  | (name, value) :: second :: members =>
      rw [writeMembers]
      · exact ⟨'"', _, rfl, by decide, by decide, by decide⟩
      · simp

/-- The characters a value that is no number starts with. -/
def valueMarks : List Char := ['"', '[', '\x7b', 'n', 't', 'f']

/-- Whatever starts with no mark is read as a number. -/
theorem readValue_plain (first : Char) (visible : isWhitespace first = false)
    (plain : first ∉ valueMarks) (fuel : Nat) (rest : List Char) :
    readValue format (fuel + 1) (first :: rest) = readNumber format (first :: rest) := by
  have skipped : skipBlank (first :: rest) = first :: rest :=
    List.dropWhile_cons_of_neg (by simp [visible])
  simp only [valueMarks, List.mem_cons, List.not_mem_nil, or_false, not_or] at plain
  obtain ⟨quote, bracket, brace, null, true, false⟩ := plain
  simp only [readValue, skipped, if_neg quote, if_neg bracket, if_neg brace, if_neg null,
    if_neg true, if_neg false]

theorem readValue_number (first : Char) (number : isNumberChar first = true) (fuel : Nat)
    (rest : List Char) :
    readValue format (fuel + 1) (first :: rest) = readNumber format (first :: rest) := by
  refine readValue_plain format first (isWhitespace_of_number number) (fun member => ?_) fuel rest
  have none : valueMarks.all (fun mark => !isNumberChar mark) = true := by decide
  have noNumber := List.all_eq_true.mp none first member
  rw [number] at noNumber
  cases noNumber

theorem skipBlank_append {text rest : List Char} (starts : Starts text) :
    skipBlank (text ++ rest) = text ++ rest := skipBlank_of_starts (starts.append rest)

theorem endsNumber_cons {c : Char} (noNumber : isNumberChar c = false) (rest : List Char) :
    EndsNumber (c :: rest) := by
  intro other own
  obtain rfl := Option.some.inj own
  exact noNumber

/-- What starts a literal but is none. -/
theorem readNumber_none (literal : List Char) {rest : List Char} {stop : Char}
    (all : ∀ c ∈ literal, isNumberChar c = true) (ends : isNumberChar stop = false)
    (none : numberKind literal = none) :
    readNumber format (literal ++ stop :: rest) = .none := by
  have spans := takeWhile_append_of_ends all (endsNumber_cons ends rest)
  simp only [readNumber, spans.1, none]

/-- A number that is NaN or infinite is written as a word that is no value. -/
theorem readValue_float (number : Float F) (fuel : Nat) {rest : List Char}
    (ends : EndsNumber rest) :
    readValue format (fuel + 1) (writeFloat format number ++ rest) =
      if isFinite (.float number) then some (.float number, rest) else none := by
  cases number with
  | finite number =>
      obtain ⟨first, others, whole, isNumber⟩ := starts_of_kind (format.literal number)
      have read := readNumber_float format number ends
      rw [whole] at read
      rw [writeFloat, whole]
      exact (readValue_number format first isNumber fuel (others ++ rest)).trans read
  | nan =>
      have word := readValue_plain format 'N' (by decide) (by decide) fuel (['a', 'N'] ++ rest)
      exact word.trans (readNumber_none format [] (by simp) (by decide) (by decide))
  | infinity negative =>
      cases negative with
      | false =>
          have word := readValue_plain format 'I' (by decide) (by decide) fuel
            (['n', 'f', 'i', 'n', 'i', 't', 'y'] ++ rest)
          exact word.trans (readNumber_none format [] (by simp) (by decide) (by decide))
      | true =>
          have word := readValue_number format '-' (by decide) fuel
            (['I', 'n', 'f', 'i', 'n', 'i', 't', 'y'] ++ rest)
          have minus : ∀ c ∈ ['-'], isNumberChar c = true := by simp [isNumberChar]
          exact word.trans (readNumber_none format ['-'] minus (by decide) (by decide))

theorem skipBlank_cons {first : Char} (visible : isWhitespace first = false) (rest : List Char) :
    skipBlank (first :: rest) = first :: rest := List.dropWhile_cons_of_neg (by simp [visible])

theorem skipBlank_space (rest : List Char) : skipBlank (' ' :: rest) = skipBlank rest :=
  List.dropWhile_cons_of_pos (by decide)

/-- A blank in front of a value does not count. -/
theorem readValue_space (fuel : Nat) (rest : List Char) :
    readValue format fuel (' ' :: rest) = readValue format fuel rest := by
  cases fuel with
  | zero => rfl
  | succ fuel => rw [readValue, readValue, skipBlank_space]

theorem readItems_space (fuel : Nat) (rest : List Char) :
    readItems format fuel (' ' :: rest) = readItems format fuel rest := by
  cases fuel with
  | zero => rfl
  | succ fuel => rw [readItems, readItems, readValue_space]

theorem readMembers_space (fuel : Nat) (rest : List Char) :
    readMembers format fuel (' ' :: rest) = readMembers format fuel rest := by
  cases fuel with
  | zero => rfl
  | succ fuel => rw [readMembers, readMembers, skipBlank_space]

theorem writeItems_cons (item second : Value F) (items : List (Value F)) :
    writeItems format (item :: second :: items) =
      write format item ++ ',' :: ' ' :: writeItems format (second :: items) := by
  rw [writeItems]
  · simp
  · simp

theorem writeMembers_cons (name : Text) (value : Value F) (second : Text × Value F)
    (members : List (Text × Value F)) :
    writeMembers format ((name, value) :: second :: members) =
      writeString name ++ ':' :: ' ' :: (write format value ++
        ',' :: ' ' :: writeMembers format (second :: members)) := by
  rw [writeMembers]
  · simp
  · simp

/-- A name, a colon and a value, up to what follows them. -/
theorem readMembers_name (name : Text) (fuel : Nat) (rest : List Char) :
    readMembers format (fuel + 1) (writeString name ++ ':' :: ' ' :: rest) =
      match readValue format fuel rest with
      | none => none
      | some (value, rest) =>
          match skipBlank rest with
          | ',' :: rest =>
              (readMembers format fuel rest).map fun read =>
                ((joinText name, value) :: read.1, read.2)
          | '\x7d' :: rest => some ([(joinText name, value)], rest)
          | _ => none := by
  have start : skipBlank (writeString name ++ ':' :: ' ' :: rest) =
      '"' :: (name.flatMap escape ++ '"' :: ':' :: ' ' :: rest) := by
    simp [writeString, skipBlank, isWhitespace]
  have colon : skipBlank (':' :: ' ' :: rest) = ':' :: ' ' :: rest :=
    skipBlank_cons (by decide) _
  simp only [readMembers, start, readString_write, colon, readValue_space]

theorem head_skipBlank {text : List Char} (starts : Starts text) (rest : List Char) :
    (skipBlank (text ++ rest)).head? ≠ some ']' ∧
      (skipBlank (text ++ rest)).head? ≠ some '\x7d' := by
  rw [skipBlank_append starts]
  obtain ⟨first, others, rfl, -, notBracket, notBrace⟩ := starts
  exact ⟨fun same => notBracket (Option.some.inj same), fun same => notBrace (Option.some.inj same)⟩

theorem readValue_array (fuel : Nat) {items : List Char} (starts : Starts items)
    (rest : List Char) :
    readValue format (fuel + 1) ('[' :: (items ++ rest)) =
      (readItems format fuel (items ++ rest)).map fun read => (.array read.1, read.2) := by
  have start : skipBlank ('[' :: (items ++ rest)) = '[' :: (items ++ rest) :=
    skipBlank_cons (by decide) _
  have notQuote : ¬ ('[' : Char) = '"' := by decide
  simp only [readValue, start, if_neg notQuote, if_true, if_neg (head_skipBlank starts rest).1]

theorem readValue_object (fuel : Nat) {members : List Char} (starts : Starts members)
    (rest : List Char) :
    readValue format (fuel + 1) ('\x7b' :: (members ++ rest)) =
      (readMembers format fuel (members ++ rest)).map fun read => (.object read.1, read.2) := by
  have start : skipBlank ('\x7b' :: (members ++ rest)) = '\x7b' :: (members ++ rest) :=
    skipBlank_cons (by decide) _
  have notQuote : ¬ ('\x7b' : Char) = '"' := by decide
  have notBracket : ¬ ('\x7b' : Char) = '[' := by decide
  simp only [readValue, start, if_neg notQuote, if_neg notBracket, if_true,
    if_neg (head_skipBlank starts rest).2]

mutual

/-- A written value is read back, its texts joined, unless a number in it is NaN or infinite. -/
theorem readValue_write (value : Value F) (fuel : Nat) (rest : List Char)
    (enough : (write format value).length ≤ fuel) (ends : EndsNumber rest) :
    readValue format fuel (write format value ++ rest) =
      if isFinite value then some (join value, rest) else none := by
  obtain ⟨first, others, whole, -⟩ := starts_write format value
  have positive : fuel ≠ 0 := by
    have := congrArg List.length whole
    simp only [List.length_cons] at this
    omega
  obtain ⟨fuel, rfl⟩ := Nat.exists_eq_succ_of_ne_zero positive
  match value with
  | .null => rfl
  | .bool true => rfl
  | .bool false => rfl
  | .int number =>
      obtain ⟨first, others, whole, isNumber⟩ := starts_of_kind (numberKind_writeInt number)
      have read := readNumber_int format number ends
      rw [whole] at read
      rw [write, whole]
      exact (readValue_number format first isNumber fuel (others ++ rest)).trans read
  | .float number =>
      rw [write, readValue_float format number fuel ends]
      rfl
  | .string text =>
      have start : skipBlank (writeString text ++ rest) =
          '"' :: (text.flatMap escape ++ '"' :: rest) := by
        simp [writeString, skipBlank, isWhitespace]
      rw [write]
      simp only [readValue, start, readString_write, if_true, Option.map_some]
      rfl
  | .array [] => rfl
  | .array (item :: items) =>
      rw [write] at enough ⊢
      simp only [List.length_append, List.length_cons] at enough
      have inner := readItems_write (item :: items) fuel rest (by simp) (by omega)
      have whole : '[' :: writeItems format (item :: items) ++ [']'] ++ rest =
          '[' :: (writeItems format (item :: items) ++ ']' :: rest) := by simp
      rw [whole, readValue_array format fuel (starts_writeItems format (by simp)), inner]
      cases finite : areFinite (item :: items) <;> simp [isFinite, join, finite]
  | .object [] => rfl
  | .object (member :: members) =>
      rw [write] at enough ⊢
      simp only [List.length_append, List.length_cons] at enough
      have inner := readMembers_write (member :: members) fuel rest (by simp) (by omega)
      have whole : '\x7b' :: writeMembers format (member :: members) ++ ['\x7d'] ++ rest =
          '\x7b' :: (writeMembers format (member :: members) ++ '\x7d' :: rest) := by simp
      rw [whole, readValue_object format fuel (starts_writeMembers format (by simp)), inner]
      cases finite : membersFinite (member :: members) <;> simp [isFinite, join, finite]

theorem readItems_write (items : List (Value F)) (fuel : Nat) (rest : List Char)
    (nonempty : items ≠ []) (enough : (writeItems format items).length < fuel) :
    readItems format fuel (writeItems format items ++ ']' :: rest) =
      if areFinite items then some (joinItems items, rest) else none := by
  obtain ⟨fuel, rfl⟩ := Nat.exists_eq_succ_of_ne_zero (by omega : fuel ≠ 0)
  match items with
  | [] => exact absurd rfl nonempty
  | [last] =>
      rw [writeItems] at enough ⊢
      have read := readValue_write last fuel (']' :: rest) (by omega)
        (endsNumber_cons (by decide) rest)
      rw [readItems, read, areFinite, areFinite, Bool.and_true]
      cases isFinite last <;> rfl
  | item :: second :: items =>
      rw [writeItems_cons] at enough ⊢
      simp only [List.length_append, List.length_cons] at enough
      have read := readValue_write item fuel
        (',' :: ' ' :: (writeItems format (second :: items) ++ ']' :: rest)) (by omega)
        (endsNumber_cons (by decide) _)
      have later := readItems_write (second :: items) fuel rest (by simp) (by omega)
      rw [List.append_assoc, List.cons_append, List.cons_append, readItems, read, areFinite]
      cases isFinite item with
      | false => rfl
      | true =>
          have comma : skipBlank
              (',' :: ' ' :: (writeItems format (second :: items) ++ ']' :: rest)) =
              ',' :: ' ' :: (writeItems format (second :: items) ++ ']' :: rest) :=
            skipBlank_cons (by decide) _
          simp only [if_true, comma, readItems_space, later, Bool.true_and]
          cases areFinite (second :: items) <;> rfl

theorem readMembers_write (members : List (Text × Value F)) (fuel : Nat) (rest : List Char)
    (nonempty : members ≠ []) (enough : (writeMembers format members).length < fuel) :
    readMembers format fuel (writeMembers format members ++ '\x7d' :: rest) =
      if membersFinite members then some (joinMembers members, rest) else none := by
  obtain ⟨fuel, rfl⟩ := Nat.exists_eq_succ_of_ne_zero (by omega : fuel ≠ 0)
  match members with
  | [] => exact absurd rfl nonempty
  | [(name, last)] =>
      rw [writeMembers] at enough ⊢
      simp only [List.length_append, List.length_cons] at enough
      have read := readValue_write last fuel ('\x7d' :: rest) (by omega)
        (endsNumber_cons (by decide) rest)
      have whole : writeString name ++ [':', ' '] ++ write format last ++ '\x7d' :: rest =
          writeString name ++ ':' :: ' ' :: (write format last ++ '\x7d' :: rest) := by simp
      rw [whole, readMembers_name, read, membersFinite, membersFinite, Bool.and_true]
      cases isFinite last <;> rfl
  | (name, value) :: second :: members =>
      rw [writeMembers_cons] at enough ⊢
      simp only [List.length_append, List.length_cons] at enough
      have read := readValue_write value fuel
        (',' :: ' ' :: (writeMembers format (second :: members) ++ '\x7d' :: rest)) (by omega)
        (endsNumber_cons (by decide) _)
      have later := readMembers_write (second :: members) fuel rest (by simp) (by omega)
      have whole : writeString name ++ ':' :: ' ' :: (write format value ++
            ',' :: ' ' :: writeMembers format (second :: members)) ++ '\x7d' :: rest =
          writeString name ++ ':' :: ' ' :: (write format value ++
            ',' :: ' ' :: (writeMembers format (second :: members) ++ '\x7d' :: rest)) := by simp
      rw [whole, readMembers_name, read, membersFinite]
      cases isFinite value with
      | false => rfl
      | true =>
          have comma : skipBlank
              (',' :: ' ' :: (writeMembers format (second :: members) ++ '\x7d' :: rest)) =
              ',' :: ' ' :: (writeMembers format (second :: members) ++ '\x7d' :: rest) :=
            skipBlank_cons (by decide) _
          simp only [if_true, comma, readMembers_space, later, Bool.true_and]
          cases membersFinite (second :: members) <;> rfl

end

/-- What `write` makes of a value is a text of JSON exactly when every number in the value is
finite, and then of this value, its texts joined. -/
theorem read_write (value : Value F) :
    read format (write format value) = if isFinite value then some (join value) else none := by
  have whole := readValue_write format value ((write format value).length + 1) [] (by omega)
    (by simp [EndsNumber])
  rw [List.append_nil] at whole
  rw [read, whole]
  cases isFinite value <;> rfl

end Json
