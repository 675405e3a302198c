import Mathlib.Tactic
import Pyronova.Delimiter
import Pyronova.ElementList
import Pyronova.Response

/-!
# Python text

The operations of `str` that the readers and writers of header texts use.  A text is a list of
characters, or a `PyStr` where it may hold lone surrogates.
-/

namespace Pyronova

namespace PyStr

def codePoints : PyStr → List Nat
  | .text string => string.toList.map Char.toNat
  | .surrogates points => points

/-- `+`: two lone surrogates do not make a character. -/
protected def append : PyStr → PyStr → PyStr
  | .text front, .text back => .text (front ++ back)
  | front, back => .surrogates (front.codePoints ++ back.codePoints)

instance : Append PyStr := ⟨PyStr.append⟩

@[simp] theorem text_append (front back : String) :
    PyStr.text front ++ PyStr.text back = .text (front ++ back) := rfl

theorem append_eq_text {front back : PyStr} {string : String}
    (joined : front ++ back = .text string) :
    ∃ before after, front = .text before ∧ back = .text after ∧ string = before ++ after := by
  cases front with
  | surrogates points => cases back <;> cases joined
  | text before =>
      cases back with
      | surrogates points => cases joined
      | text after => exact ⟨before, after, rfl, rfl, (PyStr.text.inj joined).symm⟩

/-- `ch in value`, for one character. -/
def contains (text : PyStr) (c : Char) : Bool := text.codePoints.contains c.toNat

theorem contains_text {string : String} {c : Char} :
    (PyStr.text string).contains c = true ↔ c ∈ string.toList := by
  rw [contains, codePoints, List.contains_iff_mem, List.mem_map]
  constructor
  · rintro ⟨other, member, same⟩
    exact Char.toNat_inj.mp same ▸ member
  · exact fun member => ⟨c, member, rfl⟩

/-- `bool(text)`. -/
def isTrue (text : PyStr) : Bool := text.codePoints != []

/-- `", ".join`, for any separator. -/
def join (separator : PyStr) : List PyStr → PyStr
  | [] => .text ""
  | [only] => only
  | first :: second :: rest => first ++ separator ++ join separator (second :: rest)

end PyStr

/-- `str.isspace` of one character. -/
def isSpace (c : Char) : Bool :=
  (9 ≤ c.toNat && c.toNat ≤ 13) || (28 ≤ c.toNat && c.toNat ≤ 32) ||
    (0x2000 ≤ c.toNat && c.toNat ≤ 0x200a) ||
    [0x85, 0xa0, 0x1680, 0x2028, 0x2029, 0x202f, 0x205f, 0x3000].contains c.toNat

/-- `str.strip`. -/
def strip (text : List Char) : List Char := text.trimBlanks isSpace

/-- `str.lower`, as far as a comparison with ASCII text tells: the Kelvin sign is the one other
character whose lower case is ASCII. -/
def lower (text : List Char) : List Char :=
  text.map fun c => if c = '\u212a' then 'k' else c.toLower

end Pyronova
