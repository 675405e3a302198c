import Mathlib.Tactic
import Pyronova.Response

/-!
# Header lines

Header lines form a multimap: a name has several lines, in the order they go out, and names are
compared without regard to ASCII case.  Lines of different names have no order among them.
-/

namespace Pyronova

/-- A header name as it is compared and sent. -/
def headerName (name : String) : List Char := name.toList.map Char.toLower

/-- Visible ASCII, a space or a tab. -/
def isVisibleAscii (c : Char) : Bool := (32 ≤ c.toNat && c.toNat < 127) || c == '\t'

/-- `HeaderValue::to_str`. -/
def toStr (value : HeaderValue) : Option (List Char) :=
  if value.toList.all isVisibleAscii then some value.toList else none

/-- `HeaderValue::from_str`: no control character but the tab. -/
def fromStr (text : List Char) : Option HeaderValue :=
  if text.all fun c => (32 ≤ c.toNat && c.toNat != 127) || c == '\t' then some (String.ofList text)
  else none

theorem toStr_eq_some {value : HeaderValue} {text : List Char} :
    toStr value = some text ↔
      text = value.toList ∧ ∀ c ∈ value.toList, isVisibleAscii c = true := by
  rw [toStr, Option.ite_none_right_eq_some, List.all_eq_true, Option.some.injEq, and_comm, eq_comm]

theorem fromStr_eq_some {value : HeaderValue} {text : List Char}
    (made : fromStr text = some value) : value.toList = text := by
  unfold fromStr at made
  split at made
  · rw [← Option.some.inj made, String.toList_ofList]
  · cases made

namespace ResponseHeaders

/-- A line has the name. -/
def named (name : String) (line : String × HeaderValue) : Bool :=
  headerName line.1 == headerName name

/-- The lines with a name, in order. -/
def getAll (headers : ResponseHeaders) (name : String) : List HeaderValue :=
  (headers.filter (named name)).map Prod.snd

/-- The first line with a name, as text. -/
def get (headers : ResponseHeaders) (name : String) : Option (List Char) :=
  (headers.getAll name).head?.bind toStr

def containsKey (headers : ResponseHeaders) (name : String) : Bool := headers.any (named name)

/-- `HeaderMap::remove`, with every line of the name. -/
def remove (headers : ResponseHeaders) (name : String) : ResponseHeaders :=
  headers.filter fun line => !named name line

/-- `HeaderMap::append`. -/
def append (headers : ResponseHeaders) (name : String) (value : HeaderValue) : ResponseHeaders :=
  List.append headers [(name, value)]

/-- `HeaderMap::insert`: one line in place of all lines of the name. -/
def insert : ResponseHeaders → String → HeaderValue → ResponseHeaders
  | [], name, value => [(name, value)]
  | line :: lines, name, value =>
      if named name line then (line.1, value) :: remove lines name
      else line :: insert lines name value

variable {headers : ResponseHeaders} {name other : String} {value : HeaderValue}

theorem getAll_congr (same : headerName other = headerName name) :
    headers.getAll other = headers.getAll name := by
  have sameNamed : named other = named name := by
    funext line
    rw [named, named, same]
  rw [getAll, getAll, sameNamed]

theorem getAll_cons (line : String × HeaderValue) (lines : ResponseHeaders) :
    getAll (line :: lines) name =
      if named name line then line.2 :: getAll lines name else getAll lines name := by
  by_cases own : named name line = true <;> simp [getAll, own]

theorem named_other {line : String × HeaderValue} (different : headerName other ≠ headerName name)
    (own : named name line = true) : named other line = false := by
  have same : headerName line.1 = headerName name := eq_of_beq own
  rw [named, same]
  exact beq_false_of_ne different.symm

@[simp] theorem getAll_remove_self : getAll (headers.remove name) name = [] := by
  have none : (headers.remove name).filter (named name) = [] := by
    rw [remove, List.filter_filter]
    simp
  rw [getAll, none, List.map_nil]

theorem getAll_remove_of_ne (different : headerName other ≠ headerName name) :
    getAll (headers.remove name) other = getAll headers other := by
  rw [getAll, remove, List.filter_filter, getAll]
  congr 1
  apply List.filter_congr
  intro line _
  cases own : named name line with
  | false => simp
  | true => simp [named_other different own]

@[simp] theorem getAll_append_self :
    getAll (headers.append name value) name = getAll headers name ++ [value] := by
  simp [getAll, append, named]

theorem getAll_append_of_ne (different : headerName other ≠ headerName name) :
    getAll (headers.append name value) other = getAll headers other := by
  have skipped : named other (name, value) = false := named_other different (by simp [named])
  simp [getAll, append, skipped]

@[simp] theorem getAll_insert_self : getAll (headers.insert name value) name = [value] := by
  induction headers with
  | nil => simp [insert, getAll, named]
  | cons line lines induction =>
      rw [insert]
      split
      · rename_i own
        have kept : named name (line.1, value) = true := own
        rw [getAll_cons, if_pos kept, getAll_remove_self]
      · rename_i foreign
        rw [getAll_cons, if_neg foreign, induction]

theorem getAll_insert_of_ne (different : headerName other ≠ headerName name) :
    getAll (headers.insert name value) other = getAll headers other := by
  induction headers with
  | nil =>
      have skipped : named other (name, value) = false := named_other different (by simp [named])
      simp [insert, getAll, skipped]
  | cons line lines induction =>
      rw [insert]
      split
      · rename_i own
        have skipped : named other (line.1, value) = false := named_other different own
        have skipped' : named other line = false := named_other different own
        rw [getAll_cons, getAll_cons, skipped, skipped', getAll_remove_of_ne different]
        rfl
      · rw [getAll_cons, getAll_cons, induction]

/-- Removing what is not there. -/
theorem remove_eq_self (absent : getAll headers name = []) : headers.remove name = headers := by
  have none : headers.filter (named name) = [] := List.map_eq_nil_iff.mp absent
  rw [remove, List.filter_eq_self]
  intro line member
  have foreign : ¬ named name line = true := List.filter_eq_nil_iff.mp none line member
  simpa using foreign

/-- Inserting what is there. -/
theorem insert_eq_self (there : getAll headers name = [value]) :
    headers.insert name value = headers := by
  induction headers with
  | nil => cases there
  | cons line lines induction =>
      rw [getAll_cons] at there
      rw [insert]
      split at there
      · rename_i own
        obtain ⟨rfl, rest⟩ := List.cons.inj there
        rw [if_pos own, remove_eq_self rest]
      · rename_i foreign
        rw [if_neg foreign, induction there]

end ResponseHeaders

end Pyronova
