import Mathlib.Tactic
import Pyronova.Headers

/-!
# The header fields of a request

A handler reads a field of the request as one text, whatever number of lines it came on.  The lines
are joined by a comma and a blank, those of a cookie by a semicolon and a blank.
-/

namespace Pyronova

/-- The header lines of a request, one entry per line received. -/
abbrev RequestHeaders := List (String × Bytes)

namespace RequestHeaders

/-- The lines with a name, in order. -/
def getAll (headers : RequestHeaders) (name : String) : List Bytes :=
  (headers.filter fun line => headerName line.1 = headerName name).map Prod.snd

end RequestHeaders

/-- `field_text`: a field value as text, UTF-8 when it is, else ISO-8859-1. -/
def fieldText (value : Bytes) : String :=
  match utf8Decode value with
  | some text => text
  | none => String.ofList (value.map fun byte => Char.ofNat byte.toNat)

/-- `field_separator`. -/
def fieldSeparator (name : String) : String :=
  if headerName name = headerName "cookie" then "; " else ", "

/-- `joined_value`. -/
def joinedValue (headers : RequestHeaders) (name : String) : Option String :=
  match (headers.getAll name).map fieldText with
  | [] => none
  | first :: lines =>
      some (lines.foldl (fun joined line => joined ++ fieldSeparator name ++ line) first)

theorem fieldSeparator_cookie : fieldSeparator "cookie" = "; " := if_pos rfl

/-- The text of lines that are UTF-8. -/
theorem joinedValue_encoded {headers : RequestHeaders} {name : String} {lines : List String}
    (sent : headers.getAll name = lines.map utf8Encode) :
    joinedValue headers name =
      if lines = [] then none
      else some (String.ofList
        ((fieldSeparator name).toList.intercalate (lines.map String.toList))) := by
  have texts : (headers.getAll name).map fieldText = lines := by
    rw [sent, List.map_map]
    conv_rhs => rw [← List.map_id lines]
    refine List.map_congr_left fun line _ => ?_
    simp [fieldText]
  have folded (first : String) (lines : List String) :
      lines.foldl (fun joined line => joined ++ fieldSeparator name ++ line) first =
        String.ofList
          ((fieldSeparator name).toList.intercalate ((first :: lines).map String.toList)) := by
    induction lines generalizing first with
    | nil => simp
    | cons line lines induction =>
        rw [List.foldl_cons, induction]
        cases lines <;> simp [List.intercalate_cons_cons]
  rw [joinedValue, texts]
  cases lines with
  | nil => rfl
  | cons first lines => exact congrArg some (folded first lines)

/-- A field of one line. -/
theorem joinedValue_one {headers : RequestHeaders} {name line : String}
    (sent : headers.getAll name = [utf8Encode line]) : joinedValue headers name = some line := by
  have lines : headers.getAll name = [line].map utf8Encode := sent
  simpa using joinedValue_encoded lines

end Pyronova
