import Mathlib.Tactic
import Pyronova.DecimalDigits

/-!
# Event streams

The text format of server-sent events and the reader of the HTML standard: lines, fields, and the
buffers that a blank line dispatches.
-/

namespace EventStream

/-! ## Lines -/

/-- A text cut at its line endings, which are CR LF, CR and LF. -/
def splitLines : List Char → List (List Char)
  | [] => [[]]
  | '\r' :: '\n' :: rest => [] :: splitLines rest
  | '\r' :: rest => [] :: splitLines rest
  | '\n' :: rest => [] :: splitLines rest
  | char :: rest => (splitLines rest).modifyHead (char :: ·)

/-- A character that ends a line, alone or with another. -/
def isLineEnd (char : Char) : Bool := char == '\r' || char == '\n'

/-- The text stays on one line. -/
def OneLine (text : List Char) : Prop := ∀ char ∈ text, isLineEnd char = false

instance (text : List Char) : Decidable (OneLine text) :=
  decidable_of_iff (text.all fun char => !isLineEnd char) (by simp [OneLine])

theorem OneLine.append {front back : List Char} (oneFront : OneLine front)
    (oneBack : OneLine back) : OneLine (front ++ back) := by
  intro char member
  rcases List.mem_append.mp member with member | member
  · exact oneFront char member
  · exact oneBack char member

theorem splitLines_nil : splitLines [] = [[]] := rfl

theorem splitLines_returnFeed (rest : List Char) :
    splitLines ('\r' :: '\n' :: rest) = [] :: splitLines rest := rfl

theorem splitLines_feed (rest : List Char) :
    splitLines ('\n' :: rest) = [] :: splitLines rest := rfl

theorem splitLines_return {rest : List Char} (single : ∀ more, rest ≠ '\n' :: more) :
    splitLines ('\r' :: rest) = [] :: splitLines rest := by
  rw [splitLines]
  exact single

theorem splitLines_cons {char : Char} (inside : isLineEnd char = false) (rest : List Char) :
    splitLines (char :: rest) = (splitLines rest).modifyHead (char :: ·) := by
  have notReturn : char ≠ '\r' := by
    rintro rfl
    simp [isLineEnd] at inside
  have notFeed : char ≠ '\n' := by
    rintro rfl
    simp [isLineEnd] at inside
  rw [splitLines]
  · exact fun _ isReturn _ => notReturn isReturn
  · exact notReturn
  · exact notFeed

/-- A text starts with one of the three line endings or with a character of a line. -/
@[elab_as_elim]
theorem lines_induction {motive : List Char → Prop} (nil : motive [])
    (returnFeed : ∀ rest, motive rest → motive ('\r' :: '\n' :: rest))
    (returnAlone : ∀ rest, (∀ more, rest ≠ '\n' :: more) → motive rest → motive ('\r' :: rest))
    (feed : ∀ rest, motive rest → motive ('\n' :: rest))
    (cons : ∀ char rest, isLineEnd char = false → motive rest → motive (char :: rest))
    (text : List Char) : motive text := by
  induction text using splitLines.induct with
  | case1 => exact nil
  | case2 rest induction => exact returnFeed rest induction
  | case3 rest single induction => exact returnAlone rest single induction
  | case4 rest induction => exact feed rest induction
  | case5 char rest _ notReturn notFeed induction =>
      have inside : isLineEnd char = false := by
        simpa [isLineEnd] using And.intro notReturn notFeed
      exact cons char rest inside induction

theorem splitLines_ne_nil (text : List Char) : splitLines text ≠ [] := by
  induction text using lines_induction with
  | nil => simp [splitLines_nil]
  | returnFeed rest _ => simp [splitLines_returnFeed]
  | returnAlone rest single _ => simp [splitLines_return single]
  | feed rest _ => simp [splitLines_feed]
  | cons char rest inside induction =>
      obtain ⟨first, others, split⟩ := List.exists_cons_of_ne_nil induction
      simp [splitLines_cons inside, split]

/-- No line holds a line ending. -/
theorem oneLine_of_mem_splitLines {text line : List Char} (member : line ∈ splitLines text) :
    OneLine line := by
  induction text using lines_induction generalizing line with
  | nil =>
      obtain rfl : line = [] := by simpa [splitLines_nil] using member
      simp [OneLine]
  | returnFeed rest induction =>
      rw [splitLines_returnFeed] at member
      rcases List.mem_cons.mp member with rfl | member
      · simp [OneLine]
      · exact induction member
  | feed rest induction =>
      rw [splitLines_feed] at member
      rcases List.mem_cons.mp member with rfl | member
      · simp [OneLine]
      · exact induction member
  | returnAlone rest single induction =>
      rw [splitLines_return single] at member
      rcases List.mem_cons.mp member with rfl | member
      · simp [OneLine]
      · exact induction member
  | cons char rest inside induction =>
      obtain ⟨first, others, split⟩ := List.exists_cons_of_ne_nil (splitLines_ne_nil rest)
      rw [split] at induction
      rw [splitLines_cons inside, split, List.modifyHead_cons] at member
      rcases List.mem_cons.mp member with rfl | member
      · have single : OneLine [char] := by
          intro other isChar
          rwa [List.mem_singleton.mp isChar]
        exact single.append (induction List.mem_cons_self)
      · exact induction (List.mem_cons_of_mem _ member)

/-- A line written with its LF is the first line read. -/
theorem splitLines_line {line : List Char} (one : OneLine line) (rest : List Char) :
    splitLines (line ++ '\n' :: rest) = line :: splitLines rest := by
  induction line with
  | nil => rw [List.nil_append, splitLines_feed]
  | cons char line induction =>
      have inside : isLineEnd char = false := one char List.mem_cons_self
      have later : OneLine line := fun other member => one other (List.mem_cons_of_mem _ member)
      rw [List.cons_append, splitLines_cons inside, induction later, List.modifyHead_cons]

theorem splitLines_lines {lines : List (List Char)} (one : ∀ line ∈ lines, OneLine line)
    (rest : List Char) :
    splitLines (lines.flatMap (· ++ ['\n']) ++ rest) = lines ++ splitLines rest := by
  induction lines with
  | nil => rfl
  | cons line lines induction =>
      have first := splitLines_line (one line List.mem_cons_self)
      have later := induction fun other member => one other (List.mem_cons_of_mem _ member)
      rw [List.flatMap_cons, List.append_assoc, List.append_assoc, List.singleton_append, first,
        later, List.cons_append]

/-- A line ending at the end of a text adds an empty line, unless it continues the text's last
ending. -/
theorem splitLines_ending {ending : List Char} (isEnding : splitLines ending = [[], []])
    {text : List Char} (apart : ending.head? = some '\n' → text.getLast? ≠ some '\r') :
    splitLines (text ++ ending) = splitLines text ++ [[]] := by
  have weaken {char : Char} {rest : List Char}
      (apart : ending.head? = some '\n' → (char :: rest).getLast? ≠ some '\r') :
      ending.head? = some '\n' → rest.getLast? ≠ some '\r' := by
    intro feed isReturn
    apply apart feed
    rw [List.getLast?_cons, isReturn]
    rfl
  induction text using lines_induction with
  | nil => exact isEnding
  | returnFeed rest induction =>
      rw [List.cons_append, List.cons_append, splitLines_returnFeed, splitLines_returnFeed,
        induction (weaken (weaken apart)), List.cons_append]
  | returnAlone rest single induction =>
      have stillSingle : ∀ more, rest ++ ending ≠ '\n' :: more := by
        intro more continued
        cases rest with
        | nil =>
            rw [List.nil_append] at continued
            exact apart (by rw [continued]; rfl) rfl
        | cons char rest =>
            obtain ⟨rfl, -⟩ := List.cons_eq_cons.mp continued
            exact single rest rfl
      rw [List.cons_append, splitLines_return stillSingle, splitLines_return single,
        induction (weaken apart), List.cons_append]
  | feed rest induction =>
      rw [List.cons_append, splitLines_feed, splitLines_feed, induction (weaken apart),
        List.cons_append]
  | cons char rest inside induction =>
      obtain ⟨first, others, split⟩ := List.exists_cons_of_ne_nil (splitLines_ne_nil rest)
      rw [List.cons_append, splitLines_cons inside, splitLines_cons inside,
        induction (weaken apart), split, List.cons_append, List.modifyHead_cons,
        List.modifyHead_cons, List.cons_append]

/-! ## Fields -/

inductive Line
  | blank
  | comment (text : List Char)
  | field (name value : List Char)
  deriving DecidableEq, Repr

/-- How a line is read.  The first colon ends the name, and one space after it is dropped. -/
def Line.ofText : List Char → Line
  | [] => .blank
  | ':' :: text => .comment text
  | text =>
      match text.dropWhile (· != ':') with
      | [] => .field text []
      | _ :: ' ' :: value => .field (text.takeWhile (· != ':')) value
      | _ :: value => .field (text.takeWhile (· != ':')) value

/-- The lines of a text that are ended.  An unfinished last line is never dispatched. -/
def lines (text : List Char) : List Line := (splitLines text).dropLast.map Line.ofText

theorem lines_append {written : List (List Char)} (one : ∀ line ∈ written, OneLine line) :
    lines (written.flatMap (· ++ ['\n'])) = written.map Line.ofText := by
  have split := splitLines_lines one []
  rw [List.append_nil] at split
  rw [lines, split]
  simp [splitLines_nil]

theorem Line.ofText_field (name : List Char) (nonempty : name ≠ []) (noColon : ':' ∉ name)
    (value : List Char) : Line.ofText (name ++ ':' :: ' ' :: value) = .field name value := by
  have outside : ∀ char ∈ name, (char != ':') = true := by
    intro char member
    have different : char ≠ ':' := fun same => noColon (same ▸ member)
    simpa using different
  have taken : (name ++ ':' :: ' ' :: value).takeWhile (· != ':') = name := by
    rw [List.takeWhile_append_of_pos outside]
    simp
  have dropped : (name ++ ':' :: ' ' :: value).dropWhile (· != ':') = ':' :: ' ' :: value := by
    rw [List.dropWhile_append_of_pos outside]
    simp
  obtain ⟨first, others, rfl⟩ := List.exists_cons_of_ne_nil nonempty
  have firstOutside : first ≠ ':' := fun same => noColon (same ▸ List.mem_cons_self)
  rw [List.cons_append] at taken dropped ⊢
  rw [Line.ofText]
  · simp only [dropped, taken]
  · simp
  · simpa using firstOutside

/-! ## The reader -/

structure Event where
  type : List Char
  data : List Char
  lastEventId : List Char
  deriving DecidableEq, Repr

/-- The buffers of the reader, and the events dispatched so far. -/
structure Reader where
  data : List Char := []
  eventType : List Char := []
  idBuffer : List Char := []
  lastEventId : List Char := []
  reconnectionTime : Option Nat := none
  dispatched : List Event := []
  deriving DecidableEq, Repr

namespace Reader

/-- The data without one LF at its end. -/
def trimmed (data : List Char) : List Char :=
  if data.getLast? = some '\n' then data.dropLast else data

/-- What a blank line does.  Without any data there is no event. -/
def dispatch (reader : Reader) : Reader :=
  let quiet := { reader with data := [], eventType := [], lastEventId := reader.idBuffer }
  if reader.data = [] then quiet
  else
    let type := if reader.eventType = [] then "message".toList else reader.eventType
    let event := { type, data := trimmed reader.data, lastEventId := reader.idBuffer }
    { quiet with dispatched := reader.dispatched ++ [event] }

def field (reader : Reader) (name value : List Char) : Reader :=
  if name = "event".toList then { reader with eventType := value }
  else if name = "data".toList then { reader with data := reader.data ++ value ++ ['\n'] }
  else if name = "id".toList then
    if '\x00' ∈ value then reader else { reader with idBuffer := value }
  else if name = "retry".toList then
    if value ≠ [] ∧ value.all Char.isDigit then
      { reader with reconnectionTime := some (DecimalDigits.value value) }
    else reader
  else reader

def line (reader : Reader) : Line → Reader
  | .blank => reader.dispatch
  | .comment _ => reader
  | .field name value => reader.field name value

/-- A reader between two events. -/
def idle (id : List Char) (dispatched : List Event) : Reader :=
  { idBuffer := id, lastEventId := id, dispatched }

@[simp] theorem field_data (reader : Reader) (value : List Char) :
    reader.field "data".toList value = { reader with data := reader.data ++ value ++ ['\n'] } := by
  rw [field, if_neg (by decide), if_pos rfl]

@[simp] theorem field_event (reader : Reader) (value : List Char) :
    reader.field "event".toList value = { reader with eventType := value } := by
  rw [field, if_pos rfl]

@[simp] theorem field_id (reader : Reader) (value : List Char) :
    reader.field "id".toList value =
      if '\x00' ∈ value then reader else { reader with idBuffer := value } := by
  rw [field, if_neg (by decide), if_neg (by decide), if_pos rfl]

/-- Data fields gather their values, each ended by an LF. -/
theorem foldl_data (reader : Reader) (values : List (List Char)) :
    (values.map (Line.field "data".toList)).foldl line reader =
      { reader with data := reader.data ++ values.flatMap (· ++ ['\n']) } := by
  induction values generalizing reader with
  | nil => simp
  | cons value values induction =>
      rw [List.map_cons, List.foldl_cons, line, field_data, induction]
      simp

theorem trimmed_flatMap {values : List (List Char)} (nonempty : values ≠ []) :
    trimmed (values.flatMap (· ++ ['\n'])) = ['\n'].intercalate values := by
  have written : values.flatMap (· ++ ['\n']) = ['\n'].intercalate values ++ ['\n'] := by
    induction values with
    | nil => contradiction
    | cons value values induction =>
        rw [List.flatMap_cons]
        cases values with
        | nil => simp
        | cons next values =>
            rw [induction (List.cons_ne_nil _ _), List.intercalate_cons_cons]
            simp
  rw [written, trimmed, List.getLast?_concat, if_pos rfl, List.dropLast_concat]

end Reader

/-- A text starts with an optional byte order mark that is no part of its lines. -/
def withoutMark : List Char → List Char
  | '\uFEFF' :: text => text
  | text => text

/-- The reader run over a whole text. -/
def read (text : List Char) : Reader := (lines (withoutMark text)).foldl Reader.line {}

end EventStream
