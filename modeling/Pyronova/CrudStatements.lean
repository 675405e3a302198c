import Mathlib.Tactic
import Pyronova.Crud
import Pyronova.Inversion

/-!
# The statements that CRUD routes send

Whatever a request brings, the statement sent is one of five, and it names the table and its columns
only.  The names are identifiers, but for a final newline, which the check at registration lets
pass.
-/

namespace Pyronova

namespace Crud

open Json (CodePoint Text Value codePoint ofString)
open Placeholders (placeholder placeholders Holds)

variable {I F R : Type}

/-! ## The five statements -/

inductive Statement
  | list (table : Text) (columns : List Text) (order : Text)
  | get (table : Text) (columns : List Text) (key : Text)
  | insert (table : Text) (given returned : List Text)
  | update (table : Text) (given : List Text) (key : Text) (returned : List Text)
  | delete (table key : Text)

namespace Statement

def separated (words : List Text) : Text := (ofString ", ").intercalate words

def text : Statement → Text
  | list table columns order =>
      ofString "SELECT " ++ separated columns ++ ofString " FROM " ++ table ++
        ofString " ORDER BY " ++ order ++ ofString " LIMIT $1 OFFSET $2"
  | get table columns key =>
      ofString "SELECT " ++ separated columns ++ ofString " FROM " ++ table ++
        ofString " WHERE " ++ key ++ ofString " = $1"
  | insert table given returned =>
      ofString "INSERT INTO " ++ table ++ ofString " (" ++ separated given ++
        ofString ") VALUES (" ++
        separated ((List.range given.length).map fun i => placeholder (i + 1)) ++
        ofString ") RETURNING " ++ separated returned
  | update table given key returned =>
      ofString "UPDATE " ++ table ++ ofString " SET " ++
        separated (given.mapIdx fun i column =>
          column ++ ofString " = " ++ placeholder (i + 1)) ++
        ofString " WHERE " ++ key ++ ofString " = " ++ placeholder (given.length + 1) ++
        ofString " RETURNING " ++ separated returned
  | delete table key => ofString "DELETE FROM " ++ table ++ ofString " WHERE " ++ key ++
      ofString " = $1"

def table : Statement → Text
  | list table _ _ | get table _ _ | insert table _ _ | update table _ _ _ | delete table _ => table

/-- The columns it names. -/
def columns : Statement → List Text
  | list _ columns order => order :: columns
  | get _ columns key => key :: columns
  | insert _ given returned => given ++ returned
  | update _ given key returned => key :: given ++ returned
  | delete _ key => [key]

def route : Statement → Route
  | list .. => .list
  | get .. => .get
  | insert .. => .create
  | update .. => .update
  | delete .. => .delete

end Statement

/-- `[A-Za-z_][A-Za-z0-9_]*`, in full. -/
def isIdentifier : Text → Bool
  | [] => false
  | first :: rest => isIdentStart first && rest.all isIdentPart

/-- The id that a request's text is converted to. -/
def Registered.IdOf (crud : Registered I) (request : Request F) (id : I) : Prop :=
  ∃ raw, request.id = some raw ∧ crud.convert raw = .value id

/-- The body's value of a column. -/
def Request.valueOf (request : Request F) (column : Text) : Option (Argument F I) :=
  match request.body with
  | .value (.object members) => (members.lookup column).map .value
  | _ => none

/-- The arguments are the request's, in the order of the statement's placeholders. -/
def Statement.Takes (crud : Registered I) (request : Request F) (arguments : List (Argument F I)) :
    Statement → Prop
  | .list .. => ∃ limit offset : Int, arguments = [.int limit, .int offset] ∧
      1 ≤ limit ∧ limit ≤ crud.maxLimit ∧ 0 ≤ offset ∧ offset < 10 ^ 18
  | .get _ _ key | .delete _ key =>
      key = crud.idColumn ∧ ∃ id, crud.IdOf request id ∧ arguments = [.id id]
  | .insert _ given _ => arguments.map some = given.map request.valueOf
  | .update _ given key _ => key = crud.idColumn ∧ crud.idColumn ∉ given ∧
      ∃ id, crud.IdOf request id ∧
        arguments.map some = given.map request.valueOf ++ [some (.id id)]

/-- What is sent is a statement over the registered names, with the arguments of the request in the
places of its placeholders. -/
def Registered.Safe (crud : Registered I) (route : Route) (request : Request F) (sql : Text)
    (arguments : List (Argument F I)) : Prop :=
  ∃ statement : Statement, statement.route = route ∧ statement.text = sql ∧
    statement.table = crud.table ∧ (∀ column ∈ statement.columns, column ∈ crud.columns) ∧
    (∀ name ∈ statement.table :: statement.columns, isIdentifier name = true) ∧
    placeholders sql = List.range' 1 arguments.length ∧
    statement.Takes crud request arguments

/-! ## Identifiers -/

def newline : CodePoint := codePoint '\n'

theorem isIdentPart_of_isIdentStart {given : CodePoint} (start : isIdentStart given = true) :
    isIdentPart given = true := by
  rw [isIdentPart, start, Bool.true_or]

theorem isIdentPart_of_mem {name : Text} (identifier : isIdentifier name = true) {given : CodePoint}
    (member : given ∈ name) : isIdentPart given = true := by
  cases name with
  | nil => cases member
  | cons first rest =>
      rw [isIdentifier, Bool.and_eq_true, List.all_eq_true] at identifier
      rcases List.mem_cons.mp member with rfl | later
      · exact isIdentPart_of_isIdentStart identifier.1
      · exact identifier.2 given later

theorem isIdentifier_or_of_identRe {name : Text} (matched : identRe name = true) :
    isIdentifier name = true ∨
      ∃ front, isIdentifier front = true ∧ name = front ++ [newline] := by
  cases name with
  | nil => cases matched
  | cons first rest =>
      rw [identRe, Bool.and_eq_true, Bool.or_eq_true, decide_eq_true_eq,
        decide_eq_true_eq] at matched
      obtain ⟨start, ended | ended⟩ := matched
      · left
        rw [isIdentifier, start, Bool.true_and, List.all_eq_true]
        exact List.dropWhile_eq_nil_iff.mp ended
      · right
        refine ⟨first :: rest.takeWhile isIdentPart, ?_, ?_⟩
        · rw [isIdentifier, start, Bool.true_and, List.all_takeWhile]
        · have whole := List.takeWhile_append_dropWhile (p := isIdentPart) (l := rest)
          rw [ended] at whole
          exact congrArg (first :: ·) whole.symm

theorem newline_notMem {name : Text} (identifier : isIdentifier name = true) : newline ∉ name := by
  intro member
  have part := isIdentPart_of_mem identifier member
  revert part
  decide

theorem mark_notMem {name : Text} (matched : identRe name = true) : Placeholders.mark ∉ name := by
  have notPart : isIdentPart Placeholders.mark = false := by decide
  intro member
  rcases isIdentifier_or_of_identRe matched with identifier | ⟨front, identifier, rfl⟩
  · rw [isIdentPart_of_mem identifier member] at notPart
    cases notPart
  · rcases List.mem_append.mp member with inFront | last
    · rw [isIdentPart_of_mem identifier inFront] at notPart
      cases notPart
    · revert last
      decide

/-- The check lets pass the identifiers, and with a newline after them. -/
theorem isIdentifier_iff {name : Text} (matched : identRe name = true) :
    isIdentifier name = true ↔ name.getLast? ≠ some newline := by
  constructor
  · intro identifier last
    exact newline_notMem identifier (List.mem_of_getLast? last)
  · intro notLast
    rcases isIdentifier_or_of_identRe matched with identifier | ⟨front, -, rfl⟩
    · exact identifier
    · exact absurd List.getLast?_concat notLast

/-! ## Words between commas -/

section Words

variable {words : List Text} {given : CodePoint}

theorem mem_separated_of_mem {word : Text} (member : word ∈ words) (within : given ∈ word) :
    given ∈ Statement.separated words := by
  induction words with
  | nil => cases member
  | cons first words induction =>
      cases words with
      | nil =>
          rw [List.mem_singleton] at member
          simpa [Statement.separated, ← member] using within
      | cons second words =>
          rw [Statement.separated, List.intercalate_cons_cons, List.mem_append]
          rcases List.mem_cons.mp member with rfl | later
          · simp [within]
          · exact .inr (induction later)

theorem notMem_separated (each : ∀ word ∈ words, given ∉ word) (other : given ∉ ofString ", ") :
    given ∉ Statement.separated words := by
  induction words with
  | nil => simp [Statement.separated]
  | cons first words induction =>
      have clear : given ∉ first := each first (by simp)
      cases words with
      | nil => simpa [Statement.separated] using clear
      | cons second words =>
          rw [Statement.separated, List.intercalate_cons_cons, List.mem_append, List.mem_append]
          rintro ((within | within) | within)
          · exact clear within
          · exact other within
          · exact induction (fun word member => each word (List.mem_cons_of_mem _ member)) within

theorem mark_notMem_separated (matched : ∀ word ∈ words, identRe word = true) :
    Placeholders.mark ∉ Statement.separated words :=
  notMem_separated (fun word member => mark_notMem (matched word member)) (by decide)

end Words

/-! ## Placeholders of the statements -/

theorem ends_of_head {text : Text} {first : CodePoint} (head : text.head? = some first)
    (other : Placeholders.isDigit first = false) : Placeholders.Ends text := by
  intro digit member
  rw [head] at member
  cases member
  exact other

theorem flatten_numbers (count : Nat) :
    ((List.range count).map fun i => [i + 1]).flatten = List.range' 1 count := by
  calc ((List.range count).map fun i => [i + 1]).flatten
      = (List.range count).map (· + 1) := List.map_eq_flatMap.symm
    _ = List.range' 1 count := by simp only [List.range'_eq_map_range, Nat.add_comm]

/-- `$1, $2, …`. -/
theorem holds_numbered (count : Nat) :
    Holds (Statement.separated ((List.range count).map fun i => placeholder (i + 1)))
      (List.range' 1 count) := by
  have each : List.Forall₂ Holds ((List.range count).map fun i => placeholder (i + 1))
      ((List.range count).map fun i => [i + 1]) := by
    rw [List.forall₂_map_left_iff, List.forall₂_map_right_iff, List.forall₂_same]
    intro i _
    exact Placeholders.holds_placeholder (i + 1)
  rw [← flatten_numbers]
  exact Placeholders.holds_intercalate (by decide) (ends_of_head rfl (by decide)) (by decide) each

/-- `a = $1, b = $2, …`. -/
theorem holds_assigned {columns : List Text} (matched : ∀ column ∈ columns, identRe column = true) :
    Holds (Statement.separated (columns.mapIdx fun i column =>
        column ++ ofString " = " ++ placeholder (i + 1)))
      (List.range' 1 columns.length) := by
  have each : List.Forall₂ Holds
      (columns.mapIdx fun i column => column ++ ofString " = " ++ placeholder (i + 1))
      ((List.range columns.length).map fun i => [i + 1]) := by
    rw [List.forall₂_iff_get]
    refine ⟨by simp, fun i inColumns inRange => ?_⟩
    have clear : Placeholders.mark ∉ columns.get ⟨i, by simpa using inRange⟩ ++ ofString " = " := by
      rw [List.mem_append]
      rintro (within | within)
      · exact mark_notMem (matched _ (List.get_mem _ _)) within
      · revert within
        decide
    simpa using (Placeholders.holds_placeholder (i + 1)).append_clear clear
  rw [← flatten_numbers]
  exact Placeholders.holds_intercalate (by decide) (ends_of_head rfl (by decide)) (by decide) each

/-- A word of a statement and a name or names after it hold none. -/
theorem placeholders_names {word names rest : Text} (clear : Placeholders.mark ∉ word)
    (clearNames : Placeholders.mark ∉ names) :
    placeholders (word ++ (names ++ rest)) = placeholders rest := by
  rw [Placeholders.placeholders_append clear, Placeholders.placeholders_append clearNames]

theorem placeholders_list {table order : Text} {columns : List Text}
    (matched : ∀ name ∈ table :: order :: columns, identRe name = true) :
    placeholders (Statement.list table columns order).text = [1, 2] := by
  obtain ⟨inTable, inOrder, inColumns⟩ : identRe table = true ∧ identRe order = true ∧
      ∀ column ∈ columns, identRe column = true := by simpa using matched
  simp only [Statement.text, List.append_assoc]
  rw [placeholders_names (by decide) (mark_notMem_separated inColumns),
    placeholders_names (by decide) (mark_notMem inTable),
    placeholders_names (by decide) (mark_notMem inOrder)]
  decide

theorem placeholders_get {table key : Text} {columns : List Text}
    (matched : ∀ name ∈ table :: key :: columns, identRe name = true) :
    placeholders (Statement.get table columns key).text = [1] := by
  obtain ⟨inTable, inKey, inColumns⟩ : identRe table = true ∧ identRe key = true ∧
      ∀ column ∈ columns, identRe column = true := by simpa using matched
  simp only [Statement.text, List.append_assoc]
  rw [placeholders_names (by decide) (mark_notMem_separated inColumns),
    placeholders_names (by decide) (mark_notMem inTable),
    placeholders_names (by decide) (mark_notMem inKey)]
  decide

theorem placeholders_delete {table key : Text}
    (matched : ∀ name ∈ [table, key], identRe name = true) :
    placeholders (Statement.delete table key).text = [1] := by
  obtain ⟨inTable, inKey⟩ : identRe table = true ∧ identRe key = true := by simpa using matched
  simp only [Statement.text, List.append_assoc]
  rw [placeholders_names (by decide) (mark_notMem inTable),
    placeholders_names (by decide) (mark_notMem inKey)]
  decide

theorem placeholders_insert {table : Text} {given returned : List Text}
    (matched : ∀ name ∈ table :: (given ++ returned), identRe name = true) :
    placeholders (Statement.insert table given returned).text = List.range' 1 given.length := by
  obtain ⟨inTable, inColumns⟩ := List.forall_mem_cons.mp matched
  obtain ⟨inGiven, inReturned⟩ := List.forall_mem_append.mp inColumns
  have after : Holds (ofString ") RETURNING " ++ Statement.separated returned) [] :=
    (Holds.of_clear (mark_notMem_separated inReturned)).append_clear (by decide)
  have places := (holds_numbered given.length).append after (ends_of_head rfl (by decide))
    (List.cons_ne_nil _ _)
  simp only [Statement.text, List.append_assoc]
  rw [placeholders_names (by decide) (mark_notMem inTable),
    placeholders_names (by decide) (mark_notMem_separated inGiven),
    Placeholders.placeholders_append (by decide), places.eq, List.append_nil]

theorem placeholders_update {table key : Text} {given returned : List Text}
    (matched : ∀ name ∈ table :: key :: (given ++ returned), identRe name = true) :
    placeholders (Statement.update table given key returned).text =
      List.range' 1 (given.length + 1) := by
  obtain ⟨inTable, inNames⟩ := List.forall_mem_cons.mp matched
  obtain ⟨inKey, inColumns⟩ := List.forall_mem_cons.mp inNames
  obtain ⟨inGiven, inReturned⟩ := List.forall_mem_append.mp inColumns
  have after : Holds (ofString " RETURNING " ++ Statement.separated returned) [] :=
    (Holds.of_clear (mark_notMem_separated inReturned)).append_clear (by decide)
  have ofKey := (Placeholders.holds_placeholder (given.length + 1)).append after
    (ends_of_head rfl (by decide)) (List.cons_ne_nil _ _)
  have condition : Holds (ofString " WHERE " ++ (key ++ (ofString " = " ++
      (placeholder (given.length + 1) ++ (ofString " RETURNING " ++
        Statement.separated returned))))) [given.length + 1] := by
    apply Holds.append_clear (by decide)
    apply Holds.append_clear (mark_notMem inKey)
    exact ofKey.append_clear (by decide)
  have places := (holds_assigned inGiven).append condition (ends_of_head rfl (by decide))
    (List.cons_ne_nil _ _)
  simp only [Statement.text, List.append_assoc] at places ⊢
  rw [placeholders_names (by decide) (mark_notMem inTable),
    Placeholders.placeholders_append (by decide), places.eq, List.range'_concat]
  simp [Nat.add_comm]

/-! ## Limits and offsets -/

theorem decimalDigit_lt {py : Python} {given : CodePoint} {digit : Nat}
    (read : py.decimalDigit given = some digit) : digit < 10 := by
  rw [Python.decimalDigit] at read
  split at read
  · split at read
    · rename_i isDigit
      rw [Placeholders.isDigit, Bool.and_eq_true, decide_eq_true_eq, decide_eq_true_eq] at isDigit
      cases read
      omega
    · cases read
  · obtain ⟨value, -, rfl⟩ := Option.map_eq_some_iff.mp read
    exact value.isLt

theorem readDigits_bounds {py : Python} {text : Text} {digits : List Nat}
    (read : py.readDigits text = some digits) :
    digits.length ≤ text.length ∧ ∀ digit ∈ digits, digit < 10 := by
  induction text using Python.readDigits.induct py generalizing digits with
  | case1 => cases read
  | case2 last =>
      obtain ⟨digit, found, rfl⟩ := Option.map_eq_some_iff.mp read
      simpa using decimalDigit_lt found
  | case3 first second rest none =>
      rw [Python.readDigits, none] at read
      cases read
  | case4 first second rest digit found afterMark afterDigit =>
      rw [Python.readDigits, found] at read
      obtain ⟨others, within, rfl⟩ := Option.map_eq_some_iff.mp read
      have below := decimalDigit_lt found
      split at within
      · obtain ⟨length, each⟩ := afterMark within
        refine ⟨by simp only [List.length_cons]; omega, ?_⟩
        simpa using ⟨below, each⟩
      · obtain ⟨length, each⟩ := afterDigit within
        refine ⟨by simp only [List.length_cons] at length ⊢; omega, ?_⟩
        simpa using ⟨below, each⟩

theorem number_lt_of_readDigits {py : Python} {text : Text} {digits : List Nat}
    (read : py.readDigits text = some digits) :
    Positional.number 10 digits < 10 ^ text.length := by
  obtain ⟨length, below⟩ := readDigits_bounds read
  exact (Positional.number_lt below).trans_le (Nat.pow_le_pow_right (by decide) length)

theorem length_strip_le (py : Python) (text : Text) : (py.strip text).length ≤ text.length :=
  (List.rdropWhile_prefix _ _).length_le.trans (List.dropWhile_suffix _).length_le

/-- A text that `int` reads has no more digits than characters. -/
theorem int_lt {py : Python} {text : Text} {number : Int} (read : py.int text = some number) :
    number < 10 ^ text.length := by
  have shorter := length_strip_le py text
  rw [Python.int] at read
  split at read
  · cases read
  · rename_i sign digits stripped
    rw [stripped, List.length_cons] at shorter
    have bound {part : Text} {values : List Nat} (found : py.readDigits part = some values)
        (short : part.length ≤ text.length) :
        (Positional.number 10 values : Int) < 10 ^ text.length := by
      have small := (number_lt_of_readDigits found).trans_le
        (Nat.pow_le_pow_right (by decide) short)
      exact_mod_cast small
    split at read
    · obtain ⟨values, found, rfl⟩ := Option.map_eq_some_iff.mp read
      have positive : (0 : Int) < 10 ^ text.length := by positivity
      omega
    · split at read
      · obtain ⟨values, found, rfl⟩ := Option.map_eq_some_iff.mp read
        exact bound found (by omega)
      · obtain ⟨values, found, rfl⟩ := Option.map_eq_some_iff.mp read
        exact bound found (by simpa using shorter)

namespace Registered

variable (crud : Registered I) (py : Python) (request : Request F)

/-- A parameter as long as the source reads, or a small default. -/
theorem intOf_lt {name : String} {default number : Int} (small : default < 10 ^ maxQueryIntDigits)
    (short : lengthStr (queryParam request name default) ≤ maxQueryIntDigits)
    (read : intOf py (queryParam request name default) = some number) :
    number < 10 ^ maxQueryIntDigits := by
  rw [queryParam] at short read
  cases given : request.query.lookup (ofString name) with
  | none =>
      rw [given] at read
      cases read
      exact small
  | some raw =>
      rw [given] at short read
      have below : number < 10 ^ raw.length := int_lt read
      have power : (10 : Int) ^ raw.length ≤ 10 ^ maxQueryIntDigits := by
        exact_mod_cast Nat.pow_le_pow_right (by decide) short
      exact below.trans_le power

theorem window_bounds {limit offset : Int} (read : crud.window py request = some (limit, offset)) :
    1 ≤ limit ∧ limit ≤ crud.maxLimit ∧ 0 ≤ offset ∧ offset < 10 ^ 18 := by
  rw [window] at read
  split at read
  · cases read
  · rename_i short
    split at read
    · rename_i rawLimit rawOffset foundLimit foundOffset
      cases read
      have bounds := crud.bounds
      have small : rawOffset < 10 ^ maxQueryIntDigits :=
        intOf_lt py request (by decide) (by omega) foundOffset
      rw [maxQueryIntDigits] at small
      omega
    · cases read

/-! ## What the handlers send -/

theorem identRe_of_mem {column : Text} (member : column ∈ crud.columns) : identRe column = true :=
  crud.identifiers column (List.mem_cons_of_mem _ member)

theorem identRe_table : identRe crud.table = true := crud.identifiers _ List.mem_cons_self

theorem mem_of_mem_presentIn {body : List (Text × Value F)} {columns : List Text} {column : Text}
    (member : column ∈ presentIn body columns) : column ∈ columns :=
  List.mem_of_mem_filter member

/-- The arguments for the columns present in a body. -/
theorem map_some_valuesOf (body : List (Text × Value F)) (columns : List Text) :
    (valuesOf body (presentIn body columns) : List (Argument F I)).map some =
      (presentIn body columns).map fun c => (body.lookup c).map .value := by
  rw [valuesOf, presentIn]
  induction columns with
  | nil => rfl
  | cons column columns induction =>
      cases found : body.lookup column with
      | none => simpa [found] using induction
      | some value => simpa [found] using induction

theorem length_valuesOf (body : List (Text × Value F)) (columns : List Text) :
    (valuesOf body (presentIn body columns) : List (Argument F I)).length =
      (presentIn body columns).length := by
  simpa using congrArg List.length (map_some_valuesOf (I := I) body columns)

theorem valueOf_eq {request : Request F} {members : List (Text × Value F)}
    (given : request.body = .value (.object members)) :
    (request.valueOf : Text → Option (Argument F I)) = fun column =>
      (members.lookup column).map .value := by
  funext column
  rw [Request.valueOf, given]

theorem id_of_parseId {request : Request F} {handle : I → Action F I R} {sql : Text}
    {arguments : List (Argument F I)}
    (sent : (crud.parseId request handle).sent = some (sql, arguments)) :
    ∃ id, crud.IdOf request id ∧ (handle id).sent = some (sql, arguments) := by
  rw [parseId] at sent
  split at sent
  · cases sent
  · rename_i raw given
    split at sent
    · rename_i id converted
      exact ⟨id, ⟨raw, given, converted⟩, sent⟩
    · cases sent
    · cases sent

theorem members_of_jsonObject {request : Request F}
    {handle : List (Text × Value F) → Action F I R} {sql : Text}
    {arguments : List (Argument F I)}
    (sent : (jsonObject request handle).sent = some (sql, arguments)) :
    ∃ members, request.body = .value (.object members) ∧
      (handle members).sent = some (sql, arguments) := by
  rw [jsonObject] at sent
  split at sent
  · rename_i members given
    exact ⟨members, given, sent⟩
  all_goals cases sent

/-- A statement over registered names is safe when these are identifiers. -/
theorem safe_of_statement {crud : Registered I} {request : Request F} {statement : Statement}
    {arguments : List (Argument F I)}
    (identifiers : ∀ name ∈ crud.table :: crud.columns, isIdentifier name = true)
    (table : statement.table = crud.table)
    (columns : ∀ column ∈ statement.columns, column ∈ crud.columns)
    (places : placeholders statement.text = List.range' 1 arguments.length)
    (takes : statement.Takes crud request arguments) :
    crud.Safe statement.route request statement.text arguments := by
  refine ⟨statement, rfl, rfl, table, columns, ?_, places, takes⟩
  rw [table]
  rintro name member
  rcases List.mem_cons.mp member with rfl | inColumns
  · exact identifiers _ List.mem_cons_self
  · exact identifiers name (List.mem_cons_of_mem _ (columns name inColumns))

/-! ### Route by route -/

section Routes

variable {crud} {request} {py} {sql : Text} {arguments : List (Argument F I)}
  (identifiers : ∀ name ∈ crud.table :: crud.columns, isIdentifier name = true)

include identifiers

theorem safe_listRows
    (sent : (crud.listRows py request : Action F I R).sent = some (sql, arguments)) :
    crud.Safe .list request sql arguments := by
  rw [listRows] at sent
  split at sent
  · cases sent
  · rename_i limit offset read
    cases sent
    have columns : ∀ column ∈ crud.idColumn :: crud.columns, column ∈ crud.columns := by
      simpa using crud.idListed
    have places := @placeholders_list crud.table crud.idColumn crud.columns
      (by simpa using ⟨crud.identRe_table, crud.identRe_of_mem crud.idListed,
        fun _ => crud.identRe_of_mem⟩)
    exact @safe_of_statement _ _ crud request (.list crud.table crud.columns crud.idColumn)
      [.int limit, .int offset] identifiers rfl columns places
      ⟨limit, offset, rfl, crud.window_bounds py request read⟩

theorem safe_getRow (sent : (crud.getRow request : Action F I R).sent = some (sql, arguments)) :
    crud.Safe .get request sql arguments := by
  obtain ⟨id, ofRequest, sent⟩ := crud.id_of_parseId sent
  cases sent
  have columns : ∀ column ∈ crud.idColumn :: crud.columns, column ∈ crud.columns := by
    simpa using crud.idListed
  have places := @placeholders_get crud.table crud.idColumn crud.columns
    (by simpa using ⟨crud.identRe_table, crud.identRe_of_mem crud.idListed,
      fun _ => crud.identRe_of_mem⟩)
  exact @safe_of_statement _ _ crud request (.get crud.table crud.columns crud.idColumn)
    [.id id] identifiers rfl columns places ⟨rfl, id, ofRequest, rfl⟩

theorem safe_deleteRow
    (sent : (crud.deleteRow request : Action F I R).sent = some (sql, arguments)) :
    crud.Safe .delete request sql arguments := by
  obtain ⟨id, ofRequest, sent⟩ := crud.id_of_parseId sent
  cases sent
  have columns : ∀ column ∈ [crud.idColumn], column ∈ crud.columns := by
    simpa using crud.idListed
  have places := @placeholders_delete crud.table crud.idColumn
    (by simpa using ⟨crud.identRe_table, crud.identRe_of_mem crud.idListed⟩)
  exact @safe_of_statement _ _ crud request (.delete crud.table crud.idColumn)
    [.id id] identifiers rfl columns places ⟨rfl, id, ofRequest, rfl⟩

theorem safe_createRow
    (sent : (crud.createRow py request : Action F I R).sent = some (sql, arguments)) :
    crud.Safe .create request sql arguments := by
  obtain ⟨members, given, sent⟩ := members_of_jsonObject sent
  simp only at sent
  split at sent
  · cases sent
  · cases sent
    have columns : ∀ column ∈ presentIn members crud.columns ++ crud.columns,
        column ∈ crud.columns := by
      simpa [or_imp] using fun _ => mem_of_mem_presentIn
    have places := @placeholders_insert crud.table (presentIn members crud.columns) crud.columns (by
      simpa [or_imp, forall_and] using ⟨crud.identRe_table,
        fun _ member => crud.identRe_of_mem (mem_of_mem_presentIn member),
        fun _ => crud.identRe_of_mem⟩)
    rw [← length_valuesOf (I := I)] at places
    have takes := map_some_valuesOf (I := I) members crud.columns
    rw [← valueOf_eq given] at takes
    exact @safe_of_statement _ _ crud request
      (.insert crud.table (presentIn members crud.columns) crud.columns) _ identifiers rfl columns
      places takes

theorem safe_updateRow
    (sent : (crud.updateRow py request : Action F I R).sent = some (sql, arguments)) :
    crud.Safe .update request sql arguments := by
  obtain ⟨id, ofRequest, sent⟩ := crud.id_of_parseId sent
  obtain ⟨members, given, sent⟩ := members_of_jsonObject sent
  simp only at sent
  split at sent
  · cases sent
  · cases sent
    have ofOthers {column : Text} (member : column ∈ presentIn members crud.nonIdCols) :
        column ∈ crud.columns ∧ column ≠ crud.idColumn := by
      simpa [nonIdCols] using mem_of_mem_presentIn member
    have columns : ∀ column ∈ crud.idColumn :: presentIn members crud.nonIdCols ++ crud.columns,
        column ∈ crud.columns := by
      simpa [or_imp, forall_and] using ⟨crud.idListed, fun _ member => (ofOthers member).1⟩
    have places := @placeholders_update crud.table crud.idColumn
      (presentIn members crud.nonIdCols) crud.columns (by
        simpa [or_imp, forall_and] using ⟨crud.identRe_table, crud.identRe_of_mem crud.idListed,
          fun _ member => crud.identRe_of_mem (ofOthers member).1, fun _ => crud.identRe_of_mem⟩)
    have length : (valuesOf members (presentIn members crud.nonIdCols) ++ [.id id] :
        List (Argument F I)).length = (presentIn members crud.nonIdCols).length + 1 := by
      rw [List.length_append, length_valuesOf, List.length_singleton]
    rw [← length] at places
    have takes : (valuesOf members (presentIn members crud.nonIdCols) ++ [.id id] :
        List (Argument F I)).map some =
          (presentIn members crud.nonIdCols).map request.valueOf ++ [some (.id id)] := by
      rw [List.map_append, map_some_valuesOf, valueOf_eq given]
      rfl
    exact @safe_of_statement _ _ crud request
      (.update crud.table (presentIn members crud.nonIdCols) crud.idColumn crud.columns) _
      identifiers rfl columns places
      ⟨rfl, fun member => (ofOthers member).2 rfl, id, ofRequest, takes⟩

theorem safe_handle {route : Route}
    (sent : (crud.handle py route request : Action F I R).sent = some (sql, arguments)) :
    crud.Safe route request sql arguments := by
  cases route with
  | list => exact safe_listRows identifiers sent
  | get => exact safe_getRow identifiers sent
  | create => exact safe_createRow identifiers sent
  | update => exact safe_updateRow identifiers sent
  | delete => exact safe_deleteRow identifiers sent

end Routes

/-! ### A newline in a name -/

/-- The first row of a listing. -/
def firstRow : Request F := ⟨none, [(ofString "limit", ofString "1")], .raised, []⟩

theorem sent_firstRow (crud : Registered I) (py : Python) :
    (crud.listRows py (firstRow : Request F) : Action F I R).sent =
      some (crud.listSql, [.int 1, .int 0]) := by
  have read : crud.window py (firstRow : Request F) = some (1, 0) := by
    have bounds := crud.bounds
    have least : max 1 (min 1 crud.maxLimit) = 1 := by omega
    have given : crud.window py (firstRow : Request F) =
      some (max 1 (min 1 crud.maxLimit), max 0 0) := rfl
    rw [given, least]
    rfl
  rw [listRows, read]
  rfl

theorem newline_mem_listSql {name : Text} (member : name ∈ crud.table :: crud.columns)
    (last : name.getLast? = some newline) : newline ∈ crud.listSql := by
  have within : newline ∈ name := List.mem_of_getLast? last
  simp only [listSql, List.mem_append]
  rcases List.mem_cons.mp member with rfl | listed
  · simp [within]
  · have inColumns : newline ∈ crud.colList := mem_separated_of_mem listed within
    simp [inColumns]

theorem newline_notMem_list {table order : Text} {columns : List Text}
    (identifiers : ∀ name ∈ table :: order :: columns, isIdentifier name = true) :
    newline ∉ (Statement.list table columns order).text := by
  obtain ⟨inTable, inOrder, inColumns⟩ : isIdentifier table = true ∧ isIdentifier order = true ∧
      ∀ column ∈ columns, isIdentifier column = true := by simpa using identifiers
  have words := notMem_separated (fun word member => newline_notMem (inColumns word member))
    (by decide : newline ∉ ofString ", ")
  simp only [Statement.text, List.mem_append, not_or]
  exact ⟨⟨⟨⟨⟨⟨by decide, words⟩, by decide⟩, newline_notMem inTable⟩, by decide⟩,
    newline_notMem inOrder⟩, by decide⟩

theorem not_safe_of_newline {name : Text} (member : name ∈ crud.table :: crud.columns)
    (last : name.getLast? = some newline) (arguments : List (Argument F I)) :
    ¬ crud.Safe .list request crud.listSql arguments := by
  rintro ⟨statement, route, text, -, -, identifiers, -⟩
  cases statement with
  | list table columns order =>
      have absent : newline ∉ (Statement.list table columns order).text :=
        newline_notMem_list identifiers
      rw [text] at absent
      exact absent (crud.newline_mem_listSql member last)
  | _ => cases route

end Registered

theorem names_of_registerCrud {py : Python} {config : Config I} {crud : Registered I}
    (registered : registerCrud py config = .ok crud) :
    crud.table = config.table ∧ crud.columns = config.columns := by
  rw [registerCrud] at registered
  iterate 15 obtain ⟨_, -, registered⟩ := Except.ok_of_bind registered
  cases registered
  exact ⟨rfl, rfl⟩

/-- What the routes of a table send is safe if and only if no name of the registration ends with a
newline. -/
theorem sent_safe_iff (py : Python) (config : Config I) (crud : Registered I)
    (registered : registerCrud py config = .ok crud) :
    (∀ (route : Route) (request : Request F) (sql : Text) (arguments : List (Argument F I)),
      (crud.handle py route request : Action F I R).sent = some (sql, arguments) →
        crud.Safe route request sql arguments) ↔
      ∀ name ∈ config.table :: config.columns, name.getLast? ≠ some newline := by
  obtain ⟨table, columns⟩ := names_of_registerCrud registered
  rw [← table, ← columns]
  constructor
  · intro safe name member last
    have sent : (crud.handle py .list (Registered.firstRow : Request F) : Action F I R).sent =
      some (crud.listSql, [.int 1, .int 0]) := crud.sent_firstRow py
    exact crud.not_safe_of_newline _ member last _ (safe .list _ _ _ sent)
  · intro plain route request sql arguments sent
    apply Registered.safe_handle _ sent
    intro name member
    exact (isIdentifier_iff (crud.identifiers name member)).mpr (plain name member)

/-! ### A table of users -/

/-- An interpreter without digits and blanks beyond ASCII. -/
def asciiPython : Python where
  repr text := ofString "'" ++ text ++ ofString "'"
  digit _ := none
  isSpace _ := false

def intId (raw : Text) : Converted Int :=
  match asciiPython.int raw with
  | some id => .value id
  | none => .refused (ofString "invalid literal for int() with base 10: " ++ asciiPython.repr raw)

def usersConfig (table : String) : Config Int where
  pathPrefix := ofString "/users"
  table := ofString table
  columns := [ofString "id", ofString "name"]
  idColumn := ofString "id"
  idType := .callable intId
  defaultLimit := .int 100
  maxLimit := .int 1000

theorem sent_safe_users :
    ∃ crud, registerCrud asciiPython (usersConfig "users") = .ok crud ∧
      ∀ (route : Route) (request : Request Empty) (sql : Text)
        (arguments : List (Argument Empty Int)),
        (crud.handle asciiPython route request : Action Empty Int Unit).sent =
            some (sql, arguments) →
          crud.Safe route request sql arguments := by
  refine ⟨_, rfl, ?_⟩
  apply (sent_safe_iff asciiPython (usersConfig "users") _ rfl).mpr
  decide

/-- A name with a newline after it is registered, and sent. -/
theorem newline_sent :
    ∃ crud, registerCrud asciiPython (usersConfig "users\n") = .ok crud ∧
      ¬ ∀ (route : Route) (request : Request Empty) (sql : Text)
        (arguments : List (Argument Empty Int)),
        (crud.handle asciiPython route request : Action Empty Int Unit).sent =
            some (sql, arguments) →
          crud.Safe route request sql arguments := by
  refine ⟨_, rfl, fun safe => ?_⟩
  apply Registered.not_safe_of_newline _ _ List.mem_cons_self _ _
    (safe .list Registered.firstRow _ _ (Registered.sent_firstRow _ asciiPython))
  rfl

end Crud

end Pyronova
