import Mathlib.Tactic
import Pyronova.Placeholders

/-!
# CRUD routes and the statements they send

`register_crud` puts five routes before a table.  The names of the table and its columns are checked
once, at registration, and are written into the statements as they are; what a request brings goes
into their arguments.
-/

namespace Pyronova

namespace Crud

open Json (CodePoint Text Value codePoint ofString)
open Placeholders (placeholder placeholders)

/-! ## What the interpreter brings -/

/-- `repr`, and the digits and blanks beyond ASCII. -/
structure Python where
  repr : Text → Text
  digit : CodePoint → Option (Fin 10)
  isSpace : CodePoint → Bool

/-- `repr` of a list of names. -/
def Python.reprNames (py : Python) (names : List Text) : Text :=
  ofString "[" ++ (ofString ", ").intercalate (names.map py.repr) ++ ofString "]"

/-- `str` of an `int`. -/
def strInt (number : Int) : Text := ofString (toString number)

def Python.decimalDigit (py : Python) (given : CodePoint) : Option Nat :=
  if given.val < 0x80 then
    if Placeholders.isDigit given then some (given.val - 0x30) else none
  else (py.digit given).map Fin.val

def Python.isBlank (py : Python) (given : CodePoint) : Bool :=
  if given.val < 0x80 then given.val = 0x20 || (0x09 ≤ given.val && given.val ≤ 0x0d)
  else py.isSpace given

/-- Decimal digits, with at most one `_` between two of them. -/
def Python.readDigits (py : Python) : Text → Option (List Nat)
  | [] => none
  | [last] => (py.decimalDigit last).map fun digit => [digit]
  | first :: second :: rest =>
      match py.decimalDigit first with
      | none => none
      | some digit =>
          (if second = codePoint '_' then py.readDigits rest
            else py.readDigits (second :: rest)).map (digit :: ·)

def Python.strip (py : Python) (text : Text) : Text :=
  (text.dropWhile py.isBlank).rdropWhile py.isBlank

/-- `int` of a `str`; without a value, `ValueError`. -/
def Python.int (py : Python) (text : Text) : Option Int :=
  match py.strip text with
  | [] => none
  | sign :: digits =>
      if sign = codePoint '-' then
        (py.readDigits digits).map fun digits => -(Positional.number 10 digits : Int)
      else if sign = codePoint '+' then
        (py.readDigits digits).map fun digits => (Positional.number 10 digits : Int)
      else (py.readDigits (sign :: digits)).map fun digits => (Positional.number 10 digits : Int)

/-! ## Registration -/

/-- `_IDENT_RE.match`: a final newline is before the end of the text for `$`. -/
def isIdentStart (given : CodePoint) : Bool :=
  (0x41 ≤ given.val && given.val ≤ 0x5a) || (0x61 ≤ given.val && given.val ≤ 0x7a) ||
    given = codePoint '_'

def isIdentPart (given : CodePoint) : Bool := isIdentStart given || Placeholders.isDigit given

def identRe : Text → Bool
  | [] => false
  | first :: rest =>
      isIdentStart first &&
        (rest.dropWhile isIdentPart = [] || rest.dropWhile isIdentPart = ofString "\n")

inductive ErrorKind
  | valueError
  | typeError
  deriving DecidableEq, Repr

/-- The exception of a registration. -/
structure Refusal where
  kind : ErrorKind
  text : Text
  deriving DecidableEq

def valueError (text : Text) : Refusal := ⟨.valueError, text⟩

def typeError (text : Text) : Refusal := ⟨.typeError, text⟩

/-- An argument that should be an `int`. -/
inductive Given
  | int (number : Int)
  | bool (value : Bool)
  | other (typeName : Text)

/-- What `id_type(raw)` comes to. -/
inductive Converted (I : Type)
  | value (id : I)
  /-- `TypeError` or `ValueError`. -/
  | refused (reason : Text)
  | raised

/-- The argument `id_type`. -/
inductive IdType (I : Type)
  | callable (convert : Text → Converted I)
  | other (typeName : Text)

structure Config (I : Type) where
  pathPrefix : Text
  table : Text
  columns : List Text
  idColumn : Text
  idType : IdType I
  defaultLimit : Given
  maxLimit : Given

/-- The routes of a table, as far as a registration fixes them. -/
structure Registered (I : Type) where
  table : Text
  columns : List Text
  idColumn : Text
  convert : Text → Converted I
  defaultLimit : Int
  maxLimit : Int
  unique : columns.Nodup
  idListed : idColumn ∈ columns
  identifiers : ∀ name ∈ table :: columns, identRe name = true
  bounds : 1 ≤ defaultLimit ∧ defaultLimit ≤ maxLimit
  otherColumn : columns.filter (· ≠ idColumn) ≠ []

local instance : LawfulBEq Text := inferInstance

variable {I F R : Type}

/-- A check, with what it has checked. -/
def require (condition : Prop) [Decidable condition] (refusal : Refusal) :
    Except Refusal (PLift condition) :=
  if holds : condition then .ok ⟨holds⟩ else .error refusal

/-- `_validate_ident`. -/
def validateIdent (py : Python) (role : String) (name : Text) :
    Except Refusal (PLift (identRe name = true)) :=
  require _ (valueError (ofString "invalid SQL identifier for " ++ ofString role ++
    ofString ": " ++ py.repr name ++ ofString " (must match [A-Za-z_][A-Za-z0-9_]*)"))

def validateIdents (py : Python) (role : String) :
    (names : List Text) → Except Refusal (PLift (∀ name ∈ names, identRe name = true))
  | [] => .ok ⟨by simp⟩
  | name :: names => do
      let ⟨first⟩ ← validateIdent py role name
      let ⟨rest⟩ ← validateIdents py role names
      .ok ⟨by simpa using ⟨first, rest⟩⟩

def requireCallable : IdType I → Except Refusal (Text → Converted I)
  | .callable convert => .ok convert
  | .other typeName => .error (typeError (ofString "id_type must be callable, got " ++ typeName))

def requireInt (role : String) : Given → Except Refusal Int
  | .int number => .ok number
  | .bool _ => .error (typeError (ofString role ++ ofString " must be int, got bool"))
  | .other typeName =>
      .error (typeError (ofString role ++ ofString " must be int, got " ++ typeName))

/-- `register_crud`, its checks in their order. -/
def registerCrud (py : Python) (config : Config I) : Except Refusal (Registered I) := do
  let _ ← require (config.pathPrefix.head? = some (codePoint '/'))
    (valueError (ofString "prefix must start with '/'"))
  let _ ← require (config.pathPrefix.getLast? ≠ some (codePoint '/'))
    (valueError (ofString "prefix must not end with '/'"))
  let _ ← require (config.columns ≠ []) (valueError (ofString "columns must not be empty"))
  let ⟨unique⟩ ← require config.columns.Nodup
    (valueError (ofString "columns must be unique, got duplicates in " ++
      py.reprNames config.columns))
  let convert ← requireCallable config.idType
  let defaultLimit ← requireInt "default_limit" config.defaultLimit
  let maxLimit ← requireInt "max_limit" config.maxLimit
  let ⟨positive⟩ ← require (1 ≤ defaultLimit)
    (valueError (ofString "default_limit must be >= 1, got " ++ strInt defaultLimit))
  let _ ← require (1 ≤ maxLimit)
    (valueError (ofString "max_limit must be >= 1, got " ++ strInt maxLimit))
  let ⟨within⟩ ← require (defaultLimit ≤ maxLimit)
    (valueError (ofString "default_limit (" ++ strInt defaultLimit ++
      ofString ") must not exceed max_limit (" ++ strInt maxLimit ++ ofString ")"))
  let ⟨table⟩ ← validateIdent py "table" config.table
  let ⟨columns⟩ ← validateIdents py "column" config.columns
  let _ ← validateIdent py "id_column" config.idColumn
  let ⟨idListed⟩ ← require (config.idColumn ∈ config.columns)
    (valueError (ofString "id_column " ++ py.repr config.idColumn ++
      ofString " must be included in columns=" ++ py.reprNames config.columns))
  let ⟨otherColumn⟩ ← require (config.columns.filter (· ≠ config.idColumn) ≠ [])
    (valueError (ofString "columns=" ++ py.reprNames config.columns ++
      ofString " must include at least one non-PK column besides id_column " ++
      py.repr config.idColumn ++ ofString " (PUT can only update non-PK columns)"))
  .ok { table := config.table, columns := config.columns, idColumn := config.idColumn,
        convert, defaultLimit, maxLimit, unique, idListed,
        identifiers := by simpa using ⟨table, columns⟩, bounds := ⟨positive, within⟩, otherColumn }

/-! ## Requests and replies -/

/-- What `req.json()` comes to. -/
inductive Body (F : Type)
  | value (value : Value F)
  /-- `ValueError`. -/
  | malformed (reason : Text)
  | raised

/-- What a handler reads of a request. -/
structure Request (F : Type) where
  id : Option Text
  query : List (Text × Text)
  body : Body F
  requestId : Text

inductive Content (R : Type)
  | error (reason : Text)
  | serverError (requestId : Text)
  | rows (rows : List R)
  | row (row : R)
  | null
  | empty

/-- The status and the body; an exception is the framework's to answer. -/
inductive Reply (R : Type)
  | response (status : Nat) (content : Content R)
  | raised

/-- An argument of a statement. -/
inductive Argument (F I : Type)
  | int (number : Int)
  | id (id : I)
  | value (value : Value F)

/-- How a call of the pool ends. -/
inductive Outcome (α : Type)
  | returned (value : α)
  | integrityError (reason : Text)
  | paramError (reason : Text)
  | otherError

/-- What a handler does: it replies, or it calls the pool with a statement and its arguments. -/
inductive Action (F I R : Type)
  | reply (reply : Reply R)
  | fetchAll (sql : Text) (arguments : List (Argument F I)) (finish : Outcome (List R) → Reply R)
  | fetchOne (sql : Text) (arguments : List (Argument F I)) (finish : Outcome (Option R) → Reply R)
  | execute (sql : Text) (arguments : List (Argument F I)) (finish : Outcome Nat → Reply R)

/-- The statement that is sent, and its arguments. -/
def Action.sent : Action F I R → Option (Text × List (Argument F I))
  | .reply _ => none
  | .fetchAll sql arguments _ | .fetchOne sql arguments _ | .execute sql arguments _ =>
      some (sql, arguments)

/-- `_query`, with what the handler makes of the result. -/
def query {α : Type} (request : Request F) (finish : α → Reply R) : Outcome α → Reply R
  | .returned value => finish value
  | .integrityError reason => .response 409 (.error reason)
  | .paramError reason => .response 422 (.error reason)
  | .otherError => .response 500 (.serverError request.requestId)

/-- `_json_object`, with what the handler makes of the members. -/
def jsonObject (request : Request F) (handle : List (Text × Value F) → Action F I R) :
    Action F I R :=
  match request.body with
  | .value (.object members) => handle members
  | .value _ => .reply (.response 400 (.error (ofString "body must be a JSON object")))
  | .malformed reason => .reply (.response 400 (.error (ofString "invalid JSON: " ++ reason)))
  | .raised => .reply .raised

namespace Registered

variable (crud : Registered I) (py : Python)

/-- `", ".join`. -/
def joinNames (names : List Text) : Text := (ofString ", ").intercalate names

def colList : Text := joinNames crud.columns

def nonIdCols : List Text := crud.columns.filter (· ≠ crud.idColumn)

/-- `parse_id`, with what the handler makes of the id. -/
def parseId (request : Request F) (handle : I → Action F I R) : Action F I R :=
  match request.id with
  | none => .reply (.response 400 (.error (ofString "missing id")))
  | some raw =>
      match crud.convert raw with
      | .value id => handle id
      | .refused reason => .reply (.response 400 (.error (ofString "invalid id: " ++ reason)))
      | .raised => .reply .raised

/-! ### The statements -/

def listSql : Text :=
  ofString "SELECT " ++ crud.colList ++ ofString " FROM " ++ crud.table ++ ofString " ORDER BY " ++
    crud.idColumn ++ ofString " LIMIT $1 OFFSET $2"

def getSql : Text :=
  ofString "SELECT " ++ crud.colList ++ ofString " FROM " ++ crud.table ++ ofString " WHERE " ++
    crud.idColumn ++ ofString " = $1"

def insertSql (present : List Text) : Text :=
  ofString "INSERT INTO " ++ crud.table ++ ofString " (" ++ joinNames present ++
    ofString ") VALUES (" ++
    joinNames ((List.range present.length).map fun i => placeholder (i + 1)) ++
    ofString ") RETURNING " ++ crud.colList

def updateSql (present : List Text) : Text :=
  ofString "UPDATE " ++ crud.table ++ ofString " SET " ++
    joinNames (present.mapIdx fun i c => c ++ ofString " = " ++ placeholder (i + 1)) ++
    ofString " WHERE " ++ crud.idColumn ++ ofString " = " ++ placeholder (present.length + 1) ++
    ofString " RETURNING " ++ crud.colList

def deleteSql : Text :=
  ofString "DELETE FROM " ++ crud.table ++ ofString " WHERE " ++ crud.idColumn ++ ofString " = $1"

/-! ### The handlers -/

/-- `_MAX_QUERY_INT_DIGITS`. -/
def maxQueryIntDigits : Nat := 18

/-- `len(str(raw))`, of a parameter or of its default. -/
def lengthStr : Text ⊕ Int → Nat
  | .inl text => text.length
  | .inr number => (strInt number).length

def intOf : Text ⊕ Int → Option Int
  | .inl text => py.int text
  | .inr number => some number

/-- `q.get(name, default)`. -/
def queryParam (request : Request F) (name : String) (default : Int) : Text ⊕ Int :=
  match request.query.lookup (ofString name) with
  | some raw => .inl raw
  | none => .inr default

/-- The limit and the offset of a listing; without them, `ValueError`. -/
def window (request : Request F) : Option (Int × Int) :=
  let rawLimit := queryParam request "limit" crud.defaultLimit
  let rawOffset := queryParam request "offset" 0
  if max (lengthStr rawLimit) (lengthStr rawOffset) > maxQueryIntDigits then none
  else
    match intOf py rawLimit, intOf py rawOffset with
    | some limit, some offset => some (max 1 (min limit crud.maxLimit), max offset 0)
    | _, _ => none

/-- `list_rows`. -/
def listRows (request : Request F) : Action F I R :=
  match crud.window py request with
  | none => .reply (.response 400 (.error (ofString "invalid limit/offset")))
  | some (limit, offset) =>
      .fetchAll crud.listSql [.int limit, .int offset]
        (query request fun rows => .response 200 (.rows rows))

/-- The reply to a statement about one row. -/
def oneRow (request : Request F) : Outcome (Option R) → Reply R :=
  query request fun
    | some row => .response 200 (.row row)
    | none => .response 404 (.error (ofString "not found"))

/-- `get_row`. -/
def getRow (request : Request F) : Action F I R :=
  crud.parseId request fun id => .fetchOne crud.getSql [.id id] (oneRow request)

/-- `[c for c in columns if c in body]`. -/
def presentIn (body : List (Text × Value F)) (columns : List Text) : List Text :=
  columns.filter fun c => (body.lookup c).isSome

/-- `[body[c] for c in present]`; each of them is in the body. -/
def valuesOf (body : List (Text × Value F)) (present : List Text) : List (Argument F I) :=
  present.filterMap fun c => (body.lookup c).map .value

/-- `create_row`. -/
def createRow (request : Request F) : Action F I R :=
  jsonObject request fun body =>
    let present := presentIn body crud.columns
    if present = [] then
      .reply (.response 422 (.error (ofString "body must include at least one of " ++
        py.reprNames crud.columns)))
    else
      .fetchOne (crud.insertSql present) (valuesOf body present)
        (query request fun
          | some row => .response 201 (.row row)
          | none => .response 201 .null)

/-- `update_row`. -/
def updateRow (request : Request F) : Action F I R :=
  crud.parseId request fun id =>
    jsonObject request fun body =>
      let present := presentIn body crud.nonIdCols
      if present = [] then
        .reply (.response 422 (.error (ofString "body must include at least one of " ++
          py.reprNames crud.nonIdCols)))
      else
        .fetchOne (crud.updateSql present) (valuesOf body present ++ [.id id]) (oneRow request)

/-- `delete_row`. -/
def deleteRow (request : Request F) : Action F I R :=
  crud.parseId request fun id =>
    .execute crud.deleteSql [.id id] (query request fun
      | 0 => .response 404 (.error (ofString "not found"))
      | _ => .response 204 .empty)

end Registered

/-- The five routes. -/
inductive Route
  | list
  | get
  | create
  | update
  | delete
  deriving DecidableEq, Repr

def Registered.handle (crud : Registered I) (py : Python) : Route → Request F → Action F I R
  | .list => crud.listRows py
  | .get => crud.getRow
  | .create => crud.createRow py
  | .update => crud.updateRow py
  | .delete => crud.deleteRow

end Crud

end Pyronova
