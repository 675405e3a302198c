import Mathlib.Tactic
import Pyronova.Headers
import Pyronova.HookChain
import Pyronova.Inversion

/-!
# A `Response` made again from its attributes

Python sees a `Response` as a body, a status code, a content type and a `dict` of headers, where a
name with one line maps to a `str` and one with several to a list.  A `Response` made again from
these has the lines of the first, each name's in their order, so after hooks that return nothing,
what they were given, or such a copy leave the response as the handler made it.
-/

namespace Pyronova

/-! ## Headers from and to a `dict` -/

/-- A Python object where a `str` is asked for. -/
inductive HeaderText
  | str (text : PyStr)
  | other (typeName : String)
  deriving DecidableEq, Repr

/-- The value of a header in a `dict`. -/
inductive HeaderArg
  | item (item : HeaderText)
  | list (items : List HeaderText)
  | tuple (items : List HeaderText)
  deriving DecidableEq, Repr

/-- A `dict` of headers, in insertion order. -/
abbrev HeaderDict := List (HeaderText × HeaderArg)

/-- Why a `dict` is no headers; `UnicodeEncodeError`, `TypeError` or `ValueError` in Python. -/
inductive HeaderError
  | notUnicode (codePoints : List Nat)
  | nameType (typeName : String)
  | valueType (name typeName : String)
  | invalidName (name : String)
  | invalidValue (name value : String)
  deriving DecidableEq, Repr

/-- The text of an error, given how a string is quoted and the texts of the problems found by the
header types and by the interpreter. -/
def HeaderError.text (quoted : String → String) (nameProblem valueProblem : String)
    (unicodeProblem : List Nat → String) : HeaderError → String
  | .notUnicode codePoints => unicodeProblem codePoints
  | .nameType typeName => "response header name must be str, got " ++ typeName
  | .valueType name typeName =>
      "response header " ++ quoted name ++ ": value must be str or a list of str, got " ++ typeName
  | .invalidName name => "invalid header name " ++ quoted name ++ ": " ++ nameProblem
  | .invalidValue name value =>
      "header " ++ quoted name ++ ": invalid value " ++ quoted value ++ ": " ++ valueProblem

/-- The characters of a header name. -/
def tokenChars : List Char :=
  ("!#$%&'*+-.^_`|~0123456789abcdefghijklmnopqrstuvwxyz" ++ "ABCDEFGHIJKLMNOPQRSTUVWXYZ").toList

/-- `HeaderName::from_bytes`: a token, in lower case. -/
def headerNameOf (name : String) : Option String :=
  if name.toList ≠ [] ∧ name.toList.length ≤ 65535 ∧ name.toList.all tokenChars.contains then
    some (String.ofList (headerName name))
  else none

/-- `header_name`. -/
def checkedName (name : String) : Except HeaderError String :=
  match headerNameOf name with
  | some name => .ok name
  | none => .error (.invalidName name)

/-- `header_value`. -/
def headerValueOf (name value : String) : Except HeaderError HeaderValue :=
  match fromStr value.toList with
  | some value => .ok value
  | none => .error (.invalidValue name value)

def strItem (key : String) : HeaderText → Except HeaderError String
  | .str (.text text) => .ok text
  | .str (.surrogates codePoints) => .error (.notUnicode codePoints)
  | .other typeName => .error (.valueType key typeName)

/-- The lines of a header: the items of a list or tuple, else the value itself. -/
def headerItems (key : String) : HeaderArg → Except HeaderError (List HeaderText)
  | .list items | .tuple items => .ok items
  | .item item => do
      let _ ← strItem key item
      .ok [item]

def headerKey : HeaderText → Except HeaderError String
  | .str (.text text) => .ok text
  | .str (.surrogates codePoints) => .error (.notUnicode codePoints)
  | .other typeName => .error (.nameType typeName)

namespace ResponseHeaders

/-- Append the items of one header as its lines. -/
def appendItems (key name : String) :
    List HeaderText → ResponseHeaders → Except HeaderError ResponseHeaders
  | [], headers => .ok headers
  | item :: items, headers => do
      let text ← strItem key item
      let value ← headerValueOf key text
      appendItems key name items (headers.append name value)

/-- `from_py`, from what was made of the entries before. -/
def fromPyOnto : HeaderDict → ResponseHeaders → Except HeaderError ResponseHeaders
  | [], headers => .ok headers
  | (key, value) :: rest, headers => do
      let key ← headerKey key
      let name ← checkedName key
      let items ← headerItems key value
      fromPyOnto rest (← appendItems key name items headers)

def fromPy (dict : HeaderDict) : Except HeaderError ResponseHeaders := fromPyOnto dict []

/-- The names, in the order of their first lines. -/
def keys : ResponseHeaders → List String
  | [] => []
  | line :: lines => line.1 :: (keys lines).filter fun name => !named line.1 (name, "")

/-- A `str` for one line, a list for several. -/
def argOf : List HeaderValue → HeaderArg
  | [one] => .item (.str (.text one))
  | many => .list (many.map fun line => .str (.text line))

def toPy (headers : ResponseHeaders) : HeaderDict :=
  headers.keys.map fun name => (.str (.text name), argOf (headers.getAll name))

/-- Every line is one that `from_py` could have made: a name in lower case, a value without control
characters. -/
def Valid (headers : ResponseHeaders) : Prop :=
  ∀ line ∈ headers, headerNameOf line.1 = some line.1 ∧ fromStr line.2.toList = some line.2

/-! ### There and back -/

/-- The lines of a list of names, one name after the other. -/
def linesOf (headers : ResponseHeaders) (names : List String) : ResponseHeaders :=
  names.flatMap fun name => (headers.getAll name).map fun value => (name, value)

variable {headers : ResponseHeaders}

theorem mem_of_mem_getAll {name : String} {value : HeaderValue}
    (member : value ∈ headers.getAll name) : ∃ line ∈ headers, line.2 = value := by
  obtain ⟨line, kept, rfl⟩ := List.mem_map.mp member
  exact ⟨line, List.mem_of_mem_filter kept, rfl⟩

theorem mem_of_mem_keys {name : String} (member : name ∈ headers.keys) :
    ∃ line ∈ headers, line.1 = name := by
  induction headers with
  | nil => cases member
  | cons line lines induction =>
      rcases List.mem_cons.mp member with rfl | later
      · exact ⟨line, List.mem_cons_self, rfl⟩
      · obtain ⟨other, present, same⟩ := induction (List.mem_of_mem_filter later)
        exact ⟨other, List.mem_cons_of_mem _ present, same⟩

theorem headerItems_argOf (key : String) (lines : List HeaderValue) :
    headerItems key (argOf lines) = .ok (lines.map fun line => .str (.text line)) := by
  match lines with
  | [] => rfl
  | [one] => rfl
  | _ :: _ :: _ => rfl

theorem appendItems_ok (key name : String) {lines : List HeaderValue}
    (valid : ∀ line ∈ lines, fromStr line.toList = some line) (before : ResponseHeaders) :
    appendItems key name (lines.map fun line => .str (.text line)) before =
      .ok (before ++ lines.map fun value => (name, value)) := by
  induction lines generalizing before with
  | nil => simp [appendItems]
  | cons line lines induction =>
      obtain ⟨first, rest⟩ := List.forall_mem_cons.mp valid
      have value : headerValueOf key line = .ok line := by rw [headerValueOf, first]
      have later := induction rest (before.append name line)
      have joined : before.append name line ++ lines.map (fun value => (name, value)) =
          before ++ (line :: lines).map fun value => (name, value) := List.append_assoc _ _ _
      rw [joined] at later
      simp only [List.map_cons, appendItems, strItem, bind, Except.bind, value] at later ⊢
      exact later

theorem fromPyOnto_map (valid : headers.Valid) {names : List String}
    (known : ∀ name ∈ names, name ∈ headers.keys) (before : ResponseHeaders) :
    fromPyOnto (names.map fun name => (.str (.text name), argOf (headers.getAll name))) before =
      .ok (before ++ headers.linesOf names) := by
  induction names generalizing before with
  | nil => simp [fromPyOnto, linesOf]
  | cons name names induction =>
      obtain ⟨first, rest⟩ := List.forall_mem_cons.mp known
      obtain ⟨line, present, rfl⟩ := mem_of_mem_keys first
      have values : ∀ value ∈ headers.getAll line.1, fromStr value.toList = some value := by
        intro value member
        obtain ⟨other, present, rfl⟩ := mem_of_mem_getAll member
        exact (valid other present).2
      have lines := appendItems_ok line.1 line.1 values before
      have later := induction rest
      simp only [List.map_cons, fromPyOnto, headerKey, checkedName, (valid line present).1,
        headerItems_argOf, bind, Except.bind, lines, later, linesOf, List.flatMap_cons,
        List.append_assoc]

/-- What Python sees of valid headers makes the same lines again, one name after the other. -/
theorem fromPy_toPy (valid : headers.Valid) :
    fromPy headers.toPy = .ok (headers.linesOf headers.keys) := by
  have made := fromPyOnto_map valid (fun _ => id) []
  rwa [List.nil_append] at made

theorem getAll_linesOf (names : List String) (name : String) :
    (headers.linesOf names).getAll name =
      names.flatMap fun other =>
        if headerName other = headerName name then headers.getAll name else [] := by
  induction names with
  | nil => rfl
  | cons other names induction =>
      rw [linesOf, List.flatMap_cons, List.flatMap_cons, getAll, List.filter_append,
        List.map_append, ← linesOf, ← getAll, ← getAll, induction]
      congr 1
      rw [getAll, List.filter_map, List.map_map]
      by_cases same : headerName other = headerName name
      · have own : named name ∘ (fun value => (other, value)) = fun _ => true := by
          funext value
          simp [named, same]
        rw [if_pos same, own, List.filter_true, getAll_congr same]
        exact List.map_id _
      · have foreign : named name ∘ (fun value => (other, value)) = fun _ => false := by
          funext value
          simp [named, same]
        rw [if_neg same, foreign, List.filter_false, List.map_nil]

theorem flatMap_filter_of_nil {α β : Type*} {keep : α → Bool} {f : α → List β}
    (nothing : ∀ element, keep element = false → f element = []) (list : List α) :
    (list.filter keep).flatMap f = list.flatMap f := by
  induction list with
  | nil => rfl
  | cons first rest induction =>
      cases kept : keep first with
      | true =>
          rw [List.filter_cons_of_pos kept, List.flatMap_cons, induction, List.flatMap_cons]
      | false =>
          rw [List.filter_cons_of_neg (by simp [kept]), List.flatMap_cons, nothing first kept,
            List.nil_append, induction]

/-- A name that has lines is one of the names, once. -/
theorem flatMap_keys {α : Type} (name : String) (lines : List α) :
    (headers.keys.flatMap fun other =>
      if headerName other = headerName name then lines else []) =
      if headers.containsKey name then lines else [] := by
  induction headers with
  | nil => rfl
  | cons line rest induction =>
      rw [keys, List.flatMap_cons, containsKey, List.any_cons, ← containsKey]
      by_cases same : headerName line.1 = headerName name
      · have own : named name line = true := beq_iff_eq.mpr same
        have others : ((keys rest).filter fun other => !named line.1 (other, "")).flatMap
            (fun other => if headerName other = headerName name then lines else []) = [] := by
          rw [List.flatMap_eq_nil_iff]
          intro other kept
          have different : headerName other ≠ headerName line.1 := by
            simpa [named] using List.of_mem_filter kept
          exact if_neg (same ▸ different)
        rw [if_pos same, others, own, List.append_nil]
        rfl
      · have foreign : named name line = false := beq_false_of_ne same
        have others : ((keys rest).filter fun other => !named line.1 (other, "")).flatMap
            (fun other => if headerName other = headerName name then lines else []) =
              (keys rest).flatMap fun other =>
                if headerName other = headerName name then lines else [] := by
          apply flatMap_filter_of_nil
          intro other dropped
          have own : headerName other = headerName line.1 := by simpa [named] using dropped
          exact if_neg (own ▸ same)
        rw [if_neg same, others, induction, foreign]
        rfl

theorem getAll_eq_nil {name : String} (absent : ¬headers.containsKey name) :
    headers.getAll name = [] := by
  have none : headers.filter (named name) = [] := by
    rw [List.filter_eq_nil_iff]
    intro line member own
    exact absent (List.any_eq_true.mpr ⟨line, member, own⟩)
  rw [getAll, none, List.map_nil]

/-- The lines of every name are what they were, in their order. -/
theorem getAll_regrouped (name : String) :
    (headers.linesOf headers.keys).getAll name = headers.getAll name := by
  rw [getAll_linesOf, flatMap_keys]
  split
  · rfl
  · rename_i absent
    exact (getAll_eq_nil absent).symm

theorem Valid.linesOf (valid : headers.Valid) {names : List String}
    (known : ∀ name ∈ names, name ∈ headers.keys) : (headers.linesOf names).Valid := by
  intro line member
  obtain ⟨name, listed, made⟩ := List.mem_flatMap.mp member
  obtain ⟨value, present, rfl⟩ := List.mem_map.mp made
  obtain ⟨named, namedPresent, rfl⟩ := mem_of_mem_keys (known name listed)
  obtain ⟨valued, valuedPresent, rfl⟩ := mem_of_mem_getAll present
  exact ⟨(valid named namedPresent).1, (valid valued valuedPresent).2⟩

/-! ### What `from_py` makes is valid -/

theorem toLower_token {c : Char} (token : tokenChars.contains c) :
    tokenChars.contains c.toLower ∧ c.toLower.toLower = c.toLower := by
  have every : tokenChars.all (fun c =>
      tokenChars.contains c.toLower && c.toLower.toLower == c.toLower) = true := by decide
  have both := List.all_eq_true.mp every c (List.contains_iff_mem.mp token)
  simpa using both

/-- A name is compared as the key it was made of. -/
theorem headerName_headerNameOf {key name : String} (made : headerNameOf key = some name) :
    headerName name = headerName key := by
  obtain ⟨⟨-, -, all⟩, same⟩ := Option.ite_none_right_eq_some.mp made
  rw [← Option.some.inj same, headerName, String.toList_ofList, headerName, List.map_map]
  exact List.map_congr_left fun c member => (toLower_token (List.all_eq_true.mp all c member)).2

theorem headerNameOf_headerNameOf {key name : String} (made : headerNameOf key = some name) :
    headerNameOf name = some name := by
  have again := headerName_headerNameOf made
  obtain ⟨⟨nonempty, length, all⟩, same⟩ := Option.ite_none_right_eq_some.mp made
  obtain rfl := Option.some.inj same
  have lower : (String.ofList (headerName key)).toList = key.toList.map Char.toLower :=
    String.toList_ofList
  rw [headerNameOf, again, if_pos]
  rw [lower, List.length_map, List.all_map]
  refine ⟨by simpa using nonempty, length, List.all_eq_true.mpr fun c member => ?_⟩
  exact (toLower_token (List.all_eq_true.mp all c member)).1

theorem headerValueOf_valid {name text : String} {value : HeaderValue}
    (made : headerValueOf name text = .ok value) : fromStr value.toList = some value := by
  rw [headerValueOf] at made
  split at made
  · rename_i parsed
    obtain rfl := Except.ok.inj made
    rw [fromStr_eq_some parsed, parsed]
  · cases made

theorem Valid.append (valid : headers.Valid) {name : String} {value : HeaderValue}
    (named : headerNameOf name = some name) (valued : fromStr value.toList = some value) :
    (headers.append name value).Valid := by
  intro line member
  rcases List.mem_append.mp member with before | added
  · exact valid line before
  · obtain rfl := List.mem_singleton.mp added
    exact ⟨named, valued⟩

theorem appendItems_valid {key name : String} (named : headerNameOf name = some name)
    {items : List HeaderText} {before after : ResponseHeaders} (valid : before.Valid)
    (made : appendItems key name items before = .ok after) : after.Valid := by
  induction items generalizing before with
  | nil =>
      obtain rfl := Except.ok.inj made
      exact valid
  | cons item items induction =>
      obtain ⟨text, -, made⟩ := Except.ok_of_bind made
      obtain ⟨value, checked, made⟩ := Except.ok_of_bind made
      exact induction (valid.append named (headerValueOf_valid checked)) made

theorem fromPyOnto_valid {dict : HeaderDict} {before after : ResponseHeaders} (valid : before.Valid)
    (made : fromPyOnto dict before = .ok after) : after.Valid := by
  induction dict generalizing before with
  | nil =>
      obtain rfl := Except.ok.inj made
      exact valid
  | cons entry rest induction =>
      obtain ⟨key, -, made⟩ := Except.ok_of_bind made
      obtain ⟨name, known, made⟩ := Except.ok_of_bind made
      obtain ⟨items, -, made⟩ := Except.ok_of_bind made
      obtain ⟨longer, appended, made⟩ := Except.ok_of_bind made
      have named : headerNameOf name = some name := by
        rw [checkedName] at known
        split at known
        · rename_i found
          obtain rfl := Except.ok.inj known
          exact headerNameOf_headerNameOf found
        · cases known
      exact induction (appendItems_valid named valid appended) made

theorem fromPy_valid {dict : HeaderDict} (made : fromPy dict = .ok headers) : headers.Valid :=
  fromPyOnto_valid (fun line member => by cases member) made

end ResponseHeaders

/-! ## A response and its copy -/

/-- What is made of a handler's value passed the checks of the header types. -/
structure ResponseData.Valid (data : ResponseData) : Prop where
  contentType : fromStr data.contentType.toList = some data.contentType
  headers : data.headers.Valid

/-- One response: the same body, content type and status, and for every name the same lines in the
same order. -/
structure ResponseData.Same (left right : ResponseData) : Prop where
  body : left.body = right.body
  contentType : left.contentType = right.contentType
  status : left.status = right.status
  headers : ∀ name, left.headers.getAll name = right.headers.getAll name

theorem ResponseData.Same.refl (data : ResponseData) : data.Same data :=
  ⟨rfl, rfl, rfl, fun _ => rfl⟩

theorem ResponseData.Same.trans {first second third : ResponseData} (left : first.Same second)
    (right : second.Same third) : first.Same third where
  body := left.body.trans right.body
  contentType := left.contentType.trans right.contentType
  status := left.status.trans right.status
  headers name := (left.headers name).trans (right.headers name)

section Copies

variable {World Object Exc : Type*}

namespace PyronovaResponse

def contentTypeArg : Option String → Except HeaderError (Option HeaderValue)
  | some text => (headerValueOf "content_type" text).map some
  | none => .ok none

def headersArg : Option HeaderDict → Except HeaderError ResponseHeaders
  | some dict => ResponseHeaders.fromPy dict
  | none => .ok []

/-- `Response(body, status_code, content_type, headers)`. -/
def new (body : PyValue Object) (statusCode : UInt16) (contentType : Option String)
    (headers : Option HeaderDict) : Except HeaderError (PyronovaResponse Object) :=
  match contentTypeArg contentType with
  | .error error => .error error
  | .ok contentType =>
      match headersArg headers with
      | .error error => .error error
      | .ok headers => .ok { body, statusCode, contentType, headers }

/-- A `Response` made from the attributes of another. -/
def rebuilt (response : PyronovaResponse Object) : Except HeaderError (PyronovaResponse Object) :=
  new response.body response.statusCode response.contentType (some response.headers.toPy)

end PyronovaResponse

variable (interpreter : Interpreter World Object Exc)

theorem bodyOf_toPy (data : ResponseData) (world : World) :
    ∃ derived, bodyOf interpreter data.toPy.body world = (.ok (data.body, derived), world) := by
  simp only [ResponseData.toPy]
  split
  · rename_i text decoded
    refine ⟨TEXT, ?_⟩
    simp only [bodyOf, textBody, textBytes, utf8Encode_of_decode decoded]
  · exact ⟨OCTET_STREAM, rfl⟩

/-- The response of a `Response` with some headers and the other attributes of another response. -/
theorem fromResponse_toPy (data : ResponseData) (headers : ResponseHeaders) (world : World) :
    fromResponse interpreter { (data.toPy : PyronovaResponse Object) with headers } world =
      (.ok { data with headers }, world) := by
  have valid : @httpStatus Exc data.status.val = .ok data.status := dif_pos data.status.property
  obtain ⟨derived, made⟩ := bodyOf_toPy interpreter data world
  have status : (data.toPy : PyronovaResponse Object).statusCode = data.status.val := rfl
  have contentType :
      (data.toPy : PyronovaResponse Object).contentType = some data.contentType := rfl
  simp only [fromResponse, status, valid, made, contentType, Option.getD_some]

theorem rebuilt_toPy {data : ResponseData} (valid : data.Valid) :
    (data.toPy : PyronovaResponse Object).rebuilt =
      .ok { data.toPy with headers := data.headers.linesOf data.headers.keys } := by
  have contentType : PyronovaResponse.contentTypeArg (some data.contentType) =
      .ok (some data.contentType) := by
    rw [PyronovaResponse.contentTypeArg, headerValueOf, valid.contentType]
    rfl
  have headers : PyronovaResponse.headersArg (some data.headers.toPy) = .ok _ :=
    ResponseHeaders.fromPy_toPy valid.headers
  simp only [PyronovaResponse.rebuilt, PyronovaResponse.new, ResponseData.toPy, contentType,
    headers]

theorem same_regrouped (data : ResponseData) :
    { data with headers := data.headers.linesOf data.headers.keys }.Same data :=
  ⟨rfl, rfl, rfl, ResponseHeaders.getAll_regrouped⟩

theorem valid_regrouped {data : ResponseData} (valid : data.Valid) :
    { data with headers := data.headers.linesOf data.headers.keys }.Valid :=
  ⟨valid.contentType, valid.headers.linesOf fun _ => id⟩

/-- The headers of a `Response` were checked when it was made. -/
theorem new_valid {body : PyValue Object} {statusCode : UInt16} {contentType : Option String}
    {headers : Option HeaderDict} {response : PyronovaResponse Object}
    (made : PyronovaResponse.new body statusCode contentType headers = .ok response) :
    (∀ given, response.contentType = some given → fromStr given.toList = some given) ∧
      response.headers.Valid := by
  rw [PyronovaResponse.new] at made
  split at made
  · cases made
  rename_i checkedType typeMade
  split at made
  · cases made
  rename_i checkedHeaders headersMade
  obtain rfl := Except.ok.inj made
  constructor
  · rintro given rfl
    cases contentType with
    | none => cases typeMade
    | some text =>
        cases value : headerValueOf "content_type" text with
        | error error => simp [PyronovaResponse.contentTypeArg, value, Except.map] at typeMade
        | ok checked =>
            have same : checked = given := by
              simpa [PyronovaResponse.contentTypeArg, value, Except.map] using typeMade
            exact same ▸ ResponseHeaders.headerValueOf_valid value
  · cases headers with
    | none =>
        obtain rfl := Except.ok.inj headersMade
        intro line member
        cases member
    | some dict => exact ResponseHeaders.fromPy_valid headersMade

/-- The types a body has by itself are valid values. -/
theorem bodyOf_valid {value : PyValue Object} {world after : World} {body : Bytes}
    {derived : HeaderValue} (made : bodyOf interpreter value world = (.ok (body, derived), after)) :
    fromStr derived.toList = some derived := by
  have constants : ∀ constant ∈ [JSON, TEXT, OCTET_STREAM],
      fromStr constant.toList = some constant := by decide
  have ofText {text : PyStr} (text_made : textBody interpreter text = .ok (body, derived)) :
      derived = TEXT := by
    rw [textBody] at text_made
    split at text_made
    · exact (Prod.mk.inj (Except.ok.inj text_made)).2.symm
    · cases text_made
  apply constants
  rw [bodyOf.eq_def] at made
  split at made
  · split at made
    · have ok := Except.ok.inj (Prod.mk.inj made).1
      simp [← (Prod.mk.inj ok).2]
    · cases (Prod.mk.inj made).1
  · simp [ofText (Prod.mk.inj made).1]
  · have ok := Except.ok.inj (Prod.mk.inj made).1
    simp [← (Prod.mk.inj ok).2]
  · have ok := Except.ok.inj (Prod.mk.inj made).1
    simp [← (Prod.mk.inj ok).2]
  · have ok := Except.ok.inj (Prod.mk.inj made).1
    simp [← (Prod.mk.inj ok).2]
  all_goals
    split at made
    · simp [ofText (Prod.mk.inj made).1]
    · cases (Prod.mk.inj made).1

theorem fromResponse_valid {response : PyronovaResponse Object}
    (contentType : ∀ given, response.contentType = some given → fromStr given.toList = some given)
    (headers : response.headers.Valid) {world after : World} {data : ResponseData}
    (mapped : fromResponse interpreter response world = (.ok data, after)) : data.Valid := by
  rw [fromResponse] at mapped
  split at mapped
  · cases mapped
  split at mapped
  · rename_i body derived between made
    obtain rfl := Except.ok.inj (Prod.mk.inj mapped).1
    have derivedValid := bodyOf_valid interpreter made
    refine ⟨?_, headers⟩
    cases given : response.contentType with
    | none => exact derivedValid
    | some given' => exact contentType given' given
  · cases mapped

/-- The response of a handler's value is valid, the headers of a `Response` being checked when it is
made. -/
theorem extractResponseData_valid {value : PyValue Object}
    (checked : ∀ body statusCode contentType headers,
      value = .response body statusCode contentType headers →
        (∀ given, contentType = some given → fromStr given.toList = some given) ∧ headers.Valid)
    {world after : World} {data : ResponseData}
    (mapped : extractResponseData interpreter value world = (.ok data, after)) : data.Valid := by
  rw [extractResponseData.eq_def] at mapped
  split at mapped
  · rename_i body statusCode contentType headers
    obtain ⟨contentTypeValid, headersValid⟩ := checked _ _ _ _ rfl
    exact fromResponse_valid interpreter contentTypeValid headersValid mapped
  · rw [plainResponse] at mapped
    split at mapped
    · rename_i body derived between made
      obtain rfl := Except.ok.inj (Prod.mk.inj mapped).1
      exact ⟨bodyOf_valid interpreter made, fun line member => by cases member⟩
    · cases mapped

/-! ## After hooks that change nothing -/

/-- `Chain::after` with the response mapping of the main interpreter or of a worker, from the hook
at `index` on. -/
def chainAfterWith
    (toResponse : PyValue Object → World → Except (ResponseError Exc) ResponseData × World) :
    Nat → List (AfterHook World Object Exc) → ResponseData → Run World Object Exc ResponseData
  | _, [], response => .done response
  | index, hook :: hooks, response =>
      (Run.call (.after index response.toPy) .afterHook (hook response.toPy)).andThen fun
        | .none => chainAfterWith toResponse (index + 1) hooks response
        | value => (Run.convert (toResponse value)).andThen
            (chainAfterWith toResponse (index + 1) hooks)

theorem chainAfter_eq (hooks : List (AfterHook World Object Exc)) (index : Nat)
    (response : ResponseData) :
    chainAfter interpreter index hooks response =
      chainAfterWith (workerResponse interpreter) index hooks response := by
  induction hooks generalizing index response with
  | nil => rfl
  | cons hook hooks induction =>
      rw [chainAfter, chainAfterWith]
      congr 1
      funext value
      cases value <;> simp only [induction]
      all_goals
        congr 1
        funext data
        exact induction _ data

/-- The hook returns nothing, the `Response` it was given, or a copy made from its attributes. -/
def KeepsResponse (hook : AfterHook World Object Exc) : Prop :=
  ∀ response world, ∃ value after, hook response world = (.ok value, after) ∧
    (value = .none ∨ value = response.toValue ∨
      ∃ copy, response.rebuilt = .ok copy ∧ value = copy.toValue)

theorem result_call_andThen {α β : Type*} {record : HookCall Object} {stage : Stage}
    {body : World → Except Exc α × World} {next : α → Run World Object Exc β}
    {world after : World} {value : α} (returned : body world = (.ok value, after)) :
    ((Run.call record stage body).andThen next world).result = (next value after).result := by
  simp only [Run.andThen, Run.call, returned]

theorem result_convert_andThen {α β : Type*}
    {mapping : World → Except (ResponseError Exc) α × World} {next : α → Run World Object Exc β}
    {world after : World} {value : α} (mapped : mapping world = (.ok value, after)) :
    ((Run.convert mapping).andThen next world).result = (next value after).result := by
  simp only [Run.andThen, Run.convert, mapped]

variable {interpreter}
  {toResponse : PyValue Object → World → Except (ResponseError Exc) ResponseData × World}

/-- A `Response` is mapped the same way in every interpreter. -/
theorem toResponse_toPy
    (mapping : toResponse = extractResponseData interpreter ∨
      toResponse = workerResponse interpreter)
    (data : ResponseData) (headers : ResponseHeaders) (world : World) :
    toResponse (PyronovaResponse.toValue { data.toPy with headers }) world =
      (.ok { data with headers }, world) := by
  have mapped := fromResponse_toPy interpreter data headers world
  rcases mapping with rfl | rfl <;> exact mapped

/-- One hook that changes nothing leaves the response, up to the order of its names. -/
theorem result_hook
    (mapping : toResponse = extractResponseData interpreter ∨
      toResponse = workerResponse interpreter)
    {hook : AfterHook World Object Exc} (keeps : KeepsResponse hook)
    (hooks : List (AfterHook World Object Exc)) {data : ResponseData} (valid : data.Valid)
    (index : Nat) (world : World) :
    ∃ next after, next.Same data ∧ next.Valid ∧
      (chainAfterWith toResponse index (hook :: hooks) data world).result =
        (chainAfterWith toResponse (index + 1) hooks next after).result := by
  obtain ⟨value, after, returned, kept⟩ := keeps data.toPy world
  rw [chainAfterWith, result_call_andThen returned]
  rcases kept with rfl | rfl | ⟨copy, made, rfl⟩
  · exact ⟨data, after, .refl data, valid, rfl⟩
  · exact ⟨data, after, .refl data, valid,
      result_convert_andThen (toResponse_toPy mapping data data.headers after)⟩
  · rw [rebuilt_toPy valid] at made
    obtain rfl := Except.ok.inj made
    exact ⟨_, after, same_regrouped data, valid_regrouped valid,
      result_convert_andThen (toResponse_toPy mapping data _ after)⟩

theorem result_hooks
    (mapping : toResponse = extractResponseData interpreter ∨
      toResponse = workerResponse interpreter)
    {hooks : List (AfterHook World Object Exc)} (keep : ∀ hook ∈ hooks, KeepsResponse hook)
    {data : ResponseData} (valid : data.Valid) (index : Nat) (world : World) :
    ∃ final, (chainAfterWith toResponse index hooks data world).result = .ok final ∧
      final.Same data := by
  induction hooks generalizing data index world with
  | nil => exact ⟨data, rfl, .refl data⟩
  | cons hook hooks induction =>
      obtain ⟨first, rest⟩ := List.forall_mem_cons.mp keep
      obtain ⟨next, after, same, nextValid, step⟩ :=
        result_hook mapping first hooks valid index world
      obtain ⟨final, ended, sameFinal⟩ := induction rest nextValid (index + 1) after
      exact ⟨final, step.trans ended, sameFinal.trans same⟩

/-- A response survives the way to Python and back, and so does one made again from what Python sees
of it, each name's lines in their order.  Any chain of after hooks that return nothing, what they
were given, or such a copy leaves it as the handler made it. -/
theorem response_survives_hooks (data : ResponseData) :
    (∀ world, fromResponse interpreter data.toPy world = (.ok data, world)) ∧
      (data.Valid → ∃ copy, (data.toPy : PyronovaResponse Object).rebuilt = .ok copy ∧
        ∀ world, ∃ again, fromResponse interpreter copy world = (.ok again, world) ∧
          again.Same data) ∧
      (data.Valid → ∀ hooks : List (AfterHook World Object Exc),
        (∀ hook ∈ hooks, KeepsResponse hook) →
        ∀ toResponse,
          toResponse = extractResponseData interpreter ∨ toResponse = workerResponse interpreter →
        ∀ index world, ∃ final,
          (chainAfterWith toResponse index hooks data world).result = .ok final ∧
            final.Same data) := by
  refine ⟨fun world => fromResponse_toPy interpreter data data.headers world, ?_, ?_⟩
  · intro valid
    exact ⟨_, rebuilt_toPy valid, fun world =>
      ⟨_, fromResponse_toPy interpreter data _ world, same_regrouped data⟩⟩
  · intro valid hooks keep toResponse mapping index world
    exact result_hooks mapping keep valid index world

end Copies

/-- A body that is no text, two lines of one name around another, and hooks of all three kinds. -/
theorem response_survives_hooks_copied :
    let data : ResponseData :=
      { body := [255], contentType := "image/png", status := .OK
        headers := [("set-cookie", "a=1"), ("x-name", "caf\u00e9"), ("set-cookie", "b=2")] }
    let copy : AfterHook Unit Unit Unit := fun response world =>
      match response.rebuilt with
      | .ok copy => (.ok copy.toValue, world)
      | .error _ => (.ok .none, world)
    ∃ final, (chainAfterWith (workerResponse emptyDictInterpreter) 0
        [copy, fun _ world => (.ok .none, world),
          fun response world => (.ok response.toValue, world), copy] data ()).result = .ok final ∧
      final.Same data := by
  intro data copy
  have valid : data.Valid := ⟨by decide, by unfold ResponseHeaders.Valid; decide⟩
  have copies : KeepsResponse copy := by
    intro response world
    cases made : response.rebuilt with
    | ok again => exact ⟨_, world, by simp only [copy, made], .inr (.inr ⟨again, rfl, rfl⟩)⟩
    | error error => exact ⟨.none, world, by simp only [copy, made], .inl rfl⟩
  refine (response_survives_hooks data).2.2 valid _ ?_ _ (.inr rfl) 0 ()
  intro hook member
  simp only [List.mem_cons, List.not_mem_nil, or_false] at member
  rcases member with rfl | rfl | rfl | rfl
  · exact copies
  · exact fun response world => ⟨.none, world, rfl, .inl rfl⟩
  · exact fun response world => ⟨_, world, rfl, .inr (.inl rfl)⟩
  · exact copies

end Pyronova
