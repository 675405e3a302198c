import Mathlib.Tactic
import Pyronova.DecimalDigits
import Pyronova.Inversion
import Pyronova.PyText
import Pyronova.RequestHeaders
import Pyronova.ResponseRebuild

/-!
# Cookies

`set_cookie` writes a cookie into a `Set-Cookie` line and refuses the characters that would end its
field or the line.  `get_cookies` reads the `Cookie` field lines that a client sends back, joined
into one: blanks around a name or a value do not count and quotes around a value are taken off.  So
a cookie comes back as it was set exactly when it has neither.
-/

namespace Pyronova

/-! ## Setting a cookie -/

/-- `_COOKIE_FORBIDDEN`. -/
def COOKIE_FORBIDDEN : List Char := ['\r', '\n', '\x00', ';', ',']

inductive SameSite
  | STRICT
  | LAX
  | NONE
  deriving DecidableEq, Repr

namespace SameSite

def value : SameSite → String
  | .STRICT => "Strict"
  | .LAX => "Lax"
  | .NONE => "None"

/-- `SameSite(text)`. -/
def ofText (text : PyStr) : Option SameSite :=
  [STRICT, LAX, NONE].find? fun member => PyStr.text member.value = text

end SameSite

/-- What is given as `max_age`; a `bool` is no number of seconds. -/
inductive MaxAge
  | int (seconds : Int)
  | other (typeName : String)
  deriving DecidableEq, Repr

/-- A moment as `datetime.timetuple` gives it in GMT; weeks start on Monday. -/
structure GmtTime where
  weekday : Fin 7
  day : Fin 32
  /-- January is 0. -/
  month : Fin 12
  year : Fin 10000
  hour : Fin 24
  minute : Fin 60
  second : Fin 60
  deriving DecidableEq, Repr

def WEEKDAYS : Fin 7 → String := !["Mon", "Tue", "Wed", "Thu", "Fri", "Sat", "Sun"]

def MONTHS : Fin 12 → String :=
  !["Jan", "Feb", "Mar", "Apr", "May", "Jun", "Jul", "Aug", "Sep", "Oct", "Nov", "Dec"]

/-- `email.utils.format_datetime` with `usegmt`. -/
def GmtTime.httpDate (time : GmtTime) : String :=
  let padded (width number : Nat) := String.ofList (DecimalDigits.padded width number)
  WEEKDAYS time.weekday ++ ", " ++ padded 2 time.day ++ " " ++ MONTHS time.month ++ " " ++
    padded 4 time.year ++ " " ++ padded 2 time.hour ++ ":" ++ padded 2 time.minute ++ ":" ++
    padded 2 time.second ++ " GMT"

/-- What is given as `expires`: a `datetime` with a time zone, as the moment it is in GMT if that is
a `datetime`, one without, as it is shown, or something else. -/
inductive Expires
  | aware (moment : GmtTime)
  | outOfRange
  | naive (shown : String)
  | other (typeName : String)
  deriving DecidableEq, Repr

structure CookieOptions where
  maxAge : Option MaxAge := none
  expires : Option Expires := none
  path : PyStr := .text "/"
  domain : Option PyStr := none
  secure : Bool := false
  httponly : Bool := false
  samesite : Option PyStr := some (.text SameSite.LAX.value)
  deriving DecidableEq, Repr

inductive CookieError
  | emptyName
  | forbidden (field : String) (character : Char)
  | maxAgeType (typeName : String)
  | expiresType (typeName : String)
  | expiresNaive (shown : String)
  | expiresRange
  | samesite (given : PyStr)
  | insecureNone
  | header (error : HeaderError)
  deriving DecidableEq, Repr

/-- The text of an error, given how strings are quoted and the text of a header error. -/
def CookieError.text (quoted : PyStr → String) (headerText : HeaderError → String) :
    CookieError → String
  | .emptyName => "cookie name must not be empty (RFC 6265 §4.1.1)"
  | .forbidden field character =>
      "cookie " ++ field ++ " contains forbidden character " ++
        quoted (.text (String.ofList [character])) ++
        "; refusing to emit (HTTP response splitting risk)"
  | .maxAgeType typeName => "cookie max_age must be an int (got " ++ typeName ++ ")"
  | .expiresType typeName => "cookie expires must be a datetime, got " ++ typeName
  | .expiresNaive shown =>
      "cookie expires=" ++ shown ++ " has no timezone; pass an aware datetime " ++
        "so the GMT time sent to the browser is unambiguous"
  | .expiresRange => "date value out of range"
  | .samesite given => quoted given ++ " is not a valid SameSite"
  | .insecureNone =>
      "SameSite=None requires Secure=True; browsers silently drop " ++
        "SameSite=None cookies that are not Secure (Chrome 80+, Firefox, Safari)"
  | .header error => headerText error

/-- `_reject_control_chars`. -/
def rejectControlChars (field : String) (value : PyStr) : Except CookieError Unit :=
  match COOKIE_FORBIDDEN.find? value.contains with
  | some character => .error (.forbidden field character)
  | none => .ok ()

def rejectInDomain : Option PyStr → Except CookieError Unit
  | some domain => rejectControlChars "domain" domain
  | none => .ok ()

def rejectInPath (path : PyStr) : Except CookieError Unit :=
  if path.isTrue then rejectControlChars "path" path else .ok ()

def maxAgePart : Option MaxAge → Except CookieError (List PyStr)
  | none => .ok []
  | some (.int seconds) => .ok [.text ("Max-Age=" ++ toString seconds)]
  | some (.other typeName) => .error (.maxAgeType typeName)

/-- With `_http_date`. -/
def expiresPart : Option Expires → Except CookieError (List PyStr)
  | none => .ok []
  | some (.aware moment) => .ok [.text ("Expires=" ++ moment.httpDate)]
  | some .outOfRange => .error .expiresRange
  | some (.naive shown) => .error (.expiresNaive shown)
  | some (.other typeName) => .error (.expiresType typeName)

def pathPart (path : PyStr) : List PyStr := if path.isTrue then [.text "Path=" ++ path] else []

def domainPart : Option PyStr → List PyStr
  | some domain => if domain.isTrue then [.text "Domain=" ++ domain] else []
  | none => []

def flagPart (name : String) (given : Bool) : List PyStr := if given then [.text name] else []

def samesitePart (secure : Bool) : Option PyStr → Except CookieError (List PyStr)
  | none => .ok []
  | some given =>
      match SameSite.ofText given with
      | none => .error (.samesite given)
      | some member =>
          if member = .NONE ∧ ¬secure then .error .insecureNone
          else .ok [.text ("SameSite=" ++ member.value)]

/-- The value of the `Set-Cookie` line. -/
def cookieText (name value : PyStr) (options : CookieOptions) : Except CookieError PyStr :=
  if name.isTrue then do
    rejectControlChars "name" name
    rejectControlChars "value" value
    rejectInDomain options.domain
    rejectInPath options.path
    let maxAge ← maxAgePart options.maxAge
    let expires ← expiresPart options.expires
    let samesite ← samesitePart options.secure options.samesite
    .ok (PyStr.join (.text "; ")
      ((name ++ .text "=" ++ value) ::
        (maxAge ++ expires ++ pathPart options.path ++ domainPart options.domain ++
          flagPart "Secure" options.secure ++ flagPart "HttpOnly" options.httponly ++ samesite)))
  else .error .emptyName

def isSetCookie : HeaderText → Bool
  | .str (.text key) => lower key.toList = "set-cookie".toList
  | _ => false

/-- A list with one more item; a value alone becomes the first of two. -/
def withCookie (cookie : PyStr) : HeaderArg → HeaderArg
  | .list items => .list (items ++ [.str cookie])
  | .item existing => .list [existing, .str cookie]
  | .tuple _ => .list [.other "tuple", .str cookie]

/-- The cookie goes to the first key that is `set-cookie` in any case, or to a new one. -/
def appendCookie (cookie : PyStr) : HeaderDict → HeaderDict
  | [] => [(.str (.text "set-cookie"), .item (.str cookie))]
  | (key, value) :: rest =>
      if isSetCookie key then (key, withCookie cookie value) :: rest
      else (key, value) :: appendCookie cookie rest

/-- `set_cookie`. -/
def setCookie {Object : Type*} (response : PyronovaResponse Object) (name value : PyStr)
    (options : CookieOptions) : Except CookieError (PyronovaResponse Object) :=
  match cookieText name value options with
  | .error error => .error error
  | .ok cookie =>
      (PyronovaResponse.new response.body response.statusCode response.contentType
        (some (appendCookie cookie response.headers.toPy))).mapError .header

/-! ## Reading the cookies of a request -/

/-- A value without the quotes around it; a lone quote is dropped. -/
def unwrapped (value : List Char) : List Char :=
  let value :=
    if 2 ≤ value.length ∧ value.head? = some '"' ∧ value.getLast? = some '"' then
      (value.drop 1).dropLast
    else value
  if value = ['"'] then [] else value

/-- One pair between semicolons; without `=` or without a name it is none. -/
def readPair (pair : List Char) : Option (String × String) :=
  match List.cut ['='] (strip pair) with
  | none => none
  | some (name, value) =>
      let name := strip name
      let value := unwrapped (strip value)
      if name = [] then none else some (String.ofList name, String.ofList value)

/-- The first occurrence of a name wins. -/
def addCookie (cookies : List (String × String)) (cookie : String × String) :
    List (String × String) :=
  if (cookies.lookup cookie.1).isSome then cookies else cookies ++ [cookie]

/-- `get_cookies`, as the pairs of the `dict` in insertion order. -/
def getCookies (headers : RequestHeaders) : List (String × String) :=
  match joinedValue headers "cookie" with
  | none => []
  | some text =>
      if text = "" then []
      else ((text.toList.splitOn ';').filterMap readPair).foldl addCookie []

/-! ## What comes back -/

/-- `set_cookie` accepts the pair, on some response with some attributes. -/
def CookieAccepted (name value : PyStr) : Prop :=
  ∃ (Object : Type) (response new : PyronovaResponse Object) (options : CookieOptions),
    setCookie response name value options = .ok new

/-- A pair as the client sends it. -/
def pairText (pair : String × String) : List Char := pair.1.toList ++ '=' :: pair.2.toList

/-- The pairs of one field line. -/
def cookieLine (pairs : List (String × String)) : String :=
  String.ofList ("; ".toList.intercalate (pairs.map pairText))

/-- No part of the pair is one the reader takes off. -/
structure CookieKept (pair : String × String) : Prop where
  noEquals : '=' ∉ pair.1.toList
  name : strip pair.1.toList = pair.1.toList
  value : strip pair.2.toList = pair.2.toList
  unquoted : ¬ (2 ≤ pair.2.toList.length ∧ pair.2.toList.head? = some '"' ∧
    pair.2.toList.getLast? = some '"')
  notQuote : pair.2.toList ≠ ['"']

/-! ### The reader -/

/-- The pairs of a header value, before the first of each name is taken. -/
def readPairs (text : List Char) : List (String × String) :=
  (text.splitOn ';').filterMap readPair

@[simp] theorem readPairs_nil : readPairs [] = [] := rfl

theorem readPair_blank (text : List Char) : readPair (' ' :: text) = readPair text := by
  have stripped : strip (' ' :: text) = strip text := List.trimBlanks_cons (by decide) text
  rw [readPair, readPair, stripped]

theorem readPairs_separated (front back : List Char) :
    readPairs (front ++ (';' :: ' ' :: back)) = readPairs front ++ readPairs back := by
  have blank : ((' ' :: back).splitOn ';').filterMap readPair =
      (back.splitOn ';').filterMap readPair := by
    rw [List.splitOn_cons_eq_if_modifyHead, if_neg (by decide)]
    cases back.splitOn ';' with
    | nil => rfl
    | cons first rest =>
        rw [List.modifyHead_cons, List.filterMap_cons, List.filterMap_cons, readPair_blank]
  rw [readPairs, List.splitOn_append_cons_self, List.filterMap_append, blank]
  rfl

theorem readPairs_intercalate (texts : List (List Char)) :
    readPairs ("; ".toList.intercalate texts) = texts.flatMap readPairs := by
  induction texts with
  | nil => rfl
  | cons first rest induction =>
      cases rest with
      | nil => simp
      | cons second rest =>
          rw [List.intercalate_cons_cons, List.append_assoc, List.flatMap_cons, ← induction]
          exact readPairs_separated _ _

theorem lookup_addCookie (cookies pairs : List (String × String)) (key : String) :
    (pairs.foldl addCookie cookies).lookup key = (cookies.lookup key).or (pairs.lookup key) := by
  induction pairs generalizing cookies with
  | nil => simp
  | cons pair pairs induction =>
      obtain ⟨name, value⟩ := pair
      have first : ((name, value) :: pairs).lookup key =
          ([(name, value)].lookup key).or (pairs.lookup key) := by
        rw [← List.lookup_append, List.singleton_append]
      rw [List.foldl_cons, induction, addCookie, first]
      split
      · rename_i present
        by_cases same : key = name
        · obtain ⟨held, found⟩ := Option.isSome_iff_exists.mp present
          rw [same, found]
          rfl
        · have other : [(name, value)].lookup key = none :=
            List.lookup_eq_none_iff.mpr (by simp [same])
          rw [other, Option.none_or]
      · rw [List.lookup_append, Option.or_assoc]

theorem getCookies_lookup {headers : RequestHeaders} {lines : List (List (String × String))}
    (sent : headers.getAll "cookie" = lines.map fun pairs => utf8Encode (cookieLine pairs))
    (key : String) :
    (getCookies headers).lookup key =
      (lines.flatten.flatMap fun pair => readPairs (pairText pair)).lookup key := by
  have sentLines : headers.getAll "cookie" = (lines.map cookieLine).map utf8Encode := by
    rw [sent, List.map_map]
    rfl
  have joined := joinedValue_encoded sentLines
  rw [fieldSeparator_cookie] at joined
  have read : (lines.flatten.flatMap fun pair => readPairs (pairText pair)) =
      readPairs ("; ".toList.intercalate ((lines.map cookieLine).map String.toList)) := by
    rw [readPairs_intercalate, List.map_map, List.flatMap_map, List.flatten_eq_flatMap,
      List.flatMap_assoc]
    congr 1
    funext pairs
    simp only [id, Function.comp_apply, cookieLine, String.toList_ofList, readPairs_intercalate,
      List.flatMap_map]
  rw [getCookies, joined, read]
  split
  · rename_i absent
    split at absent
    · rename_i none
      simp [none]
    · cases absent
  · rename_i text present
    split at present
    · cases present
    · obtain rfl := Option.some.inj present
      split
      · rename_i empty
        have nothing := congrArg String.toList empty
        rw [String.toList_ofList] at nothing
        rw [nothing]
        rfl
      · rw [lookup_addCookie, String.toList_ofList]
        rfl

/-! ### One pair -/

theorem strip_pairText (pair : String × String) :
    strip (pairText pair) =
      pair.1.toList.dropWhile isSpace ++ '=' :: pair.2.toList.rdropWhile isSpace :=
  List.trimBlanks_append_cons _ _ (by decide)

/-- The value that is read where one was set. -/
def readValue (value : String) : String := String.ofList (unwrapped (strip value.toList))

theorem readPair_pairText {pair : String × String} (nonempty : pair.1 ≠ "")
    (noEquals : '=' ∉ pair.1.toList) (stripped : strip pair.1.toList = pair.1.toList) :
    readPair (pairText pair) = some (pair.1, readValue pair.2) := by
  have clear : '=' ∉ pair.1.toList.dropWhile isSpace := fun member =>
    noEquals ((List.dropWhile_suffix isSpace).subset member)
  have name : strip (pair.1.toList.dropWhile isSpace) = pair.1.toList :=
    (List.trimBlanks_dropWhile _).trans stripped
  have value : strip (pair.2.toList.rdropWhile isSpace) = strip pair.2.toList :=
    List.trimBlanks_rdropWhile _
  have visible : pair.1.toList ≠ [] := fun empty => nonempty (String.toList_eq_nil_iff.mp empty)
  simp only [readPair, strip_pairText, List.cut_singleton clear, name, value, if_neg visible,
    String.ofList_toList]
  rfl

/-- A name that is read has no `=` and no blanks around it. -/
theorem readPair_name {text : List Char} {name value : String}
    (read : readPair text = some (name, value)) :
    '=' ∉ name.toList ∧ strip name.toList = name.toList := by
  rw [readPair] at read
  split at read
  · cases read
  rename_i front back found
  dsimp only at read
  split at read
  · cases read
  obtain ⟨rfl, -⟩ := Prod.mk.inj (Option.some.inj read)
  rw [String.toList_ofList]
  refine ⟨fun member => ?_, List.trimBlanks_trimBlanks _⟩
  exact List.not_mem_of_cut found ((List.trimBlanks_sublist _).subset member)

theorem unwrapped_eq_self {value : List Char} :
    unwrapped value = value ↔
      ¬ (2 ≤ value.length ∧ value.head? = some '"' ∧ value.getLast? = some '"') ∧
        value ≠ ['"'] := by
  by_cases quoted : 2 ≤ value.length ∧ value.head? = some '"' ∧ value.getLast? = some '"'
  · have shorter : (unwrapped value).length < value.length := by
      simp only [unwrapped, if_pos quoted]
      split <;> simp only [List.length_nil, List.length_dropLast, List.length_drop] <;> omega
    refine ⟨fun same => ?_, fun both => absurd quoted both.1⟩
    rw [same] at shorter
    exact absurd shorter (lt_irrefl _)
  · simp only [unwrapped, if_neg quoted]
    split
    · rename_i quote
      simp [quote]
    · rename_i other
      simp only [quoted, other, ne_eq, not_false_eq_true, and_self]

theorem length_unwrapped_le (value : List Char) : (unwrapped value).length ≤ value.length := by
  simp only [unwrapped]
  split <;> split <;> simp [Nat.le_of_lt]

theorem readValue_eq_self {value : String} :
    readValue value = value ↔
      strip value.toList = value.toList ∧
        ¬ (2 ≤ value.toList.length ∧ value.toList.head? = some '"' ∧
          value.toList.getLast? = some '"') ∧ value.toList ≠ ['"'] := by
  rw [readValue, ← unwrapped_eq_self, ← String.toList_inj, String.toList_ofList]
  refine ⟨fun same => ?_, fun both => by rw [both.1, both.2]⟩
  have stripped : strip value.toList = value.toList := by
    refine (List.trimBlanks_sublist value.toList).eq_of_length_le ?_
    calc
      value.toList.length = (unwrapped (strip value.toList)).length := by rw [same]
      _ ≤ (strip value.toList).length := length_unwrapped_le _
  exact ⟨stripped, by rwa [stripped] at same⟩

/-! ### The writer -/

/-- A pair that is accepted is text without semicolons, and has a name. -/
structure CookieSet (name value : PyStr) : Prop where
  text : ∃ nameText valueText, name = .text nameText ∧ value = .text valueText
  nonempty : name ≠ .text ""
  name : name.contains ';' = false
  value : value.contains ';' = false

theorem rejectControlChars_ok {field : String} {value : PyStr}
    (passed : rejectControlChars field value = .ok ()) : value.contains ';' = false := by
  rw [rejectControlChars] at passed
  split at passed
  · cases passed
  · rename_i clear
    simpa using List.find?_eq_none.mp clear ';' (by decide)

theorem join_eq_text {separator first : PyStr} {rest : List PyStr} {text : String}
    (joined : PyStr.join separator (first :: rest) = .text text) :
    ∃ firstText, first = .text firstText := by
  cases rest with
  | nil => exact ⟨text, joined⟩
  | cons second rest =>
      obtain ⟨front, -, both, -, -⟩ := PyStr.append_eq_text joined
      obtain ⟨firstText, -, own, -, -⟩ := PyStr.append_eq_text both
      exact ⟨firstText, own⟩

theorem appendItems_text {key name : String} {cookie : PyStr} {items : List HeaderText}
    {before after : ResponseHeaders}
    (made : ResponseHeaders.appendItems key name (items ++ [.str cookie]) before = .ok after) :
    ∃ text, cookie = .text text := by
  induction items generalizing before with
  | nil =>
      obtain ⟨text, own, -⟩ := Except.ok_of_bind made
      cases cookie with
      | text text => exact ⟨text, rfl⟩
      | surrogates points => cases own
  | cons item items induction =>
      obtain ⟨_, _, made⟩ := Except.ok_of_bind made
      obtain ⟨_, _, made⟩ := Except.ok_of_bind made
      exact induction made

/-- Headers with a cookie among them are made only where the cookie is text. -/
theorem fromPyOnto_appendCookie {cookie : PyStr} {dict : HeaderDict}
    {before after : ResponseHeaders}
    (made : ResponseHeaders.fromPyOnto (appendCookie cookie dict) before = .ok after) :
    ∃ text, cookie = .text text := by
  have atLast {key : HeaderText} {value : HeaderArg} (front : List HeaderText)
      {rest : HeaderDict} (items : ∀ key, headerItems key value = .ok (front ++ [.str cookie]) ∨
        ∃ error, headerItems key value = .error error)
      {before : ResponseHeaders}
      (made : ResponseHeaders.fromPyOnto ((key, value) :: rest) before = .ok after) :
      ∃ text, cookie = .text text := by
    obtain ⟨key, -, made⟩ := Except.ok_of_bind made
    obtain ⟨name, -, made⟩ := Except.ok_of_bind made
    obtain ⟨listed, own, made⟩ := Except.ok_of_bind made
    obtain ⟨longer, appended, made⟩ := Except.ok_of_bind made
    rcases items key with same | ⟨error, failed⟩
    · rw [same] at own
      obtain rfl := Except.ok.inj own
      exact appendItems_text appended
    · rw [failed] at own
      cases own
  induction dict generalizing before with
  | nil =>
      refine atLast [] (fun key => ?_) made
      cases cookie with
      | text text => exact .inl rfl
      | surrogates points => exact .inr ⟨_, rfl⟩
  | cons entry rest induction =>
      obtain ⟨key, value⟩ := entry
      rw [appendCookie] at made
      split at made
      · cases value with
        | list items => exact atLast items (fun key => .inl rfl) made
        | item existing => exact atLast [existing] (fun key => .inl rfl) made
        | tuple items => exact atLast [.other "tuple"] (fun key => .inl rfl) made
      · obtain ⟨_, _, made⟩ := Except.ok_of_bind made
        obtain ⟨_, _, made⟩ := Except.ok_of_bind made
        obtain ⟨_, _, made⟩ := Except.ok_of_bind made
        obtain ⟨_, _, made⟩ := Except.ok_of_bind made
        exact induction made

theorem cookieText_ok {name value cookie : PyStr} {options : CookieOptions}
    (made : cookieText name value options = .ok cookie) :
    name.isTrue = true ∧ name.contains ';' = false ∧ value.contains ';' = false ∧
      ∃ attributes, cookie =
        PyStr.join (.text "; ") ((name ++ .text "=" ++ value) :: attributes) := by
  rw [cookieText] at made
  split at made
  · rename_i nonempty
    obtain ⟨_, namePassed, made⟩ := Except.ok_of_bind made
    obtain ⟨_, valuePassed, made⟩ := Except.ok_of_bind made
    obtain ⟨_, _, made⟩ := Except.ok_of_bind made
    obtain ⟨_, _, made⟩ := Except.ok_of_bind made
    obtain ⟨_, _, made⟩ := Except.ok_of_bind made
    obtain ⟨_, _, made⟩ := Except.ok_of_bind made
    obtain ⟨_, _, made⟩ := Except.ok_of_bind made
    exact ⟨nonempty, rejectControlChars_ok namePassed, rejectControlChars_ok valuePassed, _,
      (Except.ok.inj made).symm⟩
  · cases made

theorem cookieSet_of_accepted {name value : PyStr} (accepted : CookieAccepted name value) :
    CookieSet name value := by
  obtain ⟨Object, response, new, options, made⟩ := accepted
  rw [setCookie] at made
  split at made
  · cases made
  rename_i cookie texted
  obtain ⟨nonempty, nameClear, valueClear, attributes, rfl⟩ := cookieText_ok texted
  rw [PyronovaResponse.new] at made
  split at made
  · cases made
  split at made
  · cases made
  rename_i after fromDict
  obtain ⟨text, joined⟩ := fromPyOnto_appendCookie fromDict
  obtain ⟨pairText, both⟩ := join_eq_text joined
  obtain ⟨front, valueText, frontText, isText, -⟩ := PyStr.append_eq_text both
  obtain ⟨nameText, -, nameIsText, -, -⟩ := PyStr.append_eq_text frontText
  refine ⟨⟨nameText, valueText, nameIsText, isText⟩, ?_, nameClear, valueClear⟩
  rintro rfl
  exact absurd nonempty (by decide)

/-! ### There and back -/

/-- A pair that can be set is read as one pair, if at all. -/
theorem readPairs_pairText {pair : String × String}
    (accepted : CookieSet (.text pair.1) (.text pair.2)) :
    readPairs (pairText pair) = (readPair (pairText pair)).toList := by
  have clear : ';' ∉ pairText pair := by
    intro member
    rcases List.mem_append.mp member with inName | after
    · have := PyStr.contains_text.mpr inName
      simp [accepted.name] at this
    · rcases List.mem_cons.mp after with equals | inValue
      · exact absurd equals (by decide)
      · have := PyStr.contains_text.mpr inValue
        simp [accepted.value] at this
  rw [readPairs, List.splitOn_eq_singleton clear, List.filterMap_cons]
  cases readPair (pairText pair) <;> rfl

/-- The pairs that are read, where every name is one that can be read. -/
theorem flatMap_readPairs {pairs : List (String × String)}
    (accepted : ∀ pair ∈ pairs, CookieSet (.text pair.1) (.text pair.2))
    (names : ∀ pair ∈ pairs, '=' ∉ pair.1.toList ∧ strip pair.1.toList = pair.1.toList) :
    (pairs.flatMap fun pair => readPairs (pairText pair)) =
      pairs.map fun pair => (pair.1, readValue pair.2) := by
  induction pairs with
  | nil => rfl
  | cons pair pairs induction =>
      obtain ⟨first, rest⟩ := List.forall_mem_cons.mp accepted
      obtain ⟨⟨noEquals, stripped⟩, others⟩ := List.forall_mem_cons.mp names
      have nonempty : pair.1 ≠ "" := fun empty => first.nonempty (congrArg PyStr.text empty)
      rw [List.flatMap_cons, readPairs_pairText first,
        readPair_pairText nonempty noEquals stripped, induction rest others]
      rfl

/-- A name that comes back was read, so it can be read. -/
theorem name_of_lookup {pairs : List (String × String)}
    (accepted : ∀ pair ∈ pairs, CookieSet (.text pair.1) (.text pair.2)) {name value : String}
    (found : (pairs.flatMap fun pair => readPairs (pairText pair)).lookup name = some value) :
    '=' ∉ name.toList ∧ strip name.toList = name.toList := by
  obtain ⟨pair, present, read⟩ := List.mem_flatMap.mp (List.mem_of_lookup found)
  rw [readPairs_pairText (accepted pair present), Option.mem_toList] at read
  exact readPair_name read

/-- What `set_cookie` accepts is text.  Cookies of distinct names that come back on any number of
field lines are read as they were set exactly when none has an `=` in its name, blanks around its
name or value, or quotes around its value or for all of it. -/
theorem cookies_round_trip :
    (∀ name value, CookieAccepted name value →
      ∃ nameText valueText, name = .text nameText ∧ value = .text valueText) ∧
    ∀ lines : List (List (String × String)),
      (∀ pair ∈ lines.flatten, CookieAccepted (.text pair.1) (.text pair.2)) →
      (lines.flatten.map Prod.fst).Nodup →
      ∀ headers : RequestHeaders,
        (headers.getAll "cookie" = lines.map fun pairs => utf8Encode (cookieLine pairs)) →
        ((∀ key, (getCookies headers).lookup key = lines.flatten.lookup key) ↔
          ∀ pair ∈ lines.flatten, CookieKept pair) := by
  refine ⟨fun name value accepted => (cookieSet_of_accepted accepted).text, ?_⟩
  intro lines accepted distinct headers sent
  have settable : ∀ pair ∈ lines.flatten, CookieSet (.text pair.1) (.text pair.2) :=
    fun pair member => cookieSet_of_accepted (accepted pair member)
  simp only [getCookies_lookup sent]
  constructor
  · intro same
    have names : ∀ pair ∈ lines.flatten,
        '=' ∉ pair.1.toList ∧ strip pair.1.toList = pair.1.toList := by
      intro pair member
      exact name_of_lookup settable ((same pair.1).trans (List.lookup_of_mem distinct member))
    intro pair member
    have read := same pair.1
    have present : (pair.1, readValue pair.2) ∈
        lines.flatten.map fun pair => (pair.1, readValue pair.2) := List.mem_map_of_mem member
    have stillDistinct :
        ((lines.flatten.map fun pair => (pair.1, readValue pair.2)).map Prod.fst).Nodup := by
      rw [List.map_map]
      exact distinct
    rw [flatMap_readPairs settable names, List.lookup_of_mem stillDistinct present,
      List.lookup_of_mem distinct member] at read
    obtain ⟨stripped, unquoted, notQuote⟩ := readValue_eq_self.mp (Option.some.inj read)
    exact ⟨(names pair member).1, (names pair member).2, stripped, unquoted, notQuote⟩
  · intro kept key
    have values : (lines.flatten.map fun pair => (pair.1, readValue pair.2)) = lines.flatten := by
      conv_rhs => rw [← List.map_id lines.flatten]
      refine List.map_congr_left fun pair member => ?_
      have own := kept pair member
      rw [readValue_eq_self.mpr ⟨own.value, own.unquoted, own.notQuote⟩]
      rfl
    rw [flatMap_readPairs settable fun pair member => ⟨(kept pair member).noEquals,
      (kept pair member).name⟩, values]

/-- An empty `Response`. -/
def blankResponse : PyronovaResponse Unit := ⟨.none, 200, none, []⟩

/-- The pair is accepted on an empty `Response` with the default attributes. -/
def acceptedPlainly (pair : String × String) : Bool :=
  (setCookie blankResponse (.text pair.1) (.text pair.2) {}).toBool

theorem cookieAccepted_of_plainly (pair : String × String)
    (accepted : acceptedPlainly pair = true) :
    CookieAccepted (.text pair.1) (.text pair.2) := by
  cases made : setCookie blankResponse (.text pair.1) (.text pair.2) {} with
  | ok new => exact ⟨Unit, blankResponse, new, {}, made⟩
  | error error =>
      rw [acceptedPlainly, made] at accepted
      cases accepted

theorem cookies_round_trip_lines :
    let lines := [[("a", "1"), ("b", "x = y")], [("c", "\"open")]]
    let headers : RequestHeaders :=
      [("cookie", utf8Encode "a=1; b=x = y"), ("host", utf8Encode "h"),
        ("Cookie", utf8Encode "c=\"open")]
    ∀ key, (getCookies headers).lookup key = lines.flatten.lookup key := by
  intro lines headers
  have accepted : lines.flatten.all acceptedPlainly = true := by decide
  refine (cookies_round_trip.2 lines
    (fun pair member => cookieAccepted_of_plainly pair (List.all_eq_true.mp accepted pair member))
    (by decide) headers (by decide)).mpr ?_
  intro pair member
  have three : pair = ("a", "1") ∨ pair = ("b", "x = y") ∨ pair = ("c", "\"open") := by
    simpa [lines] using member
  rcases three with rfl | rfl | rfl <;>
    exact ⟨by decide, by decide, by decide, by decide, by decide⟩

/-- The cookie `theme="dark"` is accepted, and read as `dark`. -/
theorem cookies_changed_by_quotes :
    ¬ ∀ lines : List (List (String × String)),
      (∀ pair ∈ lines.flatten, CookieAccepted (.text pair.1) (.text pair.2)) →
      (lines.flatten.map Prod.fst).Nodup →
      ∀ headers : RequestHeaders,
        (headers.getAll "cookie" = lines.map fun pairs => utf8Encode (cookieLine pairs)) →
        ∀ key, (getCookies headers).lookup key = lines.flatten.lookup key := by
  intro always
  have accepted : CookieAccepted (.text "theme") (.text "\"dark\"") :=
    cookieAccepted_of_plainly ("theme", "\"dark\"") (by decide)
  have same := always [[("theme", "\"dark\"")]]
    (fun pair member => by
      obtain rfl : pair = ("theme", "\"dark\"") := by simpa using member
      exact accepted)
    (by decide) [("cookie", utf8Encode "theme=\"dark\"")] (by decide) "theme"
  exact absurd same (by decide)

end Pyronova
