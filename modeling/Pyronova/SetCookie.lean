import Pyronova.Cookies

/-!
# What `set_cookie` adds to a response

`set_cookie` makes a `Response` again from the attributes of another, with one more `Set-Cookie`
line.  The line is a join of parts of which none holds a semicolon, so a client that splits it finds
the pair and the attributes that were asked for, in their order; and the `dict` that the headers go
through keeps the lines of every other name as they were.
-/

namespace Pyronova

/-! ## Texts with lone surrogates -/

namespace PyStr

theorem codePoints_append (front back : PyStr) :
    (front ++ back).codePoints = front.codePoints ++ back.codePoints := by
  cases front with
  | surrogates points => rfl
  | text front =>
      cases back with
      | surrogates points => rfl
      | text back =>
          simp only [text_append, codePoints, String.toList_append, List.map_append]

theorem contains_append (front back : PyStr) (c : Char) :
    (front ++ back).contains c = (front.contains c || back.contains c) := by
  simp only [contains, codePoints_append, List.contains_append]

theorem contains_text_eq_false {string : String} {c : Char} :
    (PyStr.text string).contains c = false ↔ c ∉ string.toList := by
  rw [← Bool.not_eq_true, contains_text]

/-- A join that is text is a join of texts. -/
theorem texts_of_join {separator text : String} {parts : List PyStr}
    (joined : join (.text separator) parts = .text text) :
    ∃ texts : List String, parts = texts.map PyStr.text ∧
      text.toList = separator.toList.intercalate (texts.map String.toList) := by
  induction parts generalizing text with
  | nil =>
      obtain rfl := PyStr.text.inj joined
      exact ⟨[], rfl, rfl⟩
  | cons first rest induction =>
      cases rest with
      | nil =>
          have only : first = .text text := joined
          refine ⟨[text], by rw [only]; rfl, ?_⟩
          rw [List.map_singleton, List.intercalate_singleton]
      | cons second rest =>
          obtain ⟨before, after, front, later, rfl⟩ := append_eq_text joined
          obtain ⟨own, middle, isText, isSeparator, rfl⟩ := append_eq_text front
          obtain rfl := PyStr.text.inj isSeparator
          obtain ⟨texts, others, whole⟩ := induction later
          refine ⟨own :: texts, by rw [isText, others]; rfl, ?_⟩
          cases texts with
          | nil => cases others
          | cons next texts =>
              rw [List.map_cons, List.map_cons, List.intercalate_cons_cons, String.toList_append,
                String.toList_append, whole, List.map_cons]

end PyStr

/-! ## The attributes that are asked for -/

def MaxAge.shown : MaxAge → Option PyStr
  | .int seconds => some (.text (toString seconds))
  | .other _ => none

def Expires.shown : Expires → Option PyStr
  | .aware moment => some (.text moment.httpDate)
  | _ => none

def SameSite.shown (given : PyStr) : Option PyStr :=
  (SameSite.ofText given).map fun member => .text member.value

/-- A text that is not empty. -/
def nonempty (text : PyStr) : Option PyStr := if text.isTrue then some text else none

/-- `name=value`, if there is a value. -/
def cookieAttribute (name : String) (value : Option PyStr) : List PyStr :=
  (value.map fun value => PyStr.text (name ++ "=") ++ value).toList

/-- The attributes of a cookie, in the order a line has them. -/
def requestedAttributes (options : CookieOptions) : List PyStr :=
  cookieAttribute "Max-Age" (options.maxAge.bind MaxAge.shown) ++
    cookieAttribute "Expires" (options.expires.bind Expires.shown) ++
    cookieAttribute "Path" (nonempty options.path) ++
    cookieAttribute "Domain" (options.domain.bind nonempty) ++
    (if options.secure then [.text "Secure"] else []) ++
    (if options.httponly then [.text "HttpOnly"] else []) ++
    cookieAttribute "SameSite" (options.samesite.bind SameSite.shown)

/-- No part ends an attribute. -/
def Unbroken (parts : List PyStr) : Prop := ∀ part ∈ parts, part.contains ';' = false

theorem Unbroken.append {front back : List PyStr} (first : Unbroken front)
    (second : Unbroken back) : Unbroken (front ++ back) := fun part member =>
  (List.mem_append.mp member).elim (first part) (second part)

theorem unbroken_cookieAttribute {name : String} (clear : ';' ∉ (name ++ "=").toList)
    {value : Option PyStr} (unbroken : ∀ given, value = some given → given.contains ';' = false) :
    Unbroken (cookieAttribute name value) := by
  intro part member
  obtain ⟨given, isGiven, rfl⟩ := Option.map_eq_some_iff.mp (Option.mem_toList.mp member)
  rw [PyStr.contains_append, PyStr.contains_text_eq_false.mpr clear, unbroken given isGiven]
  rfl

theorem not_mem_toString (seconds : Int) : ';' ∉ (toString seconds).toList := by
  have digits (number : Nat) : ';' ∉ number.repr.toList := by
    intro member
    rw [Nat.toList_repr] at member
    exact absurd (DecimalDigits.allDigits_toDigits number _ member) (by decide)
  rw [Int.toString_eq_repr, Int.repr_eq_if]
  split
  · exact digits _
  · rw [String.toList_append, List.mem_append]
    rintro (sign | member)
    · exact absurd sign (by decide)
    · exact digits _ member

theorem not_mem_httpDate (moment : GmtTime) : ';' ∉ moment.httpDate.toList := by
  have padded (width number : Nat) : ';' ∉ DecimalDigits.padded width number := by
    intro member
    exact absurd (DecimalDigits.allDigits_padded width number _ member) (by decide)
  have weekdays : ∀ weekday, ';' ∉ (WEEKDAYS weekday).toList := by decide
  have months : ∀ month, ';' ∉ (MONTHS month).toList := by decide
  unfold GmtTime.httpDate
  simp [padded, weekdays, months]

theorem maxAgePart_ok {given : Option MaxAge} {parts : List PyStr}
    (made : maxAgePart given = .ok parts) :
    parts = cookieAttribute "Max-Age" (given.bind MaxAge.shown) ∧ Unbroken parts := by
  have own : parts = cookieAttribute "Max-Age" (given.bind MaxAge.shown) := by
    match given, made with
    | none, made => exact (Except.ok.inj made).symm
    | some (.int seconds), made =>
        obtain rfl := Except.ok.inj made
        rfl
  refine ⟨own, own ▸ unbroken_cookieAttribute (by decide) ?_⟩
  intro text shown
  obtain ⟨maxAge, -, isShown⟩ := Option.bind_eq_some_iff.mp shown
  cases maxAge with
  | int seconds =>
      obtain rfl := Option.some.inj isShown
      exact PyStr.contains_text_eq_false.mpr (not_mem_toString seconds)
  | other typeName => cases isShown

theorem expiresPart_ok {given : Option Expires} {parts : List PyStr}
    (made : expiresPart given = .ok parts) :
    parts = cookieAttribute "Expires" (given.bind Expires.shown) ∧ Unbroken parts := by
  have own : parts = cookieAttribute "Expires" (given.bind Expires.shown) := by
    match given, made with
    | none, made => exact (Except.ok.inj made).symm
    | some (.aware moment), made =>
        obtain rfl := Except.ok.inj made
        rfl
  refine ⟨own, own ▸ unbroken_cookieAttribute (by decide) ?_⟩
  intro text shown
  obtain ⟨expires, -, isShown⟩ := Option.bind_eq_some_iff.mp shown
  cases expires with
  | aware moment =>
      obtain rfl := Option.some.inj isShown
      exact PyStr.contains_text_eq_false.mpr (not_mem_httpDate moment)
  | outOfRange => cases isShown
  | naive text => cases isShown
  | other typeName => cases isShown

theorem samesitePart_ok {secure : Bool} {given : Option PyStr} {parts : List PyStr}
    (made : samesitePart secure given = .ok parts) :
    parts = cookieAttribute "SameSite" (given.bind SameSite.shown) ∧ Unbroken parts := by
  have own : parts = cookieAttribute "SameSite" (given.bind SameSite.shown) := by
    cases given with
    | none => exact (Except.ok.inj made).symm
    | some text =>
        rw [Option.bind_some, SameSite.shown]
        rw [samesitePart] at made
        split at made
        · cases made
        · rename_i member known
          split at made
          · cases made
          · obtain rfl := Except.ok.inj made
            rw [known]
            rfl
  refine ⟨own, own ▸ unbroken_cookieAttribute (by decide) ?_⟩
  intro text shown
  obtain ⟨site, -, isShown⟩ := Option.bind_eq_some_iff.mp shown
  obtain ⟨member, -, rfl⟩ := Option.map_eq_some_iff.mp isShown
  cases member <;> decide

theorem pathPart_ok {path : PyStr} (passed : rejectInPath path = .ok ()) :
    pathPart path = cookieAttribute "Path" (nonempty path) ∧ Unbroken (pathPart path) := by
  have own : pathPart path = cookieAttribute "Path" (nonempty path) := by
    rw [pathPart, nonempty]
    split <;> rfl
  refine ⟨own, own ▸ unbroken_cookieAttribute (by decide) ?_⟩
  intro text given
  obtain ⟨filled, same⟩ := Option.ite_none_right_eq_some.mp given
  obtain rfl := Option.some.inj same
  rw [rejectInPath, if_pos filled] at passed
  exact rejectControlChars_ok passed

theorem domainPart_ok {domain : Option PyStr} (passed : rejectInDomain domain = .ok ()) :
    domainPart domain = cookieAttribute "Domain" (domain.bind nonempty) ∧
      Unbroken (domainPart domain) := by
  have own : domainPart domain = cookieAttribute "Domain" (domain.bind nonempty) := by
    cases domain with
    | none => rfl
    | some domain =>
        rw [domainPart, Option.bind_some, nonempty]
        split <;> rfl
  refine ⟨own, own ▸ unbroken_cookieAttribute (by decide) ?_⟩
  intro text given
  obtain ⟨domain, rfl, isGiven⟩ := Option.bind_eq_some_iff.mp given
  obtain ⟨-, same⟩ := Option.ite_none_right_eq_some.mp isGiven
  obtain rfl := Option.some.inj same
  exact rejectControlChars_ok passed

theorem unbroken_flagPart {name : String} (clear : ';' ∉ name.toList) (given : Bool) :
    Unbroken (flagPart name given) := by
  intro part member
  cases given with
  | false => cases member
  | true =>
      obtain rfl := List.mem_singleton.mp member
      exact PyStr.contains_text_eq_false.mpr clear

/-- A cookie is its pair and the attributes asked for, none of them with a semicolon. -/
theorem cookieText_parts {name value cookie : PyStr} {options : CookieOptions}
    (made : cookieText name value options = .ok cookie) :
    cookie = PyStr.join (.text "; ")
        ((name ++ .text "=" ++ value) :: requestedAttributes options) ∧
      Unbroken ((name ++ .text "=" ++ value) :: requestedAttributes options) := by
  rw [cookieText] at made
  split at made
  · obtain ⟨_, namePassed, made⟩ := Except.ok_of_bind made
    obtain ⟨_, valuePassed, made⟩ := Except.ok_of_bind made
    obtain ⟨_, domainPassed, made⟩ := Except.ok_of_bind made
    obtain ⟨_, pathPassed, made⟩ := Except.ok_of_bind made
    obtain ⟨maxAge, maxAgeMade, made⟩ := Except.ok_of_bind made
    obtain ⟨expires, expiresMade, made⟩ := Except.ok_of_bind made
    obtain ⟨samesite, samesiteMade, made⟩ := Except.ok_of_bind made
    obtain ⟨maxAgeIs, maxAgeClear⟩ := maxAgePart_ok maxAgeMade
    obtain ⟨expiresIs, expiresClear⟩ := expiresPart_ok expiresMade
    obtain ⟨samesiteIs, samesiteClear⟩ := samesitePart_ok samesiteMade
    obtain ⟨pathIs, pathClear⟩ := pathPart_ok pathPassed
    obtain ⟨domainIs, domainClear⟩ := domainPart_ok domainPassed
    have attributes : maxAge ++ expires ++ pathPart options.path ++ domainPart options.domain ++
        flagPart "Secure" options.secure ++ flagPart "HttpOnly" options.httponly ++ samesite =
          requestedAttributes options := by
      rw [maxAgeIs, expiresIs, samesiteIs, pathIs, domainIs]
      rfl
    have pairClear : (name ++ .text "=" ++ value).contains ';' = false := by
      rw [PyStr.contains_append, PyStr.contains_append, rejectControlChars_ok namePassed,
        rejectControlChars_ok valuePassed, PyStr.contains_text_eq_false.mpr (by decide)]
      rfl
    refine ⟨attributes ▸ (Except.ok.inj made).symm, List.forall_mem_cons.mpr ⟨pairClear, ?_⟩⟩
    rw [← attributes]
    exact (((((maxAgeClear.append expiresClear).append pathClear).append domainClear).append
      (unbroken_flagPart (by decide) _)).append (unbroken_flagPart (by decide) _)).append
        samesiteClear
  · cases made

/-! ## The lines of a `dict` -/

def entryItems : HeaderArg → List HeaderText
  | .item item => [item]
  | .list items | .tuple items => items

def keyNamed (name : String) : HeaderText → Bool
  | .str (.text key) => headerName key == headerName name
  | _ => false

/-- What a `dict` has for a name, in any case of its letters. -/
def dictItems (dict : HeaderDict) (name : String) : List HeaderText :=
  dict.flatMap fun entry => if keyNamed name entry.1 then entryItems entry.2 else []

/-- A line as an item. -/
def asItem (line : HeaderValue) : HeaderText := .str (.text line)

/-- Keys that name headers, each another one. -/
def DistinctNames (dict : HeaderDict) : Prop :=
  (dict.map Prod.fst).Pairwise fun key later =>
    ∀ name, keyNamed name key = true → keyNamed name later = false

namespace ResponseHeaders

theorem strItem_ok {key text : String} {item : HeaderText} (isText : strItem key item = .ok text) :
    item = .str (.text text) := by
  cases item with
  | other typeName => cases isText
  | str value =>
      cases value with
      | surrogates points => cases isText
      | text value => rw [Except.ok.inj isText]

theorem headerKey_ok {key : HeaderText} {text : String} (isText : headerKey key = .ok text) :
    key = .str (.text text) := by
  cases key with
  | other typeName => cases isText
  | str value =>
      cases value with
      | surrogates points => cases isText
      | text value => rw [Except.ok.inj isText]

theorem appendItems_getAll {key name : String} {items : List HeaderText}
    {before after : ResponseHeaders} (made : appendItems key name items before = .ok after)
    (other : String) :
    (after.getAll other).map asItem = (before.getAll other).map asItem ++
      if headerName name = headerName other then items else [] := by
  induction items generalizing before with
  | nil =>
      obtain rfl := Except.ok.inj made
      simp
  | cons item items induction =>
      obtain ⟨text, isText, made⟩ := Except.ok_of_bind made
      obtain ⟨value, checked, made⟩ := Except.ok_of_bind made
      have same : item = asItem value := by
        rw [headerValueOf] at checked
        split at checked
        · rename_i parsed
          obtain rfl := Except.ok.inj checked
          have spelled := String.toList_inj.mp (fromStr_eq_some parsed)
          rw [strItem_ok isText, asItem, spelled]
        · cases checked
      rw [induction made, same]
      by_cases own : headerName name = headerName other
      · have line : (before.append name value).getAll other = before.getAll other ++ [value] := by
          rw [getAll_congr own.symm, getAll_append_self, getAll_congr own]
        rw [if_pos own, if_pos own, line, List.map_append, List.append_assoc]
        rfl
      · rw [if_neg own, if_neg own, getAll_append_of_ne (Ne.symm own)]

theorem headerItems_ok {key : String} {value : HeaderArg} {items : List HeaderText}
    (listed : headerItems key value = .ok items) : items = entryItems value := by
  cases value with
  | item item =>
      obtain ⟨_, -, listed⟩ := Except.ok_of_bind listed
      exact (Except.ok.inj listed).symm
  | list items => exact (Except.ok.inj listed).symm
  | tuple items => exact (Except.ok.inj listed).symm

theorem checkedName_ok {key name : String} (known : checkedName key = .ok name) :
    headerNameOf key = some name := by
  rw [checkedName] at known
  split at known
  · rename_i found
    rw [found, Except.ok.inj known]
  · cases known

/-- A name that is accepted is compared as `set_cookie` compares it. -/
theorem isSetCookie_of_checked {key name : String} (known : checkedName key = .ok name) :
    isSetCookie (.str (.text key)) = keyNamed "set-cookie" (.str (.text key)) := by
  obtain ⟨⟨-, -, token⟩, -⟩ := Option.ite_none_right_eq_some.mp (checkedName_ok known)
  have kelvin : tokenChars.contains '\u212a' = false := by decide
  have lowered : lower key.toList = headerName key := by
    refine List.map_congr_left fun c member => if_neg ?_
    rintro rfl
    rw [List.all_eq_true.mp token _ member] at kelvin
    cases kelvin
  have spelled : headerName "set-cookie" = "set-cookie".toList := by decide
  rw [isSetCookie, lowered, keyNamed, spelled, Bool.beq_eq_decide_eq]

/-- `from_py` makes a line of every item, in order, and its names are tokens. -/
theorem fromPyOnto_getAll {dict : HeaderDict} {before after : ResponseHeaders}
    (made : fromPyOnto dict before = .ok after) (other : String) :
    (after.getAll other).map asItem = (before.getAll other).map asItem ++ dictItems dict other ∧
      ∀ key ∈ dict.map Prod.fst, isSetCookie key = keyNamed "set-cookie" key := by
  induction dict generalizing before with
  | nil =>
      obtain rfl := Except.ok.inj made
      exact ⟨(List.append_nil _).symm, fun _ member => absurd member List.not_mem_nil⟩
  | cons entry rest induction =>
      obtain ⟨key, value⟩ := entry
      obtain ⟨text, isText, made⟩ := Except.ok_of_bind made
      obtain ⟨name, known, made⟩ := Except.ok_of_bind made
      obtain ⟨items, listed, made⟩ := Except.ok_of_bind made
      obtain ⟨longer, appended, made⟩ := Except.ok_of_bind made
      have isKey := headerKey_ok isText
      have named : (headerName name == headerName other) = keyNamed other key := by
        rw [isKey, keyNamed, headerName_headerNameOf (checkedName_ok known)]
      obtain ⟨later, tokens⟩ := induction made
      refine ⟨?_, List.forall_mem_cons.mpr ⟨?_, tokens⟩⟩
      · rw [later, appendItems_getAll appended, headerItems_ok listed, List.append_assoc]
        simp only [dictItems, List.flatMap_cons, ← named, beq_iff_eq]
      · rw [isKey]
        exact isSetCookie_of_checked known

variable {headers : ResponseHeaders}

theorem entryItems_argOf (lines : List HeaderValue) :
    entryItems (argOf lines) = lines.map asItem := by
  match lines with
  | [] => rfl
  | [one] => rfl
  | _ :: _ :: _ => rfl

/-- Python sees the lines of a name as its items. -/
theorem dictItems_toPy (name : String) :
    dictItems headers.toPy name = (headers.getAll name).map asItem := by
  have each : ∀ key, (if keyNamed name (.str (.text key)) = true then
      entryItems (argOf (headers.getAll key)) else []) =
        if headerName key = headerName name then (headers.getAll name).map asItem else [] := by
    intro key
    rw [keyNamed, entryItems_argOf]
    by_cases own : headerName key = headerName name
    · rw [if_pos (beq_iff_eq.mpr own), if_pos own, getAll_congr own]
    · rw [if_neg (fun same => own (beq_iff_eq.mp same)), if_neg own]
  rw [dictItems, toPy, List.flatMap_map]
  simp only [each]
  rw [flatMap_keys]
  split
  · rfl
  · rename_i absent
    rw [getAll_eq_nil absent, List.map_nil]

theorem keys_distinct :
    headers.keys.Pairwise fun key later => headerName later ≠ headerName key := by
  induction headers with
  | nil => exact .nil
  | cons line rest induction =>
      refine .cons (fun later kept => ?_) (induction.filter _)
      simpa [named] using List.of_mem_filter kept

theorem distinctNames_toPy : DistinctNames headers.toPy := by
  rw [DistinctNames, toPy, List.map_map, List.pairwise_map]
  refine keys_distinct.imp fun different name own => ?_
  have same := beq_iff_eq.mp own
  exact beq_false_of_ne fun later => different (later.trans same.symm)

theorem toPy_no_tuple {entry : HeaderText × HeaderArg} (member : entry ∈ headers.toPy) :
    ∀ items, entry.2 ≠ .tuple items := by
  obtain ⟨name, -, rfl⟩ := List.mem_map.mp member
  intro items
  match headers.getAll name with
  | [] => exact fun impossible => (by cases impossible)
  | [one] => exact fun impossible => (by cases impossible)
  | _ :: _ :: _ => exact fun impossible => (by cases impossible)

end ResponseHeaders

/-! ## One line more -/

section OneMore

variable {cookie : PyStr} {dict : HeaderDict}

theorem keys_appendCookie : dict.map Prod.fst <+: (appendCookie cookie dict).map Prod.fst := by
  induction dict with
  | nil => exact List.nil_prefix
  | cons entry rest induction =>
      obtain ⟨key, value⟩ := entry
      rw [appendCookie]
      split
      · exact List.prefix_rfl
      · exact List.cons_prefix_cons.mpr ⟨rfl, induction⟩

theorem keyNamed_self (name : String) : keyNamed name (.str (.text name)) = true :=
  beq_self_eq_true (headerName name)

theorem keyNamed_other {key : HeaderText} {name other : String}
    (different : headerName other ≠ headerName name) (own : keyNamed name key = true) :
    keyNamed other key = false := by
  match key, own with
  | .str (.text key), own =>
      exact beq_false_of_ne fun same => different (same.symm.trans (beq_iff_eq.mp own))

theorem dictItems_cons (entry : HeaderText × HeaderArg) (name : String) :
    dictItems (entry :: dict) name =
      (if keyNamed name entry.1 then entryItems entry.2 else []) ++ dictItems dict name := rfl

theorem dictItems_appendCookie_of_ne {other : String}
    (different : headerName other ≠ headerName "set-cookie")
    (tokens : ∀ key ∈ dict.map Prod.fst, isSetCookie key = keyNamed "set-cookie" key) :
    dictItems (appendCookie cookie dict) other = dictItems dict other := by
  induction dict with
  | nil =>
      have foreign := keyNamed_other different (keyNamed_self "set-cookie")
      rw [appendCookie, dictItems_cons, foreign]
      rfl
  | cons entry rest induction =>
      obtain ⟨key, value⟩ := entry
      obtain ⟨own, others⟩ := List.forall_mem_cons.mp tokens
      rw [appendCookie]
      split
      · rename_i isCookie
        have foreign := keyNamed_other different (own.symm.trans isCookie)
        rw [dictItems_cons, dictItems_cons, foreign]
        rfl
      · rw [dictItems_cons, dictItems_cons, induction others]

theorem dictItems_eq_nil {name : String}
    (absent : ∀ key ∈ dict.map Prod.fst, keyNamed name key = false) :
    dictItems dict name = [] := by
  rw [dictItems, List.flatMap_eq_nil_iff]
  intro entry member
  rw [absent entry.1 (List.mem_map_of_mem member)]
  rfl

theorem entryItems_withCookie {value : HeaderArg} (plain : ∀ items, value ≠ .tuple items) :
    entryItems (withCookie cookie value) = entryItems value ++ [.str cookie] := by
  cases value with
  | item item => rfl
  | list items => rfl
  | tuple items => exact absurd rfl (plain items)

/-- The new item is the last of its name. -/
theorem dictItems_appendCookie (distinct : DistinctNames dict)
    (plain : ∀ entry ∈ dict, ∀ items, entry.2 ≠ .tuple items)
    (tokens : ∀ key ∈ dict.map Prod.fst, isSetCookie key = keyNamed "set-cookie" key) :
    dictItems (appendCookie cookie dict) "set-cookie" =
      dictItems dict "set-cookie" ++ [.str cookie] := by
  induction dict with
  | nil =>
      rw [appendCookie, dictItems_cons, if_pos (keyNamed_self "set-cookie")]
      rfl
  | cons entry rest induction =>
      obtain ⟨key, value⟩ := entry
      obtain ⟨own, others⟩ := List.forall_mem_cons.mp tokens
      obtain ⟨first, later⟩ := List.pairwise_cons.mp distinct
      obtain ⟨plainHere, plainRest⟩ := List.forall_mem_cons.mp plain
      rw [appendCookie]
      split
      · rename_i isCookie
        have named := own.symm.trans isCookie
        have last : dictItems rest "set-cookie" = [] :=
          dictItems_eq_nil fun key member => first key member "set-cookie" named
        rw [dictItems_cons, dictItems_cons, if_pos named, if_pos named, last,
          entryItems_withCookie plainHere, List.append_nil, List.append_nil]
      · rw [dictItems_cons, dictItems_cons, induction later plainRest others, List.append_assoc]

end OneMore

/-- The new response is the old one with one more `Set-Cookie` line, the last of them, which splits
into the pair and the attributes asked for. -/
structure AddsCookie {Object : Type*} (response new : PyronovaResponse Object) (pair : PyStr)
    (options : CookieOptions) : Prop where
  body : new.body = response.body
  statusCode : new.statusCode = response.statusCode
  contentType : new.contentType = response.contentType
  others : ∀ other, headerName other ≠ headerName "set-cookie" →
    new.headers.getAll other = response.headers.getAll other
  line : ∃ line,
    new.headers.getAll "set-cookie" = response.headers.getAll "set-cookie" ++ [line] ∧
      fromStr line.toList = some line ∧
      (List.split "; ".toList line.toList).map (fun part => PyStr.text (String.ofList part)) =
        pair :: requestedAttributes options

/-- A call of `set_cookie` on one of the responses there are. -/
structure CookieCall where
  response : Nat
  name : PyStr
  value : PyStr
  options : CookieOptions

/-- What a call raises, and the responses there are after it. -/
def CookieCall.run {Object : Type*} (call : CookieCall)
    (responses : List (PyronovaResponse Object)) :
    Option (Option CookieError × List (PyronovaResponse Object)) :=
  responses[call.response]?.map fun response =>
    match setCookie response call.name call.value call.options with
    | .error error => (some error, responses)
    | .ok new => (none, responses ++ [new])

section Added

variable {Object : Type*} {response new : PyronovaResponse Object} {name value cookie : PyStr}
  {options : CookieOptions}

theorem contentTypeArg_ok {given made : Option HeaderValue}
    (accepted : PyronovaResponse.contentTypeArg given = .ok made) : made = given := by
  cases given with
  | none => exact (Except.ok.inj accepted).symm
  | some text =>
      rw [PyronovaResponse.contentTypeArg, headerValueOf] at accepted
      cases parsed : fromStr text.toList with
      | none =>
          rw [parsed] at accepted
          cases accepted
      | some value =>
          rw [parsed] at accepted
          obtain rfl := Except.ok.inj accepted
          rw [String.toList_inj.mp (fromStr_eq_some parsed)]

theorem setCookie_ok (accepted : setCookie response name value options = .ok new) :
    ∃ cookie headers, cookieText name value options = .ok cookie ∧
      ResponseHeaders.fromPy (appendCookie cookie response.headers.toPy) = .ok headers ∧
      new = { response with headers } := by
  rw [setCookie] at accepted
  split at accepted
  · cases accepted
  rename_i cookie texted
  rw [PyronovaResponse.new] at accepted
  split at accepted
  · cases accepted
  rename_i contentType typed
  split at accepted
  · cases accepted
  rename_i headers made
  obtain rfl := contentTypeArg_ok typed
  exact ⟨cookie, headers, texted, made, (Except.ok.inj accepted).symm⟩

theorem asItem_injective : Function.Injective asItem := fun _ _ same =>
  PyStr.text.inj (HeaderText.str.inj same)

/-- The lines of a response made of another's `dict` with a cookie put in. -/
theorem getAll_of_appendCookie {headers : ResponseHeaders}
    (made : ResponseHeaders.fromPy (appendCookie cookie response.headers.toPy) = .ok headers) :
    (∀ other, headerName other ≠ headerName "set-cookie" →
      headers.getAll other = response.headers.getAll other) ∧
      ∃ line, cookie = .text line ∧
        headers.getAll "set-cookie" = response.headers.getAll "set-cookie" ++ [line] := by
  have items (other : String) := (ResponseHeaders.fromPyOnto_getAll made other).1
  have tokens : ∀ key ∈ response.headers.toPy.map Prod.fst,
      isSetCookie key = keyNamed "set-cookie" key := fun key member =>
    (ResponseHeaders.fromPyOnto_getAll made "set-cookie").2 key (keys_appendCookie.subset member)
  refine ⟨fun other different => ?_, ?_⟩
  · have same := items other
    rw [dictItems_appendCookie_of_ne different tokens, ResponseHeaders.dictItems_toPy] at same
    exact List.map_injective_iff.mpr asItem_injective same
  · obtain ⟨line, rfl⟩ := fromPyOnto_appendCookie made
    have same := items "set-cookie"
    rw [dictItems_appendCookie ResponseHeaders.distinctNames_toPy
        (fun _ member => ResponseHeaders.toPy_no_tuple member) tokens,
      ResponseHeaders.dictItems_toPy] at same
    refine ⟨line, rfl, List.map_injective_iff.mpr asItem_injective ?_⟩
    rw [List.map_append]
    exact same

theorem addsCookie_of_accepted (accepted : setCookie response name value options = .ok new) :
    AddsCookie response new (name ++ .text "=" ++ value) options := by
  obtain ⟨cookie, headers, texted, made, rfl⟩ := setCookie_ok accepted
  obtain ⟨others, line, rfl, lines⟩ := getAll_of_appendCookie made
  obtain ⟨joined, unbroken⟩ := cookieText_parts texted
  obtain ⟨texts, parts, spelled⟩ := PyStr.texts_of_join joined.symm
  have valid : fromStr line.toList = some line := by
    have member : line ∈ headers.getAll "set-cookie" := by
      rw [lines]
      exact List.mem_append_right _ (List.mem_singleton.mpr rfl)
    obtain ⟨entry, present, rfl⟩ := ResponseHeaders.mem_of_mem_getAll member
    exact (ResponseHeaders.fromPy_valid made entry present).2
  refine ⟨rfl, rfl, rfl, others, line, lines, valid, ?_⟩
  have clear : ∀ part ∈ texts.map String.toList, ';' ∉ part := by
    intro part member
    obtain ⟨text, isText, rfl⟩ := List.mem_map.mp member
    exact PyStr.contains_text_eq_false.mp
      (unbroken (.text text) (parts ▸ List.mem_map_of_mem isText))
  have some : texts.map String.toList ≠ [] := by
    intro none
    rw [List.map_eq_nil_iff.mp none] at parts
    cases parts
  have back : List.split "; ".toList line.toList = texts.map String.toList := by
    rw [spelled]
    exact List.split_intercalate some clear
  rw [back, List.map_map, parts]
  exact List.map_congr_left fun text _ => congrArg PyStr.text String.ofList_toList

end Added

/-- A `Response` that `set_cookie` makes has the body, the status, the content type and the lines of
the given one and after them one `Set-Cookie` line more, whose parts are the pair and the attributes
asked for; and whether a call raises or not, every `Response` there was stays as it was. -/
theorem set_cookie_adds_one_line {Object : Type*} :
    (∀ (response new : PyronovaResponse Object) (name value : PyStr) (options : CookieOptions),
      setCookie response name value options = .ok new →
        AddsCookie response new (name ++ .text "=" ++ value) options) ∧
    ∀ (call : CookieCall) (responses after : List (PyronovaResponse Object))
      (raised : Option CookieError), call.run responses = some (raised, after) →
        (raised.isSome = true → after = responses) ∧
          (raised = none → ∃ new, after = responses ++ [new]) := by
  refine ⟨fun response new name value options => addsCookie_of_accepted, ?_⟩
  intro call responses after raised called
  obtain ⟨response, -, result⟩ := Option.map_eq_some_iff.mp called
  cases attempt : setCookie response call.name call.value call.options with
  | error error =>
      rw [attempt] at result
      obtain ⟨rfl, rfl⟩ := Prod.mk.inj result
      exact ⟨fun _ => rfl, fun impossible => (by cases impossible)⟩
  | ok new =>
      rw [attempt] at result
      obtain ⟨rfl, rfl⟩ := Prod.mk.inj result
      exact ⟨fun impossible => (by cases impossible), fun _ => ⟨new, rfl⟩⟩

/-- A response with two cookies around another line. -/
def twoCookies : PyronovaResponse Unit :=
  ⟨.none, 201, none, [("set-cookie", "a=1"), ("x", "y"), ("set-cookie", "b=2")]⟩

/-- A third cookie goes after the two; one with a line break in its name raises. -/
theorem set_cookie_adds_one_line_third :
    (∃ line,
      ["a=1", "b=2", "c=3; Max-Age=-1; Path=/; Secure; SameSite=Lax"] =
        twoCookies.headers.getAll "set-cookie" ++ [line] ∧
      (List.split "; ".toList line.toList).map (fun part => PyStr.text (String.ofList part)) =
        [.text "c=3", .text "Max-Age=-1", .text "Path=/", .text "Secure",
          .text "SameSite=Lax"]) ∧
      ((CookieCall.mk 0 (.text "c\r\n") (.text "3") {}).run [twoCookies]).map Prod.snd =
        some [twoCookies] := by
  have accepted : setCookie twoCookies (.text "c") (.text "3")
      { maxAge := some (.int (-1)), secure := true } = .ok ⟨.none, 201, none,
        [("set-cookie", "a=1"), ("set-cookie", "b=2"),
          ("set-cookie", "c=3; Max-Age=-1; Path=/; Secure; SameSite=Lax"), ("x", "y")]⟩ := by
    decide
  obtain ⟨line, lines, -, parts⟩ := (set_cookie_adds_one_line.1 _ _ _ _ _ accepted).line
  have refused : (CookieCall.mk 0 (.text "c\r\n") (.text "3") {}).run [twoCookies] =
      some (some (.forbidden "name" '\r'), [twoCookies]) := by decide
  refine ⟨⟨line, lines, parts⟩, ?_⟩
  rw [refused]
  exact congrArg some ((set_cookie_adds_one_line.2 _ _ _ _ refused).1 rfl)

end Pyronova
