import Mathlib.Tactic
import Pyronova.McpReplies

/-!
# Type hints and the values that pass their schema

A tool without a schema of its own is given one from the type hints of its function.  What the check
then accepts is what belongs to the hint, but for a `Literal`: its values are compared by `==`, to
which `True` is 1, so a boolean passes for an equal number and a number for an equal boolean.
-/

namespace Pyronova

namespace Mcp

open Json

variable {F : Type}

/-! ## Hints -/

/-- A value that `Literal` lists, of one of the types that JSON has. -/
inductive Scalar (F : Type)
  | none
  | bool (value : Bool)
  | int (number : Int)
  | float (number : Float F)
  | str (text : Text)

def Scalar.value : Scalar F → Value F
  | none => .null
  | bool value => .bool value
  | int number => .int number
  | float number => .float number
  | str text => .string text

/-- A type hint; `none` is `NoneType`, and `other` one without a JSON form: a class, a `tuple`. -/
inductive Hint (F : Type)
  | any
  | bool
  | int
  | float
  | str
  | none
  | list
  | listOf (item : Hint F)
  | dict
  | dictOf (key item : Hint F)
  | union (members : List (Hint F))
  /-- `Option.none` for a listed value of another type. -/
  | literal (listed : List (Option (Scalar F)))
  | other

/-- `_SCALAR_TYPES`. -/
def scalarType : Hint F → Option String
  | .bool => some "boolean"
  | .int => some "integer"
  | .float => some "number"
  | .str => some "string"
  | .none => some "null"
  | _ => Option.none

def schemaKeywords (members : List (String × Value F)) : Members F :=
  members.map fun (key, value) => (ofString key, value)

def schemaObject (members : List (String × Value F)) : Value F := .object (schemaKeywords members)

mutual

/-- `_hint_schema`; the error is the hint that has no JSON form. -/
def hintSchema : Hint F → Except (Hint F) (Value F)
  | .any => .ok (schemaObject [])
  | .list => .ok (schemaObject [("type", .string (ofString "array"))])
  | .listOf item =>
      match hintSchema item with
      | .error hint => .error hint
      | .ok items =>
          .ok (schemaObject [("type", .string (ofString "array")), ("items", items)])
  | .dict => .ok (schemaObject [("type", .string (ofString "object"))])
  | .dictOf .str item =>
      match hintSchema item with
      | .error hint => .error hint
      | .ok extra =>
          .ok (schemaObject
            [("type", .string (ofString "object")), ("additionalProperties", extra)])
  | .dictOf key item => .error (.dictOf key item)
  | .union members =>
      match hintSchemas members with
      | .error hint => .error hint
      | .ok options => .ok (schemaObject [("anyOf", .array options)])
  | .literal listed =>
      match listed.mapM id with
      | some values => .ok (schemaObject [("enum", .array (values.map Scalar.value))])
      | Option.none => .error (.literal listed)
  | hint =>
      match scalarType hint with
      | some name => .ok (schemaObject [("type", .string (ofString name))])
      | Option.none => .error hint

def hintSchemas : List (Hint F) → Except (Hint F) (List (Value F))
  | [] => .ok []
  | hint :: hints =>
      match hintSchema hint with
      | .error hint => .error hint
      | .ok schema =>
          match hintSchemas hints with
          | .error hint => .error hint
          | .ok schemas => .ok (schema :: schemas)

end

/-! ## What belongs to a hint -/

/-- The types that JSON tells apart. -/
inductive JsonKind
  | null
  | boolean
  | number
  | string
  | array
  | object
  deriving DecidableEq, Repr

def kindOf : Value F → JsonKind
  | .null => .null
  | .bool _ => .boolean
  | .int _ | .float _ => .number
  | .string _ => .string
  | .array _ => .array
  | .object _ => .object

def JsonKind.name : JsonKind → String
  | null => "null"
  | boolean => "boolean"
  | number => "number"
  | string => "string"
  | array => "array"
  | object => "object"

/-- The listed value equals it and is of the same type. -/
def sameScalar (py : PyJson F) (value : Value F) (listed : Scalar F) : Bool :=
  decide (kindOf listed.value = kindOf value) && pyEqual py value listed.value

/-- The listed value equals it and is of another type. -/
def otherScalar (py : PyJson F) (value : Value F) (listed : Scalar F) : Bool :=
  decide (kindOf listed.value ≠ kindOf value) && pyEqual py value listed.value

def listedScalars (listed : List (Option (Scalar F))) : List (Scalar F) := listed.filterMap id

mutual

/-- The value belongs to the hint. -/
def belongs (py : PyJson F) : Hint F → Value F → Bool
  | .any, _ => true
  | .bool, value => kindOf value = .boolean
  | .int, .int _ => true
  | .float, value => kindOf value = .number
  | .str, value => kindOf value = .string
  | .none, value => kindOf value = .null
  | .list, value => kindOf value = .array
  | .listOf item, .array items => items.all (belongs py item)
  | .dict, value => kindOf value = .object
  | .dictOf .str item, .object members => members.all fun member => belongs py item member.2
  | .union members, value => belongsAny py members value
  | .literal listed, value => (listedScalars listed).any (sameScalar py value)
  | _, _ => false

def belongsAny (py : PyJson F) : List (Hint F) → Value F → Bool
  | [], _ => false
  | hint :: hints, value => belongs py hint value || belongsAny py hints value

end

mutual

/-- The value passes for the hint by a boolean in the place of an equal number that a `Literal`
lists, or a number in the place of an equal boolean, and not otherwise. -/
def slips (py : PyJson F) : Hint F → Value F → Bool
  | .listOf item, .array items =>
      items.all (fun value => belongs py item value || slips py item value) &&
        items.any (slips py item)
  | .dictOf .str item, .object members =>
      members.all (fun member => belongs py item member.2 || slips py item member.2) &&
        members.any fun member => slips py item member.2
  | .union members, value => slipsAny py members value && !belongsAny py members value
  | .literal listed, value =>
      (listedScalars listed).any (otherScalar py value) &&
        !(listedScalars listed).any (sameScalar py value)
  | _, _ => false

def slipsAny (py : PyJson F) : List (Hint F) → Value F → Bool
  | [], _ => false
  | hint :: hints, value => slips py hint value || slipsAny py hints value

end

/-! ## Checks that decide -/

/-- The check accepts where it should, and refuses where it should not: it raises nothing else. -/
def Decides (checked : Checked Unit) (accepts : Bool) : Prop :=
  if accepts then checked = .ok () else ∃ reason, checked = .error (.invalid reason)

theorem Decides.ok_iff {checked : Checked Unit} {accepts : Bool}
    (decides : Decides checked accepts) : checked = .ok () ↔ accepts = true := by
  cases accepts with
  | true => exact iff_of_true decides rfl
  | false =>
      obtain ⟨reason, refused⟩ := decides
      simp [refused]

theorem decides_ok : Decides (.ok ()) true := rfl

theorem decides_allOf_nil : Decides (allOf []) true := rfl

theorem Decides.allOf_cons {check : Checked Unit} {checks : List (Checked Unit)} {first rest : Bool}
    (decides : Decides check first) (others : Decides (allOf checks) rest) :
    Decides (allOf (check :: checks)) (first && rest) := by
  cases first with
  | true =>
      rw [show check = .ok () from decides, allOf, Bool.true_and]
      exact others
  | false =>
      obtain ⟨reason, rfl⟩ := decides
      exact ⟨reason, rfl⟩

theorem decides_allOf_map {α : Type*} {items : List α} {check : α → Checked Unit}
    {accepts : α → Bool} (decides : ∀ item ∈ items, Decides (check item) (accepts item)) :
    Decides (allOf (items.map check)) (items.all accepts) := by
  induction items with
  | nil => exact decides_allOf_nil
  | cons item items induction =>
      rw [List.map_cons, List.all_cons]
      exact (decides item (by simp)).allOf_cons
        (induction fun other member => decides other (by simp [member]))

theorem decides_allOf_mapIdx {α : Type*} {items : List α} {check : Nat → α → Checked Unit}
    {accepts : α → Bool}
    (decides : ∀ index, ∀ item ∈ items, Decides (check index item) (accepts item)) :
    Decides (allOf (items.mapIdx check)) (items.all accepts) := by
  induction items generalizing check with
  | nil => exact decides_allOf_nil
  | cons item items induction =>
      rw [List.mapIdx_cons, List.all_cons]
      exact (decides 0 item (by simp)).allOf_cons
        (induction fun index other member => decides (index + 1) other (by simp [member]))

theorem decides_anyOf {checks : List (Checked Unit)} {accepts : List Bool}
    (decides : List.Forall₂ Decides checks accepts) (reasons : List Text) :
    Decides (anyOf checks reasons) (accepts.any id) := by
  induction decides generalizing reasons with
  | nil => exact ⟨_, rfl⟩
  | @cons check first checks accepts decides others induction =>
      rw [List.any_cons]
      cases first with
      | true =>
          rw [show check = .ok () from decides, anyOf]
          exact decides_ok
      | false =>
          obtain ⟨reason, rfl⟩ := decides
          exact induction (reasons ++ [reason])

/-! ## The check of a schema, by its keywords -/

theorem checkValue_object (py : PyJson F) (keywords : Members F) (value : Value F) (place : Text) :
    checkValue py (.object keywords) value place =
      allOf [checkType keywords value place, checkEnum py keywords value place,
        checkConst py keywords value place,
        match getKey keywords "anyOf" with
        | Option.none => .ok ()
        | some (.array options) =>
            anyOf (options.map fun option => checkValue py option value place) []
        | some options => anyOfOther options,
        match value, getKey keywords "items" with
        | .array items, some schema =>
            allOf (items.mapIdx fun index item =>
              checkValue py schema item (place ++ ofString ("[" ++ toString index ++ "]")))
        | .object members, _ => checkObject py keywords members place
        | _, _ => .ok ()] := by
  rw [checkValue.eq_def]
  simp only
  congr 4
  refine congrArg₂ List.cons ?_ (congrArg (fun part => [part]) ?_)
  · split
    · rename_i found
      rw [found]
    · rename_i options found
      rw [found]
      simp
    · rename_i options other found
      rw [found]
      split
      · contradiction
      · rename_i same
        cases same
        exact absurd rfl (other _)
      · rename_i same
        cases same
        rfl
  · split
    · rename_i items schema found
      rw [found]
    · rfl
    · rename_i notMembers notItems
      split
      · rename_i found
        exact (notItems _ _ rfl found).elim
      · exact (notMembers _ rfl).elim
      · rfl

/-- What a member besides `properties` is checked by; how it was found does not matter. -/
theorem additionalProperties_eq (py : PyJson F) (keywords : Members F) (place key : Text)
    (item : Value F) :
    (match _found : getKey keywords "additionalProperties" with
      | some (.bool false) =>
          .error (.invalid (place ++ ofString ": unexpected key " ++ py.repr (.string key)))
      | some (.object extra) => checkValue py (.object extra) item (place ++ ofString "." ++ key)
      | _ => .ok ()) =
      (match getKey keywords "additionalProperties" with
      | some (.bool false) =>
          .error (.invalid (place ++ ofString ": unexpected key " ++ py.repr (.string key)))
      | some (.object extra) => checkValue py (.object extra) item (place ++ ofString "." ++ key)
      | _ => .ok () : Checked Unit) := by
  split
  · rename_i found
    rw [found]
  · rename_i found
    rw [found]
  · rename_i notFalse notObject
    split
    · rename_i found
      exact (notFalse found).elim
    · rename_i found
      exact (notObject _ found).elim
    · rfl

/-- Without `required` and `properties`, each member is checked by `additionalProperties`. -/
theorem checkObject_extra {keywords : Members F} (required : getKey keywords "required" = .none)
    (properties : getKey keywords "properties" = .none) (py : PyJson F) (members : Members F)
    (place : Text) :
    checkObject py keywords members place =
      allOf (members.map fun member =>
        match getKey keywords "additionalProperties" with
        | some (.bool false) =>
            .error (.invalid (place ++ ofString ": unexpected key " ++ py.repr (.string member.1)))
        | some (.object extra) =>
            checkValue py (.object extra) member.2 (place ++ ofString "." ++ member.1)
        | _ => .ok ()) := by
  have present : checkRequired keywords py members place = .ok () := by
    rw [checkRequired, required]
  rw [checkObject.eq_def, present, allOf]
  congr 1
  refine List.map_congr_left ?_
  rintro ⟨key, item⟩ -
  rw [← additionalProperties_eq py keywords place key item]
  simp only
  split
  · rfl
  · rename_i found
    rw [properties] at found
    cases found
  · rename_i found
    rw [properties] at found
    cases found

/-- The keywords of a schema are found by their names. -/
theorem getKey_schemaKeywords (members : List (String × Value F)) (key : String) :
    getKey (schemaKeywords members) key = members.lookup key := by
  rw [getKey, schemaKeywords]
  induction members with
  | nil => rfl
  | cons member members induction =>
      obtain ⟨name, value⟩ := member
      rw [List.map_cons, List.lookup_cons, List.lookup_cons, induction, ofString_beq]

theorem typeCheck_kind (kind : JsonKind) (value : Value F) :
    typeCheck (.string (ofString kind.name)) value = .ok (decide (kindOf value = kind)) := by
  cases kind <;> simp [typeCheck, jsonTypeChecks, ofString_injective.eq_iff, JsonKind.name] <;>
    cases value <;> rfl

theorem typeCheck_integer (value : Value F) :
    typeCheck (.string (ofString "integer")) value =
      .ok (match value with | .int _ => true | _ => false) := by
  cases value <;> simp [typeCheck, jsonTypeChecks, ofString_injective.eq_iff]

theorem decides_checkType {keywords : Members F} {name : String} {test : Value F → Bool}
    (found : getKey keywords "type" = some (.string (ofString name)))
    (known : ∀ value, typeCheck (.string (ofString name)) value = .ok (test value))
    (value : Value F) (place : Text) :
    Decides (checkType keywords value place) (test value) := by
  simp only [checkType, found, anyType, known value, bind, Except.bind]
  cases test value with
  | true => rfl
  | false => exact ⟨_, rfl⟩

/-- A schema with a type, and nothing that looks at the value itself beside it. -/
theorem decides_checkValue_typed {py : PyJson F} {keywords : Members F} {name : String}
    {test : Value F → Bool} {value : Value F} {place : Text} {inner : Bool}
    (found : getKey keywords "type" = some (.string (ofString name)))
    (known : ∀ value, typeCheck (.string (ofString name)) value = .ok (test value))
    (noEnum : getKey keywords "enum" = .none) (noConst : getKey keywords "const" = .none)
    (noAnyOf : getKey keywords "anyOf" = .none)
    (within : Decides (match value, getKey keywords "items" with
      | .array items, some schema =>
          allOf (items.mapIdx fun index item =>
            checkValue py schema item (place ++ ofString ("[" ++ toString index ++ "]")))
      | .object members, _ => checkObject py keywords members place
      | _, _ => .ok ()) inner) :
    Decides (checkValue py (.object keywords) value place) (test value && inner) := by
  rw [checkValue_object, checkEnum, noEnum, checkConst, noConst, noAnyOf]
  have typed := decides_checkType found known value place
  have rest := decides_ok.allOf_cons (decides_ok.allOf_cons (decides_ok.allOf_cons
    (within.allOf_cons decides_allOf_nil)))
  have all := typed.allOf_cons rest
  simpa using all

/-- Members that nothing is said of. -/
theorem decides_checkObject_free {keywords : Members F}
    (required : getKey keywords "required" = .none)
    (properties : getKey keywords "properties" = .none)
    (extra : getKey keywords "additionalProperties" = .none) (py : PyJson F) (members : Members F)
    (place : Text) : Decides (checkObject py keywords members place) true := by
  rw [checkObject_extra required properties, extra]
  have free : Decides (allOf (members.map fun _ => (.ok () : Checked Unit)))
      (members.all fun _ => true) := decides_allOf_map fun _ _ => decides_ok
  rwa [List.all_eq_true.mpr fun _ _ => rfl] at free

/-! ## The schema of a hint -/

theorem exists_object_of_hintSchema {hint : Hint F} {schema : Value F}
    (made : hintSchema hint = .ok schema) : ∃ keywords, schema = .object keywords := by
  cases hint with
  | listOf item =>
      rw [hintSchema] at made
      split at made
      · cases made
      · cases made
        exact ⟨_, rfl⟩
  | dictOf key item =>
      cases key with
      | str =>
          rw [hintSchema] at made
          split at made
          · cases made
          · cases made
            exact ⟨_, rfl⟩
      | _ => simp [hintSchema] at made
  | union members =>
      rw [hintSchema] at made
      split at made
      · cases made
      · cases made
        exact ⟨_, rfl⟩
  | literal listed =>
      rw [hintSchema] at made
      split at made
      · cases made
        exact ⟨_, rfl⟩
      · cases made
  | other => simp [hintSchema, scalarType] at made
  | _ =>
      cases made
      exact ⟨_, rfl⟩

/-- Beside a type, nothing. -/
theorem decides_typed {py : PyJson F} {name : String} {test : Value F → Bool}
    (known : ∀ value, typeCheck (.string (ofString name)) value = .ok (test value))
    (value : Value F) (place : Text) :
    Decides (checkValue py (schemaObject [("type", .string (ofString name))]) value place)
      (test value) := by
  have absent {key : String} (other : key ≠ "type") :
      getKey (schemaKeywords [("type", (.string (ofString name) : Value F))]) key = .none := by
    rw [getKey_schemaKeywords]
    simp [List.lookup_cons, beq_false_of_ne other]
  have checked : Decides
      (checkValue py (schemaObject [("type", .string (ofString name))]) value place)
      (test value && true) := by
    apply decides_checkValue_typed (getKey_schemaKeywords _ "type") known (absent (by decide))
      (absent (by decide)) (absent (by decide))
    rw [absent (by decide)]
    cases value with
    | object members =>
        exact decides_checkObject_free (absent (by decide)) (absent (by decide))
          (absent (by decide)) py members place
    | _ => exact decides_ok
  rwa [Bool.and_true] at checked

/-- A list whose items are checked. -/
theorem decides_listOf {py : PyJson F} {items : Value F} {accepts : Value F → Bool}
    (decides : ∀ value place, Decides (checkValue py items value place) (accepts value))
    (value : Value F) (place : Text) :
    Decides (checkValue py
        (schemaObject [("type", .string (ofString "array")), ("items", items)]) value place)
      (match value with
        | .array values => values.all accepts
        | _ => false) := by
  have keyword (key : String) := getKey_schemaKeywords
    [("type", .string (ofString "array")), ("items", items)] key
  have checked : Decides (checkValue py
        (schemaObject [("type", .string (ofString "array")), ("items", items)]) value place)
      (decide (kindOf value = .array) &&
        match value with
        | .array values => values.all accepts
        | _ => true) := by
    apply decides_checkValue_typed (keyword "type") (typeCheck_kind .array) (keyword "enum")
      (keyword "const") (keyword "anyOf")
    rw [keyword "items"]
    cases value with
    | array values => exact decides_allOf_mapIdx fun index item _ => decides item _
    | object members =>
        exact decides_checkObject_free (keyword "required") (keyword "properties")
          (keyword "additionalProperties") py members place
    | _ => exact decides_ok
  cases value <;> exact checked

/-- A `dict` whose values are checked. -/
theorem decides_dictOf {py : PyJson F} {extra : Members F} {accepts : Value F → Bool}
    (decides : ∀ value place, Decides (checkValue py (.object extra) value place) (accepts value))
    (value : Value F) (place : Text) :
    Decides (checkValue py (schemaObject [("type", .string (ofString "object")),
        ("additionalProperties", .object extra)]) value place)
      (match value with
        | .object members => members.all fun member => accepts member.2
        | _ => false) := by
  have keyword (key : String) := getKey_schemaKeywords
    [("type", .string (ofString "object")), ("additionalProperties", (.object extra : Value F))] key
  have checked : Decides (checkValue py (schemaObject [("type", .string (ofString "object")),
        ("additionalProperties", .object extra)]) value place)
      (decide (kindOf value = .object) &&
        match value with
        | .object members => members.all fun member => accepts member.2
        | _ => true) := by
    apply decides_checkValue_typed (keyword "type") (typeCheck_kind .object) (keyword "enum")
      (keyword "const") (keyword "anyOf")
    rw [keyword "items"]
    cases value with
    | object members =>
        have checks :=
          checkObject_extra (keyword "required") (keyword "properties") py members place
        rw [keyword "additionalProperties"] at checks
        simp only [checks]
        exact decides_allOf_map fun member _ => decides member.2 _
    | _ => exact decides_ok
  cases value <;> exact checked

/-- Nothing is said of what is within the value. -/
theorem decides_within_free {keywords : Members F} (required : getKey keywords "required" = .none)
    (properties : getKey keywords "properties" = .none)
    (extra : getKey keywords "additionalProperties" = .none) (py : PyJson F) (value : Value F)
    (place : Text) :
    Decides (match value, (Option.none : Option (Value F)) with
      | .array items, some schema =>
          allOf (items.mapIdx fun index item =>
            checkValue py schema item (place ++ ofString ("[" ++ toString index ++ "]")))
      | .object members, _ => checkObject py keywords members place
      | _, _ => .ok ()) true := by
  cases value with
  | object members => exact decides_checkObject_free required properties extra py members place
  | _ => exact decides_ok

/-- A schema without a type, when there is nothing to say of what is within the value. -/
theorem decides_checkValue_untyped {py : PyJson F} {members : List (String × Value F)}
    {value : Value F} {place : Text} {among option : Bool}
    (untyped : members.lookup "type" = .none) (noConst : members.lookup "const" = .none)
    (noItems : members.lookup "items" = .none) (noRequired : members.lookup "required" = .none)
    (noProperties : members.lookup "properties" = .none)
    (noExtra : members.lookup "additionalProperties" = .none)
    (enum : Decides (checkEnum py (schemaKeywords members) value place) among)
    (options : Decides (match members.lookup "anyOf" with
      | Option.none => .ok ()
      | some (.array options) =>
          anyOf (options.map fun option => checkValue py option value place) []
      | some options => anyOfOther options) option) :
    Decides (checkValue py (schemaObject members) value place) (among && option) := by
  have keyword (key : String) := getKey_schemaKeywords members key
  rw [schemaObject, checkValue_object, checkType, checkConst, keyword, keyword, keyword, keyword,
    untyped, noConst, noItems]
  have within := decides_within_free (by rw [keyword, noRequired]) (by rw [keyword, noProperties])
    (by rw [keyword, noExtra]) py value place
  have rest := decides_ok.allOf_cons (options.allOf_cons (within.allOf_cons decides_allOf_nil))
  have all := decides_ok.allOf_cons (enum.allOf_cons rest)
  simpa using all

/-- Nothing but options. -/
theorem decides_options {py : PyJson F} {options : List (Value F)} {accepts : Bool}
    {value : Value F} {place : Text}
    (decides : Decides (anyOf (options.map fun option => checkValue py option value place) [])
      accepts) :
    Decides (checkValue py (schemaObject [("anyOf", .array options)]) value place) accepts := by
  have enum : Decides (checkEnum py (schemaKeywords [("anyOf", .array options)]) value place)
      true := by
    rw [checkEnum, getKey_schemaKeywords]
    exact decides_ok
  exact decides_checkValue_untyped rfl rfl rfl rfl rfl rfl enum decides

/-- Nothing but the values allowed. -/
theorem decides_allowed {py : PyJson F} {allowed : List (Value F)} (value : Value F)
    (place : Text) :
    Decides (checkValue py (schemaObject [("enum", .array allowed)]) value place)
      (allowed.any (pyEqual py value)) := by
  have enum : Decides (checkEnum py (schemaKeywords [("enum", .array allowed)]) value place)
      (allowed.any (pyEqual py value)) := by
    rw [checkEnum, getKey_schemaKeywords]
    simp only [List.lookup_cons, beq_self_eq_true, valueIn, bind, Except.bind]
    cases allowed.any (pyEqual py value) with
    | true => rfl
    | false => exact ⟨_, rfl⟩
  have checked := decides_checkValue_untyped rfl rfl rfl rfl rfl rfl enum decides_ok
  rwa [Bool.and_true] at checked

/-- Nothing is looked at. -/
theorem decides_free {py : PyJson F} (value : Value F) (place : Text) :
    Decides (checkValue py (schemaObject []) value place) true := by
  have enum : Decides (checkEnum py (schemaKeywords []) value place) true := decides_ok
  exact decides_checkValue_untyped rfl rfl rfl rfl rfl rfl enum decides_ok

/-! ## What the check accepts -/

/-- What belongs, and what slips through. -/
def passes (py : PyJson F) (hint : Hint F) (value : Value F) : Bool :=
  belongs py hint value || slips py hint value

theorem all_passes {α : Type*} (items : List α) (first second : α → Bool) :
    (items.all first ||
      (items.all (fun item => first item || second item) && items.any second)) =
      items.all fun item => first item || second item := by
  rw [Bool.eq_iff_iff]
  simp only [Bool.or_eq_true, Bool.and_eq_true, List.all_eq_true, List.any_eq_true]
  constructor
  · rintro (each | ⟨each, -⟩)
    · intro item member
      exact .inl (each item member)
    · exact each
  · intro each
    by_cases some : ∃ item ∈ items, second item = true
    · exact .inr ⟨each, some⟩
    · refine .inl fun item member => (each item member).resolve_right fun slip => ?_
      exact some ⟨item, member, slip⟩

theorem passes_listOf (py : PyJson F) (item : Hint F) (value : Value F) :
    passes py (.listOf item) value =
      match value with
      | .array values => values.all (passes py item)
      | _ => false := by
  cases value with
  | array values => exact all_passes values (belongs py item) (slips py item)
  | _ => rfl

theorem passes_dictOf (py : PyJson F) (item : Hint F) (value : Value F) :
    passes py (.dictOf .str item) value =
      match value with
      | .object members => members.all fun member => passes py item member.2
      | _ => false := by
  cases value with
  | object members =>
      exact all_passes members (fun member => belongs py item member.2) fun member =>
        slips py item member.2
  | _ => rfl

theorem passes_union (py : PyJson F) (members : List (Hint F)) (value : Value F) :
    passes py (.union members) value = members.any fun hint => passes py hint value := by
  have any : (belongsAny py members value || slipsAny py members value) =
      members.any fun hint => passes py hint value := by
    induction members with
    | nil => rfl
    | cons hint hints induction =>
        show ((belongs py hint value || belongsAny py hints value) ||
          (slips py hint value || slipsAny py hints value)) = _
        rw [List.any_cons, ← induction, passes]
        grind
  show (belongsAny py members value ||
    (slipsAny py members value && !belongsAny py members value)) = _
  rw [← any]
  grind

theorem sameScalar_or_otherScalar (py : PyJson F) (value : Value F) (listed : Scalar F) :
    (sameScalar py value listed || otherScalar py value listed) =
      pyEqual py value listed.value := by
  rw [sameScalar, otherScalar]
  by_cases same : kindOf listed.value = kindOf value <;> simp [same]

theorem listedScalars_of_mapM {listed : List (Option (Scalar F))} {values : List (Scalar F)}
    (all : listed.mapM id = some values) : listedScalars listed = values := by
  rw [listedScalars]
  induction listed generalizing values with
  | nil =>
      rw [List.mapM_nil] at all
      exact Option.some.inj all
  | cons first listed induction =>
      rw [List.mapM_cons] at all
      cases first with
      | none => cases all
      | some first =>
          cases rest : listed.mapM id with
          | none =>
              rw [rest] at all
              cases all
          | some others =>
              rw [rest] at all
              cases all
              rw [List.filterMap_cons, induction rest]
              rfl

theorem any_or_any {α : Type*} (items : List α) (first second : α → Bool) :
    (items.any first || items.any second) = items.any fun item => first item || second item := by
  induction items with
  | nil => rfl
  | cons item items induction =>
      rw [List.any_cons, List.any_cons, List.any_cons, ← induction]
      ac_rfl

theorem passes_literal (py : PyJson F) {listed : List (Option (Scalar F))}
    {values : List (Scalar F)} (all : listed.mapM id = some values) (value : Value F) :
    passes py (.literal listed) value = (values.map Scalar.value).any (pyEqual py value) := by
  have each : (values.any (sameScalar py value) || values.any (otherScalar py value)) =
      (values.map Scalar.value).any (pyEqual py value) := by
    simp only [any_or_any, sameScalar_or_otherScalar, List.any_map, Function.comp_def]
  show ((listedScalars listed).any (sameScalar py value) ||
    ((listedScalars listed).any (otherScalar py value) &&
      !(listedScalars listed).any (sameScalar py value))) = _
  rw [listedScalars_of_mapM all, ← each]
  grind

mutual

/-- The check decides what passes for a hint, by the constructors of the hint. -/
theorem decides_hintSchema (py : PyJson F) {hint : Hint F} {schema : Value F}
    (made : hintSchema hint = .ok schema) (value : Value F) (place : Text) :
    Decides (checkValue py schema value place) (passes py hint value) := by
  cases hint with
  | any =>
      cases made
      exact decides_free value place
  | bool =>
      cases made
      have checked := @decides_typed _ py _ _ (typeCheck_kind .boolean) value place
      cases value <;> exact checked
  | int =>
      cases made
      have checked := @decides_typed _ py _ _ typeCheck_integer value place
      cases value <;> exact checked
  | float =>
      cases made
      have checked := @decides_typed _ py _ _ (typeCheck_kind .number) value place
      cases value <;> exact checked
  | str =>
      cases made
      have checked := @decides_typed _ py _ _ (typeCheck_kind .string) value place
      cases value <;> exact checked
  | none =>
      cases made
      have checked := @decides_typed _ py _ _ (typeCheck_kind .null) value place
      cases value <;> exact checked
  | list =>
      cases made
      have checked := @decides_typed _ py _ _ (typeCheck_kind .array) value place
      cases value <;> exact checked
  | dict =>
      cases made
      have checked := @decides_typed _ py _ _ (typeCheck_kind .object) value place
      cases value <;> exact checked
  | listOf item =>
      rw [hintSchema] at made
      cases inner : hintSchema item with
      | error hint =>
          rw [inner] at made
          cases made
      | ok items =>
          rw [inner] at made
          cases made
          rw [passes_listOf]
          exact decides_listOf (decides_hintSchema py inner) value place
  | dictOf key item =>
      cases key with
      | str =>
          rw [hintSchema] at made
          cases inner : hintSchema item with
          | error hint =>
              rw [inner] at made
              cases made
          | ok extra =>
              rw [inner] at made
              cases made
              obtain ⟨keywords, rfl⟩ := exists_object_of_hintSchema inner
              rw [passes_dictOf]
              exact decides_dictOf (decides_hintSchema py inner) value place
      | _ => simp [hintSchema] at made
  | union members =>
      rw [hintSchema] at made
      cases inner : hintSchemas members with
      | error hint =>
          rw [inner] at made
          cases made
      | ok options =>
          rw [inner] at made
          cases made
          rw [passes_union]
          have each := decides_hintSchemas py inner value place
          have any := decides_options (decides_anyOf each [])
          rwa [List.any_map] at any
  | literal listed =>
      rw [hintSchema] at made
      cases all : listed.mapM id with
      | none =>
          rw [all] at made
          cases made
      | some values =>
          rw [all] at made
          cases made
          rw [passes_literal py all]
          exact decides_allowed value place
  | other => simp [hintSchema, scalarType] at made

theorem decides_hintSchemas (py : PyJson F) {hints : List (Hint F)} {schemas : List (Value F)}
    (made : hintSchemas hints = .ok schemas) (value : Value F) (place : Text) :
    List.Forall₂ Decides (schemas.map fun schema => checkValue py schema value place)
      (hints.map fun hint => passes py hint value) := by
  cases hints with
  | nil =>
      cases made
      exact .nil
  | cons hint hints =>
      rw [hintSchemas] at made
      cases first : hintSchema hint with
      | error hint =>
          rw [first] at made
          cases made
      | ok schema =>
          cases rest : hintSchemas hints with
          | error hint =>
              rw [first, rest] at made
              cases made
          | ok schemas =>
              rw [first, rest] at made
              cases made
              exact .cons (decides_hintSchema py first value place)
                (decides_hintSchemas py rest value place)

end

/-- What slips through does not belong. -/
theorem belongs_eq_false_of_slips {py : PyJson F} {hint : Hint F} {value : Value F}
    (slip : slips py hint value = true) : belongs py hint value = false := by
  cases hint with
  | listOf item =>
      cases value with
      | array values =>
          rw [slips, Bool.and_eq_true, List.any_eq_true] at slip
          obtain ⟨-, value, member, within⟩ := slip
          rw [belongs, List.all_eq_false]
          exact ⟨value, member, by simp [belongs_eq_false_of_slips within]⟩
      | _ => rfl
  | dictOf key item =>
      cases key with
      | str =>
          cases value with
          | object members =>
              rw [slips, Bool.and_eq_true, List.any_eq_true] at slip
              obtain ⟨-, entry, member, within⟩ := slip
              rw [belongs, List.all_eq_false]
              exact ⟨entry, member, by simp [belongs_eq_false_of_slips within]⟩
          | _ => rfl
      | _ => rfl
  | union members =>
      rw [slips, Bool.and_eq_true, Bool.not_eq_true'] at slip
      rw [belongs]
      exact slip.2
  | literal listed =>
      rw [slips, Bool.and_eq_true, Bool.not_eq_true'] at slip
      rw [belongs]
      exact slip.2
  | _ => cases value <;> cases slip

/-- What equals a listed value of another type is a boolean, or equals a boolean. -/
theorem kinds_of_otherScalar {py : PyJson F} {value : Value F} {listed : Scalar F}
    (other : otherScalar py value listed = true) :
    (kindOf value = .boolean ∧ kindOf listed.value = .number) ∨
      (kindOf value = .number ∧ kindOf listed.value = .boolean) := by
  rw [otherScalar, Bool.and_eq_true, decide_eq_true_eq] at other
  obtain ⟨differ, equal⟩ := other
  cases listed <;> cases value <;>
    simp_all [kindOf, Scalar.value, pyEqual, asNumber]

/-- The check accepts exactly what belongs to the hint, but where a boolean slips through for an
equal number, or a number for an equal boolean. -/
theorem hintSchema_decides_iff (py : PyJson F) (hint : Hint F) (schema : Value F)
    (made : hintSchema hint = .ok schema) (value : Value F) (place : Text) :
    (checkValue py schema value place = .ok () ↔ belongs py hint value = true) ↔
      slips py hint value = false := by
  rw [(decides_hintSchema py made value place).ok_iff, passes]
  cases slip : slips py hint value with
  | false => simp
  | true => simp [belongs_eq_false_of_slips slip]

/-- `list[int | Literal[True]]`. -/
def sampleHint : Hint Unit := .listOf (.union [.int, .literal [some (.bool true)]])

def sampleSchema : Value Unit :=
  schemaObject [("type", .string (ofString "array")),
    ("items", schemaObject [("anyOf", .array
      [schemaObject [("type", .string (ofString "integer"))],
        schemaObject [("enum", .array [.bool true])]])])]

theorem hintSchema_decides_sampleHint :
    hintSchema sampleHint = .ok sampleSchema ∧
      (checkValue MCPServer.oneHalf sampleSchema (.array [.int 3, .bool true])
          (ofString "argument 'given'") = .ok () ↔
        belongs MCPServer.oneHalf sampleHint (.array [.int 3, .bool true]) = true) ∧
      belongs MCPServer.oneHalf sampleHint (.array [.int 3, .bool true]) = true := by
  have made : hintSchema sampleHint = .ok sampleSchema := rfl
  refine ⟨made, ?_, by decide⟩
  apply (hintSchema_decides_iff MCPServer.oneHalf sampleHint sampleSchema made _ _).mpr
  decide

/-- `Literal[1]` takes `True`. -/
theorem literal_takes_bool :
    hintSchema (.literal [some (.int 1)] : Hint Unit) =
        .ok (schemaObject [("enum", .array [.int 1])]) ∧
      ¬ (checkValue MCPServer.oneHalf (schemaObject [("enum", .array [.int 1])]) (.bool true)
            (ofString "argument 'given'") = .ok () ↔
          belongs MCPServer.oneHalf (.literal [some (.int 1)]) (.bool true) = true) := by
  have made : hintSchema (.literal [some (.int 1)] : Hint Unit) =
      .ok (schemaObject [("enum", .array [.int 1])]) := rfl
  have checked :=
    decides_hintSchema MCPServer.oneHalf made (.bool true) (ofString "argument 'given'")
  refine ⟨made, fun same => ?_⟩
  have belonging := same.mp (checked.ok_iff.mpr (by decide))
  revert belonging
  decide

end Mcp

end Pyronova
