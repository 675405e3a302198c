import Mathlib.Tactic
import Pyronova.Inversion
import Pyronova.Json

/-!
# Values against their schema

The argument values of a tool call are checked against the JSON Schema of the tool.  A schema is
what a registration gave, so a keyword in it may have a value that JSON Schema does not know; then
the check raises something other than a refusal.
-/

namespace Pyronova

namespace Mcp

open Json

/-- What the interpreter knows about numbers, and its `repr`. -/
structure PyJson (F : Type) extends FloatFormat F where
  repr : Value F → Text
  equalsInt : F → Int → Bool
  equalsFloat : F → F → Bool

/-- The members of a `dict` that a JSON object became. -/
abbrev Members (F : Type) := List (Text × Value F)

variable {F : Type}

/-- `members.get(key)`, for a key of the source. -/
def getKey (members : Members F) (key : String) : Option (Value F) :=
  members.lookup (ofString key)

/-- How a check of a value against its schema fails: by `_Invalid`, or by another exception. -/
inductive CheckFailure
  | invalid (reason : Text)
  | raised
  deriving DecidableEq, Repr

abbrev Checked (α : Type) := Except CheckFailure α

/-! ## Types of values -/

/-- `_JSON_TYPE_CHECKS`. -/
def jsonTypeChecks : List (String × (Value F → Bool)) :=
  [("null", fun | .null => true | _ => false),
    ("boolean", fun | .bool _ => true | _ => false),
    ("integer", fun | .int _ => true | _ => false),
    ("number", fun | .int _ => true | .float _ => true | _ => false),
    ("string", fun | .string _ => true | _ => false),
    ("array", fun | .array _ => true | _ => false),
    ("object", fun | .object _ => true | _ => false)]

/-- `_JSON_TYPE_CHECKS[name](value)`, for a name that may be no key or no `str`. -/
def typeCheck (name value : Value F) : Checked Bool :=
  match name with
  | .string name =>
      match jsonTypeChecks.find? fun entry => ofString entry.1 = name with
      | some entry => .ok (entry.2 value)
      | none => .error .raised
  | _ => .error .raised

/-- `_json_type_name`. -/
def jsonTypeName (value : Value F) : Text :=
  match jsonTypeChecks.find? fun entry => entry.2 value with
  | some entry => ofString entry.1
  | none => []

/-! ## Equality, membership and iteration -/

/-- A number as `==` compares it; `True` is 1. -/
def asNumber : Value F → Option (Int ⊕ Float F)
  | .bool value => some (.inl (if value then 1 else 0))
  | .int number => some (.inl number)
  | .float number => some (.inr number)
  | _ => none

def numbersEqual (py : PyJson F) : Int ⊕ Float F → Int ⊕ Float F → Bool
  | .inl left, .inl right => left = right
  | .inl left, .inr (.finite right) => py.equalsInt right left
  | .inr (.finite left), .inl right => py.equalsInt left right
  | .inr (.finite left), .inr (.finite right) => py.equalsFloat left right
  | .inr (.infinity left), .inr (.infinity right) => left = right
  | _, _ => false

mutual

/-- `left == right`. -/
def pyEqual (py : PyJson F) : Value F → Value F → Bool
  | .null, .null => true
  | .string left, .string right => left = right
  | .array left, .array right => pyEqualItems py left right
  | .object left, .object right => left.length = right.length && pyEqualMembers py left right
  | left, right =>
      match asNumber left, asNumber right with
      | some left, some right => numbersEqual py left right
      | _, _ => false

def pyEqualItems (py : PyJson F) : List (Value F) → List (Value F) → Bool
  | [], [] => true
  | left :: lefts, right :: rights => pyEqual py left right && pyEqualItems py lefts rights
  | _, _ => false

def pyEqualMembers (py : PyJson F) : List (Text × Value F) → List (Text × Value F) → Bool
  | [], _ => true
  | (name, left) :: lefts, rights =>
      (match rights.lookup name with
        | some right => pyEqual py left right
        | none => false) && pyEqualMembers py lefts rights

end

/-- `key in members`; a list or a `dict` cannot be hashed. -/
def keyIn (key : Value F) (members : Members F) : Checked Bool :=
  match key with
  | .string key => .ok (members.lookup key).isSome
  | .array _ | .object _ => .error .raised
  | _ => .ok false

/-- `value in container`. -/
def valueIn (py : PyJson F) (value container : Value F) : Checked Bool :=
  match container with
  | .array items => .ok (items.any (pyEqual py value))
  | .object members => keyIn value members
  | .string text =>
      match value with
      | .string part => .ok (decide (part <:+: text))
      | _ => .error .raised
  | _ => .error .raised

/-- What a `for` loop runs over. -/
def iterate : Value F → Checked (List (Value F))
  | .array items => .ok items
  | .string text => .ok (text.map fun c => .string [c])
  | .object members => .ok (members.map fun member => .string member.1)
  | _ => .error .raised

/-- `[key for key in keys if key not in members]`. -/
def absentKeys (members : Members F) : List (Value F) → Checked (List (Value F))
  | [] => .ok []
  | key :: keys => do
      let present ← keyIn key members
      let absent ← absentKeys members keys
      .ok (if present then absent else key :: absent)

/-! ## The keywords that look at the value itself -/

/-- `any(_JSON_TYPE_CHECKS[n](value) for n in names)`. -/
def anyType (value : Value F) : List (Value F) → Checked Bool
  | [] => .ok false
  | name :: names => do
      if ← typeCheck name value then .ok true else anyType value names

def textOf : Value F → Text
  | .string text => text
  | _ => []

def joinWords (separator : Text) (words : List Text) : Text := separator.intercalate words

def checkType (keywords : Members F) (value : Value F) (place : Text) : Checked Unit :=
  match getKey keywords "type" with
  | none | some .null => .ok ()
  | some expected => do
      let names := match expected with
        | .array names => names
        | name => [name]
      if ← anyType value names then .ok ()
      else .error (.invalid (place ++ ofString ": expected " ++
        joinWords (ofString " or ") (names.map textOf) ++ ofString ", got " ++ jsonTypeName value))

def checkEnum (py : PyJson F) (keywords : Members F) (value : Value F) (place : Text) :
    Checked Unit :=
  match getKey keywords "enum" with
  | none => .ok ()
  | some allowed => do
      if ← valueIn py value allowed then .ok ()
      else .error (.invalid (place ++ ofString ": " ++ py.repr value ++
        ofString " is not one of " ++ py.repr allowed))

def checkConst (py : PyJson F) (keywords : Members F) (value : Value F) (place : Text) :
    Checked Unit :=
  match getKey keywords "const" with
  | none => .ok ()
  | some allowed =>
      if pyEqual py value allowed then .ok ()
      else .error (.invalid (place ++ ofString ": must be " ++ py.repr allowed ++
        ofString ", got " ++ py.repr value))

/-! ## Schemas within a schema -/

/-- The first check that passes, else all reasons; another exception ends the loop. -/
def anyOf : List (Checked Unit) → List Text → Checked Unit
  | [], reasons => .error (.invalid (joinWords (ofString " / ") reasons))
  | .ok () :: _, _ => .ok ()
  | .error (.invalid reason) :: checks, reasons => anyOf checks (reasons ++ [reason])
  | .error .raised :: _, _ => .error .raised

/-- The loop over what is no list: none of its elements is a schema, and without one there is no
reason. -/
def anyOfOther (options : Value F) : Checked Unit := do
  if (← iterate options).isEmpty then .error (.invalid []) else .error .raised

/-- The checks in order, up to the first that fails. -/
def allOf : List (Checked Unit) → Checked Unit
  | [] => .ok ()
  | .ok () :: checks => allOf checks
  | .error failure :: _ => .error failure

theorem sizeOf_lookup {members : Members F} {name : Text} {value : Value F}
    (found : members.lookup name = some value) : sizeOf value < sizeOf members := by
  have member : (name, value) ∈ members := List.mem_of_lookup found
  have inPair : sizeOf value < sizeOf (name, value) := by
    simp only [Prod.mk.sizeOf_spec]
    omega
  exact inPair.trans (List.sizeOf_lt_of_mem member)

theorem sizeOf_getKey {keywords : Members F} {key : String} {value : Value F}
    (found : getKey keywords key = some value) :
    sizeOf value < sizeOf (Value.object keywords) := by
  have inner := sizeOf_lookup found
  simp only [Value.object.sizeOf_spec]
  omega

/-- `_check_object`, apart from the values of its members: the keys that `required` names and the
`properties`. -/
def checkRequired (keywords : Members F) (py : PyJson F) (members : Members F) (place : Text) :
    Checked Unit :=
  match getKey keywords "required" with
  | none => .ok ()
  | some required => do
      let missing ← absentKeys members (← iterate required)
      if missing.isEmpty then .ok ()
      else .error (.invalid (place ++ ofString ": missing required key(s) " ++
        py.repr (.array missing)))

/-- `key in properties`, where `properties` is no `dict`: then `properties[key]` raises too. -/
def notInProperties (py : PyJson F) (key : Text) (properties : Value F) : Checked Unit := do
  if ← valueIn py (.string key) properties then .error .raised else .ok ()

mutual

/-- `_check_value`. -/
def checkValue (py : PyJson F) (schema value : Value F) (place : Text) : Checked Unit :=
  match schema with
  | .object keywords =>
      allOf [checkType keywords value place, checkEnum py keywords value place,
        checkConst py keywords value place,
        match _found : getKey keywords "anyOf" with
        | none => .ok ()
        | some (.array options) =>
            anyOf (options.attach.map fun option => checkValue py option.1 value place) []
        | some options => anyOfOther options,
        match value, _found : getKey keywords "items" with
        | .array items, some schema =>
            allOf (items.mapIdx fun index item =>
              checkValue py schema item (place ++ ofString ("[" ++ toString index ++ "]")))
        | .object members, _ => checkObject py keywords members place
        | _, _ => .ok ()]
  | _ => .error .raised
termination_by (sizeOf schema, 1)
decreasing_by
  · have inner := List.sizeOf_lt_of_mem option.2
    have outer := sizeOf_getKey _found
    simp only [Value.array.sizeOf_spec] at outer
    exact .left _ _ (by omega)
  · exact .left _ _ (sizeOf_getKey _found)
  · exact .right _ Nat.zero_lt_one

/-- `_check_object`. -/
def checkObject (py : PyJson F) (keywords members : Members F) (place : Text) : Checked Unit :=
  allOf (checkRequired keywords py members place :: members.map fun (key, item) =>
    let inner := place ++ ofString "." ++ key
    let extra :=
      match _found : getKey keywords "additionalProperties" with
      | some (.bool false) =>
          .error (.invalid (place ++ ofString ": unexpected key " ++ py.repr (.string key)))
      | some (.object extra) => checkValue py (.object extra) item inner
      | _ => .ok ()
    match _known : getKey keywords "properties" with
    | none => extra
    | some (.object properties) =>
        match _own : properties.lookup key with
        | some schema => checkValue py schema item inner
        | none => extra
    | some properties => allOf [notInProperties py key properties, extra])
termination_by (sizeOf (Value.object keywords), 0)
decreasing_by
  · exact .left _ _ (sizeOf_getKey _found)
  · have inner := sizeOf_lookup _own
    have outer := sizeOf_getKey _known
    simp only [Value.object.sizeOf_spec] at outer
    exact .left _ _ (by simp only [Value.object.sizeOf_spec]; omega)

end

/-- The check of one argument in `_check_arguments`; one without a property is not checked. -/
def checkArgument (py : PyJson F) (properties : Value F) (name : Text) (value : Value F) :
    Checked Unit :=
  let place := ofString "argument " ++ py.repr (.string name)
  match properties with
  | .object properties =>
      match properties.lookup name with
      | some schema => checkValue py schema value place
      | none => .ok ()
  | properties => notInProperties py name properties

/-- `_check_arguments`, before the refusal is made an error of the protocol. -/
def checkArguments (py : PyJson F) (schema : Value F) (arguments : Members F) : Checked Unit :=
  match schema with
  | .object keywords =>
      let properties := (getKey keywords "properties").getD (.object [])
      allOf (arguments.map fun (name, value) => checkArgument py properties name value)
  | _ => .error .raised

end Mcp

end Pyronova
