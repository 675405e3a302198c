import Mathlib.Tactic
import Pyronova.McpSchema

/-!
# The MCP server

`MCPServer.handle_request` takes one JSON-RPC message and answers it with a reply, or with nothing.
The message is checked step by step, each refusal being a reply of its own; a message without an
`id` is a notification.  A handler returns a value or raises, and what it does is a parameter of the
server, as is what `json.loads` makes of a body.
-/

namespace Pyronova

namespace Mcp

open Json

inductive JsonRpcCode
  | PARSE_ERROR
  | INVALID_REQUEST
  | METHOD_NOT_FOUND
  | INVALID_PARAMS
  | INTERNAL_ERROR
  | RESOURCE_NOT_FOUND
  deriving DecidableEq, Repr

def JsonRpcCode.value : JsonRpcCode → Int
  | .PARSE_ERROR => -32700
  | .INVALID_REQUEST => -32600
  | .METHOD_NOT_FOUND => -32601
  | .INVALID_PARAMS => -32602
  | .INTERNAL_ERROR => -32603
  | .RESOURCE_NOT_FOUND => -32002

structure JsonRpcError where
  code : JsonRpcCode
  message : Text
  deriving DecidableEq, Repr

/-- What is raised: a `JsonRpcError`, another `Exception`, or a `BaseException` that is none, such
as `SystemExit`. -/
inductive Raised
  | jsonRpc (error : JsonRpcError)
  | exception
  | base
  deriving DecidableEq, Repr

variable {F : Type}

/-- What a handler returned: a value with a JSON form, or one that `json.dumps` raises on. -/
inductive Returned (F : Type)
  | json (value : Value F)
  | other

/-- A handler called with its arguments by name; past the timeout it has raised. -/
abbrev Handler (F : Type) := Members F → Except Raised (Returned F)

/-- `_Params`. -/
structure Params where
  names : List Text
  required : List Text
  acceptsAny : Bool
  deriving DecidableEq, Repr

structure Tool (F : Type) where
  description : Text
  inputSchema : Value F
  params : Params
  handler : Handler F

structure Resource (F : Type) where
  name : Text
  description : Text
  mimeType : Text
  handler : Handler F

structure Prompt (F : Type) where
  description : Text
  arguments : List (Value F)
  params : Params
  handler : Handler F

/-- The registrations, each `dict` by its keys: the name of a tool or a prompt, the URI of a
resource. -/
structure MCPServer (F : Type) where
  version : Text
  tools : List (Text × Tool F)
  resources : List (Text × Resource F)
  prompts : List (Text × Prompt F)

/-! ## Arguments -/

def strings (texts : List Text) : Value F := .array (texts.map .string)

def stringMember (name : String) (text : Text) : Text × Value F := (ofString name, .string text)

/-- A `JsonRpcError` of code `INVALID_PARAMS`. -/
def invalidParams (message : Text) : Raised := .jsonRpc ⟨.INVALID_PARAMS, message⟩

/-- `sorted`, by code points. -/
def sortedTexts (texts : List Text) : List Text := texts.mergeSort fun left right => left ≤ right

namespace Params

/-- The arguments that are no parameter, sorted. -/
def unexpected (params : Params) (arguments : Members F) : List Text :=
  if params.acceptsAny then []
  else sortedTexts ((arguments.map Prod.fst).filter fun name => name ∉ params.names)

def missing (params : Params) (arguments : Members F) : List Text :=
  params.required.filter fun name => (arguments.lookup name).isNone

/-- `_Params.check`. -/
def check (py : PyJson F) (params : Params) (arguments : Members F) : Except Raised Unit :=
  match params.unexpected arguments, params.missing arguments with
  | [], [] => .ok ()
  | [], missing =>
      .error (invalidParams
        (ofString "missing required argument(s): " ++ py.repr (strings missing)))
  | unexpected, _ =>
      .error (invalidParams
        (ofString "unexpected argument(s): " ++ py.repr (strings unexpected)))

end Params

/-- `_str_param`. -/
def strParam (py : PyJson F) (params : Members F) (key : String) : Except Raised Text :=
  match getKey params key with
  | some (.string text) => .ok text
  | other =>
      let got := match other with
        | none => ofString "nothing"
        | some value => jsonTypeName value
      .error (invalidParams (ofString "Invalid params: " ++ py.repr (.string (ofString key)) ++
        ofString " must be a string, got " ++ got))

/-- `type(value).__name__`. -/
def pyTypeName : Value F → String
  | .null => "NoneType"
  | .bool _ => "bool"
  | .int _ => "int"
  | .float _ => "float"
  | .string _ => "str"
  | .array _ => "list"
  | .object _ => "dict"

/-- `_arguments_object`. -/
def argumentsObject (params : Members F) : Except Raised (Members F) :=
  match getKey params "arguments" with
  | none => .ok []
  | some (.object arguments) => .ok arguments
  | some other =>
      .error (invalidParams (ofString ("arguments must be an object, got " ++ pyTypeName other)))

/-- What a check that failed raises in a method handler. -/
def raisedOf (message : Text → Text) : CheckFailure → Raised
  | .invalid reason => invalidParams (message reason)
  | .raised => .exception

/-- The refusal of keys that are required and absent. -/
def requireNone (py : PyJson F) : Checked (List (Value F)) → Except Raised Unit
  | .error failure => .error (raisedOf id failure)
  | .ok [] => .ok ()
  | .ok missing =>
      .error (invalidParams (ofString "missing required argument(s): " ++ py.repr (.array missing)))

/-- The keys in `input_schema["required"]` that are no arguments. -/
def missingRequired (schema : Value F) (arguments : Members F) : Checked (List (Value F)) :=
  match schema with
  | .object keywords => do
      let required ← iterate ((getKey keywords "required").getD (.array []))
      absentKeys arguments required
  | _ => .error .raised

/-- `bool(value)`. -/
def isTruthy (py : PyJson F) : Value F → Bool
  | .null => false
  | .bool value => value
  | .int number => number ≠ 0
  | .float (.finite number) => !py.equalsInt number 0
  | .float _ => true
  | .string text => text ≠ []
  | .array items => !items.isEmpty
  | .object members => !members.isEmpty

/-- The required arguments of a prompt that are not given. -/
def missingPromptArguments (py : PyJson F) (arguments : Members F) :
    List (Value F) → Checked (List (Value F))
  | [] => .ok []
  | .object argument :: rest =>
      if ((getKey argument "required").map (isTruthy py)).getD false then
        match getKey argument "name" with
        | none => .error .raised
        | some name => do
            let present ← keyIn name arguments
            let missing ← missingPromptArguments py arguments rest
            .ok (if present then missing else name :: missing)
      else missingPromptArguments py arguments rest
  | _ :: _ => .error .raised

/-! ## Method handlers -/

/-- `json.dumps`, as a text. -/
def dumps (py : PyJson F) (value : Value F) : Text := (write py.toFloatFormat value).map codePoint

/-- `_as_text`. -/
def asText (py : PyJson F) : Returned F → Except Raised Text
  | .json (.string text) => .ok text
  | .json value => .ok (dumps py value)
  | .other => .error .exception

/-- What a handler returned, as text. -/
def callText (py : PyJson F) (handler : Handler F) (arguments : Members F) : Except Raised Text :=
  handler arguments >>= asText py

def textContent (text : Text) : Value F :=
  .object [stringMember "type" (ofString "text"), stringMember "text" text]

namespace MCPServer

variable (py : PyJson F) (server : MCPServer F)

def handleInitialize : Value F :=
  .object [stringMember "protocolVersion" (ofString "2024-11-05"),
    (ofString "capabilities", .object
      [(ofString "tools", .object [(ofString "listChanged", .bool false)]),
        (ofString "resources", .object
          [(ofString "subscribe", .bool false), (ofString "listChanged", .bool false)]),
        (ofString "prompts", .object [(ofString "listChanged", .bool false)])]),
    (ofString "serverInfo", .object
      [stringMember "name" (ofString "pyronova-mcp"), stringMember "version" server.version])]

def handleToolsList : Value F :=
  .object [(ofString "tools", .array (server.tools.map fun (name, tool) =>
    .object [stringMember "name" name, stringMember "description" tool.description,
      (ofString "inputSchema", tool.inputSchema)]))]

def handleToolsCall (params : Members F) : Except Raised (Value F) := do
  let name ← strParam py params "name"
  match server.tools.lookup name with
  | none => .error (invalidParams (ofString "Unknown tool: " ++ name))
  | some tool => do
      let arguments ← argumentsObject params
      requireNone py (missingRequired tool.inputSchema arguments)
      tool.params.check py arguments
      (checkArguments py tool.inputSchema arguments).mapError
        (raisedOf fun reason => ofString "invalid params: " ++ reason)
      let text ← callText py tool.handler arguments
      .ok (.object [(ofString "content", .array [textContent text]),
        (ofString "isError", .bool false)])

def handleResourcesList : Value F :=
  .object [(ofString "resources", .array (server.resources.map fun (uri, resource) =>
    .object [stringMember "uri" uri, stringMember "name" resource.name,
      stringMember "description" resource.description, stringMember "mimeType" resource.mimeType]))]

def handleResourcesRead (params : Members F) : Except Raised (Value F) := do
  let uri ← strParam py params "uri"
  match server.resources.lookup uri with
  | none => .error (.jsonRpc ⟨.RESOURCE_NOT_FOUND, ofString "Resource not found: " ++ uri⟩)
  | some resource => do
      let text ← callText py resource.handler []
      .ok (.object [(ofString "contents", .array
        [.object [stringMember "uri" uri, stringMember "mimeType" resource.mimeType,
          stringMember "text" text]])])

def handlePromptsList : Value F :=
  .object [(ofString "prompts", .array (server.prompts.map fun (name, prompt) =>
    .object [stringMember "name" name, stringMember "description" prompt.description,
      (ofString "arguments", .array prompt.arguments)]))]

def handlePromptsGet (params : Members F) : Except Raised (Value F) := do
  let name ← strParam py params "name"
  match server.prompts.lookup name with
  | none => .error (invalidParams (ofString "Unknown prompt: " ++ name))
  | some prompt => do
      let arguments ← argumentsObject params
      requireNone py (missingPromptArguments py arguments prompt.arguments)
      prompt.params.check py arguments
      let text ← callText py prompt.handler arguments
      .ok (.object [stringMember "description" prompt.description,
        (ofString "messages", .array
          [.object [stringMember "role" (ofString "user"),
            (ofString "content", textContent text)]])])

/-- `handler_map`. -/
def handlerMap : List (String × (Members F → Except Raised (Value F))) :=
  [("initialize", fun _ => .ok server.handleInitialize),
    ("tools/list", fun _ => .ok server.handleToolsList),
    ("tools/call", server.handleToolsCall py),
    ("resources/list", fun _ => .ok server.handleResourcesList),
    ("resources/read", server.handleResourcesRead py),
    ("prompts/list", fun _ => .ok server.handlePromptsList),
    ("prompts/get", server.handlePromptsGet py)]

/-- `handler_map.get(method)`. -/
def handlerFor (method : Text) : Option (Members F → Except Raised (Value F)) :=
  ((server.handlerMap py).find? fun entry => ofString entry.1 = method).map Prod.snd

/-! ## A message -/

/-- What `json.loads` does with a body: it returns a value, raises `JSONDecodeError` or
`UnicodeDecodeError`, or raises something else, at a limit of the interpreter. -/
inductive Loads (F : Type)
  | value (value : Value F)
  | malformed (problem : Text)
  | raised

/-- The `error` of `_error_response`. -/
def errorObject (code : JsonRpcCode) (message : Text) (data : Option (Value F)) : Value F :=
  .object ([(ofString "code", .int code.value), stringMember "message" message] ++
    (data.map fun data => (ofString "data", data)).toList)

/-- `_error_response`. -/
def errorResponse (id : Value F) (code : JsonRpcCode) (message : Text) (data : Option (Value F)) :
    Value F :=
  .object [stringMember "jsonrpc" (ofString "2.0"), (ofString "id", id),
    (ofString "error", errorObject code message data)]

/-- The `data` of an internal error. -/
def requestData (requestId : Option Text) : Option (Value F) :=
  requestId.map fun requestId => .object [stringMember "request_id" requestId]

/-- The reply with a result. -/
def resultResponse (id result : Value F) : Value F :=
  .object [stringMember "jsonrpc" (ofString "2.0"), (ofString "id", id),
    (ofString "result", result)]

/-- `_is_json_rpc_id`. -/
def isJsonRpcId : Value F → Bool
  | .null | .string _ | .int _ | .float _ => true
  | _ => false

/-- The member is the text. -/
def isText (text : String) : Option (Value F) → Bool
  | some (.string given) => given = ofString text
  | _ => false

/-- The call of a method's handler, and the reply to what it did; `none` is the empty string. -/
def dispatch (id : Option (Value F)) (method : Text) (params : Members F)
    (requestId : Option Text) : Except Raised (Option (Value F)) :=
  let reply (answer : Value F → Value F) : Except Raised (Option (Value F)) :=
    .ok (id.map answer)
  match server.handlerFor py method with
  | none =>
      reply fun id =>
        errorResponse id .METHOD_NOT_FOUND (ofString "Method not found: " ++ method) none
  | some handler =>
      match handler params with
      | .error (.jsonRpc error) => reply fun id => errorResponse id error.code error.message none
      | .error .exception =>
          reply fun id => errorResponse id .INTERNAL_ERROR (ofString "Internal error")
            (requestData requestId)
      | .error .base => .error .base
      | .ok result => reply fun id => resultResponse id result

/-- The steps of `handle_request` for an object. -/
def handleObject (req : Members F) (requestId : Option Text) :
    Except Raised (Option (Value F)) :=
  let id := (getKey req "id").getD .null
  let refuse (id : Value F) (code : JsonRpcCode) (message : Text) :
      Except Raised (Option (Value F)) := .ok (some (errorResponse id code message none))
  if ¬ isText "2.0" (getKey req "jsonrpc") then
    refuse id .INVALID_REQUEST (ofString "Invalid Request: jsonrpc must be '2.0'")
  else if ¬ isJsonRpcId id then
    refuse .null .INVALID_REQUEST
      (ofString "Invalid Request: id must be a string, number or null, got " ++ jsonTypeName id)
  else
    match getKey req "method" with
    | some (.string method) =>
        match (getKey req "params").getD (.object []) with
        | .object params => server.dispatch py (getKey req "id") method params requestId
        | .array _ =>
            refuse id .INVALID_PARAMS (ofString ("Invalid params: this server requires named " ++
              "parameters (Object), positional Array params are not supported"))
        | _ => refuse id .INVALID_REQUEST
            (ofString "Invalid Request: params must be Object or Array")
    | other =>
        let got := match other with
          | none => ofString "nothing"
          | some value => jsonTypeName value
        refuse id .INVALID_REQUEST
          (ofString "Invalid Request: method must be a string, got " ++ got)

/-- The value that `handle_request` gives to `json.dumps`, if any. -/
def replyTo (loaded : Loads F) (requestId : Option Text) : Except Raised (Option (Value F)) :=
  match loaded with
  | .raised => .error .exception
  | .malformed problem =>
      .ok (some (errorResponse .null .PARSE_ERROR (ofString "Parse error: " ++ problem) none))
  | .value (.object req) => server.handleObject py req requestId
  | .value _ => .ok (some (errorResponse .null .INVALID_REQUEST (ofString "Invalid Request") none))

/-- `handle_request`. -/
def handleRequest {Body : Type*} (loads : Body → Loads F) (body : Body) (requestId : Option Text) :
    Except Raised (List Char) :=
  (server.replyTo py (loads body) requestId).map fun reply =>
    (reply.map (write py.toFloatFormat)).getD []

end MCPServer

end Mcp

end Pyronova
