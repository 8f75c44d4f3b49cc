import SmlMcps.Library.Json

/-! JSON-RPC messages, their classification off the wire, and the error type the
whole crate reports with. The text-to-value parser is a parameter: it is the JSON
crate's, and only its result is inspected here. -/
namespace SmlMcps

/-- `null` is only ever written, in answer to input no id could be read from. -/
inductive RequestId where
  | number (value : Int)
  | string (text : String)
  | null
  deriving DecidableEq, Repr

def RequestId.toJson : RequestId → Json
  | .number value => .num (.int value)
  | .string text => .str text
  | .null => .null

/-- Untagged reading: the first variant that fits. -/
def RequestId.read (value : Json) : Except ReadError RequestId :=
  match value.asI64, value with
  | some integer, _ => .ok (.number integer)
  | none, .str text => .ok (.string text)
  | none, .null => .ok .null
  | none, _ => .error (.custom "data did not match any variant of untagged enum RequestId")

structure JsonRpcError where
  code : Int
  message : String
  data : Option Json
  deriving DecidableEq, Repr

namespace JsonRpcError

def new (code : Int) (message : String) : JsonRpcError := ⟨code,message,none⟩

def withData (error : JsonRpcError) (data : Json) : JsonRpcError := { error with data := some data }

def parseError (message : String) : JsonRpcError := new (-32700) message
def invalidRequest (message : String) : JsonRpcError := new (-32600) message
def methodNotFound (message : String) : JsonRpcError := new (-32601) message
def invalidParams (message : String) : JsonRpcError := new (-32602) message
def internalError (message : String) : JsonRpcError := new (-32603) message

def read (value : Json) : Except ReadError JsonRpcError := do
  let members ← Json.members "JsonRpcError" ["code","message","data"] value
  let code ← members.required "code" Json.readI32
  let message ← members.required "message" Json.readString
  let data ← members.optional "data" .ok
  return ⟨code,message,data⟩

end JsonRpcError

structure JsonRpcRequest where
  id : RequestId
  method : String
  params : Option Json
  deriving DecidableEq, Repr

structure JsonRpcNotification where
  method : String
  params : Option Json
  deriving DecidableEq, Repr

structure JsonRpcResponse where
  id : RequestId
  result : Option Json
  error : Option JsonRpcError
  deriving DecidableEq, Repr

/-- The `jsonrpc` field is always `2.0` once a message exists, so it is not carried. -/
inductive JsonRpcMessage where
  | request (request : JsonRpcRequest)
  | notification (notification : JsonRpcNotification)
  | response (response : JsonRpcResponse)
  deriving DecidableEq, Repr

inductive McpError where
  | io (text : String)
  | json (text : String)
  | transportClosed
  | timeout (message : String)
  | invalidMessage (message : String)
  | invalidRequest (id : RequestId) (message : String)
  | methodNotFound (method : String)
  | invalidParams (message : String)
  | internal (message : String)
  | toolError (message : String)
  | resourceNotFound (uri : String)
  | promptNotFound (name : String)
  | passthrough (error : JsonRpcError)
  | auth (message : String)
  deriving DecidableEq, Repr

def resourceNotFoundCode : Int := -32002
def authErrorCode : Int := -32003
def timeoutReason : String := "timeout"
def overloadedReason : String := "overloaded"

def McpError.toJsonrpcError : McpError → JsonRpcError
  | .json text => .parseError text
  | .invalidMessage message => .invalidRequest message
  | .invalidRequest _ message => .invalidRequest message
  | .methodNotFound method => .methodNotFound ("Method not found: " ++ method)
  | .invalidParams message => .invalidParams message
  | .internal message => .internalError message
  | .toolError message => .new (-32000) message
  | .resourceNotFound uri =>
    (JsonRpcError.new resourceNotFoundCode ("Resource not found: " ++ uri)).withData
      (.obj [("uri",.str uri)])
  | .promptNotFound name =>
    (JsonRpcError.invalidParams ("Prompt not found: " ++ name)).withData (.obj [("name",.str name)])
  | .passthrough error => error
  | .io text => .internalError text
  | .transportClosed => .internalError "Transport closed"
  | .timeout message =>
    (JsonRpcError.internalError ("Timed out: " ++ message)).withData
      (.obj [("reason",.str timeoutReason)])
  | .auth message => .new authErrorCode ("Auth error: " ++ message)

namespace JsonRpcMessage

/-- A success response. -/
def answer (id : RequestId) (result : Json) : JsonRpcMessage := .response ⟨id,some result,none⟩

/-- An error response. -/
def error (id : RequestId) (error : JsonRpcError) : JsonRpcMessage :=
  .response ⟨id,none,some error⟩

end JsonRpcMessage

def jsonrpcVersion : String := "2.0"

def readVersion (value : Json) : Except ReadError Unit := do
  let version ← Json.readString value
  if version = jsonrpcVersion then return ()
  else .error (.custom ("unsupported JSON-RPC version `" ++ version ++ "`; MCP requires `" ++
    jsonrpcVersion ++ "`"))

/-- Fields in the order the object's keys are visited, which decides which of two
complaints is reported. -/
def JsonRpcRequest.fromFields (fields : JsonMap) : Except ReadError JsonRpcRequest := do
  let members := Json.Members.named fields
  let id ← members.required "id" RequestId.read
  members.defaulted "jsonrpc" () readVersion
  let method ← members.required "method" Json.readString
  let params ← members.optional "params" .ok
  return ⟨id,method,params⟩

def JsonRpcNotification.fromFields (fields : JsonMap) : Except ReadError JsonRpcNotification := do
  let members := Json.Members.named fields
  members.defaulted "jsonrpc" () readVersion
  let method ← members.required "method" Json.readString
  let params ← members.optional "params" .ok
  return ⟨method,params⟩

def JsonRpcResponse.fromFields (fields : JsonMap) : Except ReadError JsonRpcResponse := do
  let members := Json.Members.named fields
  let error ← members.optional "error" JsonRpcError.read
  let id ← members.required "id" RequestId.read
  members.defaulted "jsonrpc" () readVersion
  let result ← members.optional "result" .ok
  return ⟨id,result,error⟩

def typeNameOf : Json → String
  | .null => "null"
  | .bool _ => "a boolean"
  | .num _ => "a number"
  | .str _ => "a string"
  | .arr _ => "an array"
  | .obj _ => "an object"

namespace JsonRpcMessage

/-- Discrimination by shape: `method` means request or notification, `id` alone
means response. Only a request that fails to read keeps its id. -/
def fromValue (value : Json) : Except McpError JsonRpcMessage :=
  match value.asObject with
  | none => .error (.invalidMessage
      ("a JSON-RPC message must be a JSON object, got " ++ typeNameOf value))
  | some fields =>
    match JsonMap.lookup "method" fields, JsonMap.lookup "id" fields with
    | some _, some .null => .error (.invalidMessage "request id must not be null")
    | some _, some id =>
      match RequestId.read id with
      | .error _ => .error (.invalidMessage "request id must be a string or an integer")
      | .ok id =>
        match JsonRpcRequest.fromFields fields with
        | .ok message => .ok (.request message)
        | .error e => .error (.invalidRequest id ("invalid request: " ++ e.text))
    | some _, none =>
      match JsonRpcNotification.fromFields fields with
      | .ok message => .ok (.notification message)
      | .error e => .error (.invalidMessage ("invalid notification: " ++ e.text))
    | none, some _ =>
      match JsonRpcResponse.fromFields fields with
      | .ok message => .ok (.response message)
      | .error e => .error (.invalidMessage ("invalid response: " ++ e.text))
    | none, none => .error (.invalidMessage
        ("a JSON-RPC message needs either `method` (request/notification) " ++
          "or `id` (response)"))

/-- The Unicode `White_Space` characters. -/
def isWhitespace (c : Char) : Bool :=
  let n := c.toNat
  (9 ≤ n && n ≤ 13) || n == 0x20 || n == 0x85 || n == 0xa0 || n == 0x1680 ||
    (0x2000 ≤ n && n ≤ 0x200a) || n == 0x2028 || n == 0x2029 || n == 0x202f || n == 0x205f ||
    n == 0x3000

/-- A top-level array is a batch, which is refused before the text is parsed. -/
def isBatch (text : String) : Bool :=
  (text.toList.dropWhile isWhitespace).head? == some '['

def parse (fromStr : String → Except String Json) (text : String) :
    Except McpError JsonRpcMessage :=
  if isBatch text then .error (.invalidMessage
    ("JSON-RPC batching is not supported; send a single request, " ++
      "notification, or response per message"))
  else match fromStr text with
    | .error e => .error (.json e)
    | .ok value => fromValue value

end JsonRpcMessage

end SmlMcps
