import SmlMcps.JsonRpc

/-! The protocol types the server reads and writes: log levels, what a client
declares at `initialize`, the parameters of the handled methods, and tool results
with their wire form. -/
namespace SmlMcps

/-- The eight RFC 5424 severities, ascending. -/
inductive LogLevel where
  | debug | info | notice | warning | error | critical | alert | emergency
  deriving DecidableEq, Repr

namespace LogLevel

def asStr : LogLevel → String
  | .debug => "debug"
  | .info => "info"
  | .notice => "notice"
  | .warning => "warning"
  | .error => "error"
  | .critical => "critical"
  | .alert => "alert"
  | .emergency => "emergency"

def all : List LogLevel := [.debug,.info,.notice,.warning,.error,.critical,.alert,.emergency]

def toAsciiLowercase (text : String) : List Char :=
  text.toList.map fun c => if 'A' ≤ c ∧ c ≤ 'Z' then Char.ofNat (c.toNat + 32) else c

/-- Wire names are matched case-insensitively. -/
def fromWire (name : String) : Option LogLevel :=
  all.find? fun level => decide (level.asStr.toList = toAsciiLowercase name)

end LogLevel

structure SamplingCapability where
  tools : Option Json
  context : Option Json
  deriving DecidableEq, Repr

structure ElicitationCapability where
  form : Option Json
  url : Option Json
  deriving DecidableEq, Repr

structure RootCapabilities where
  listChanged : Bool
  deriving DecidableEq, Repr

structure ClientCapabilities where
  experimental : JsonMap
  sampling : Option SamplingCapability
  elicitation : Option ElicitationCapability
  roots : Option RootCapabilities
  deriving DecidableEq, Repr

/-- The derived `Default`: nothing declared. -/
def ClientCapabilities.default : ClientCapabilities := ⟨[],none,none,none⟩

def SamplingCapability.read (value : Json) : Except ReadError SamplingCapability := do
  let members ← Json.members "SamplingCapability" ["tools","context"] value
  let context ← members.defaultedOption "context" .ok
  let tools ← members.defaultedOption "tools" .ok
  return ⟨tools,context⟩

def ElicitationCapability.read (value : Json) : Except ReadError ElicitationCapability := do
  let members ← Json.members "ElicitationCapability" ["form","url"] value
  let form ← members.defaultedOption "form" .ok
  let url ← members.defaultedOption "url" .ok
  return ⟨form,url⟩

def RootCapabilities.read (value : Json) : Except ReadError RootCapabilities := do
  let members ← Json.members "RootCapabilities" ["listChanged"] value
  let listChanged ← members.defaulted "listChanged" false Json.readBool
  return ⟨listChanged⟩

def ClientCapabilities.read (value : Json) : Except ReadError ClientCapabilities := do
  let members ← Json.members "ClientCapabilities"
    ["experimental","sampling","elicitation","roots"] value
  let elicitation ← members.defaultedOption "elicitation" ElicitationCapability.read
  let experimental ← members.defaulted "experimental" [] Json.readMap
  let roots ← members.defaultedOption "roots" RootCapabilities.read
  let sampling ← members.defaultedOption "sampling" SamplingCapability.read
  return ⟨experimental,sampling,elicitation,roots⟩

structure Icon where
  src : String
  mimeType : Option String
  sizes : List String
  theme : Option String
  deriving DecidableEq, Repr

def Icon.read (value : Json) : Except ReadError Icon := do
  let members ← Json.members "Icon" ["src","mimeType","sizes","theme"] value
  let mimeType ← members.optional "mimeType" Json.readString
  let sizes ← members.defaulted "sizes" [] (Json.readList Json.readString)
  let theme ← members.optional "theme" Json.readString
  let src ← members.required "src" Json.readString
  return ⟨src,mimeType,sizes,theme⟩

def Icon.toJson (icon : Icon) : Json :=
  .obj (JsonMap.ofMembers [
    ("src",some (.str icon.src)),
    ("mimeType",icon.mimeType.map .str),
    ("sizes",if icon.sizes.isEmpty then none else some (.arr (icon.sizes.map .str))),
    ("theme",icon.theme.map .str)])

structure Implementation where
  name : String
  version : String
  title : Option String
  description : Option String
  icons : List Icon
  websiteUrl : Option String
  deriving DecidableEq, Repr

def Implementation.default : Implementation := ⟨"","",none,none,[],none⟩

def Implementation.read (value : Json) : Except ReadError Implementation := do
  let members ← Json.members "Implementation"
    ["name","version","title","description","icons","websiteUrl"] value
  let description ← members.optional "description" Json.readString
  let icons ← members.defaulted "icons" [] (Json.readList Icon.read)
  let title ← members.optional "title" Json.readString
  let websiteUrl ← members.optional "websiteUrl" Json.readString
  let name ← members.required "name" Json.readString
  let version ← members.required "version" Json.readString
  return ⟨name,version,title,description,icons,websiteUrl⟩

def Implementation.toJson (info : Implementation) : Json :=
  .obj (JsonMap.ofMembers [
    ("name",some (.str info.name)),
    ("version",some (.str info.version)),
    ("title",info.title.map .str),
    ("description",info.description.map .str),
    ("icons",if info.icons.isEmpty then none else some (.arr (info.icons.map Icon.toJson))),
    ("websiteUrl",info.websiteUrl.map .str)])

structure InitializeParams where
  protocolVersion : String
  capabilities : ClientCapabilities
  clientInfo : Implementation
  deriving DecidableEq, Repr

def InitializeParams.default : InitializeParams := ⟨"",.default,.default⟩

def InitializeParams.read (value : Json) : Except ReadError InitializeParams := do
  let members ← Json.members "InitializeParams"
    ["protocolVersion","capabilities","clientInfo"] value
  let capabilities ← members.defaulted "capabilities" .default ClientCapabilities.read
  let clientInfo ← members.defaulted "clientInfo" .default Implementation.read
  let protocolVersion ← members.defaulted "protocolVersion" "" Json.readString
  return ⟨protocolVersion,capabilities,clientInfo⟩

/-- The parameters of `logging/setLevel`: one required string. -/
def readSetLevelParams (value : Json) : Except ReadError String := do
  let members ← Json.members "SetLevelParams" ["level"] value
  members.required "level" Json.readString

/-- The `task` field of an augmented request: only a requested lifetime. -/
structure TaskParams where
  ttl : Option Nat
  deriving DecidableEq, Repr

def TaskParams.read (value : Json) : Except ReadError TaskParams := do
  let members ← Json.members "TaskParams" ["ttl"] value
  let ttl ← members.optional "ttl" Json.readU64
  return ⟨ttl⟩

structure CallToolParams where
  name : String
  arguments : Option Json
  task : Option TaskParams
  metadata : Option JsonMap
  deriving DecidableEq, Repr

def CallToolParams.read (value : Json) : Except ReadError CallToolParams := do
  let members ← Json.members "CallToolParams" ["name","arguments","task","_meta"] value
  let metadata ← members.defaultedOption "_meta" Json.readMap
  let arguments ← members.defaultedOption "arguments" .ok
  let task ← members.defaultedOption "task" TaskParams.read
  let name ← members.required "name" Json.readString
  return ⟨name,arguments,task,metadata⟩

def CallToolParams.progressToken (params : CallToolParams) : Option RequestId :=
  match params.metadata.bind (JsonMap.lookup "progressToken") with
  | some (.str text) => some (.string text)
  | some token => token.asI64.map .number
  | none => none

inductive Role where
  | user | assistant
  deriving DecidableEq, Repr

def Role.toJson : Role → Json
  | .user => .str "user"
  | .assistant => .str "assistant"

/-- `priority` is a float; one that is not finite is written as `null`. -/
structure Annotations where
  audience : List Role
  priority : Option (Option JsonNumber)
  lastModified : Option String
  deriving DecidableEq, Repr

def Annotations.toJson (annotations : Annotations) : Json :=
  .obj (JsonMap.ofMembers [
    ("audience",if annotations.audience.isEmpty then none
      else some (.arr (annotations.audience.map Role.toJson))),
    ("priority",annotations.priority.map fun priority => (priority.map Json.num).getD .null),
    ("lastModified",annotations.lastModified.map .str)])

inductive ResourceContent where
  | text (uri text : String) (mimeType : Option String)
  | blob (uri blob : String) (mimeType : Option String)
  deriving DecidableEq, Repr

def ResourceContent.toJson : ResourceContent → Json
  | .text uri body mimeType => .obj (JsonMap.ofMembers
      [("uri",some (.str uri)),("text",some (.str body)),("mimeType",mimeType.map .str)])
  | .blob uri body mimeType => .obj (JsonMap.ofMembers
      [("uri",some (.str uri)),("blob",some (.str body)),("mimeType",mimeType.map .str)])

inductive Content where
  | text (text : String) (annotations : Option Annotations)
  | image (data mimeType : String) (annotations : Option Annotations)
  | audio (data mimeType : String) (annotations : Option Annotations)
  | resourceLink (uri name : String) (title description mimeType : Option String)
      (size : Option Nat) (annotations : Option Annotations)
  | resource (resource : ResourceContent) (annotations : Option Annotations)
  deriving DecidableEq, Repr

def Content.asText : Content → Option String
  | .text body _ => some body
  | _ => none

def Content.toJson : Content → Json
  | .text body annotations => .obj (JsonMap.ofMembers
      [("type",some (.str "text")),("text",some (.str body)),
        ("annotations",annotations.map Annotations.toJson)])
  | .image data mimeType annotations => .obj (JsonMap.ofMembers
      [("type",some (.str "image")),("data",some (.str data)),("mimeType",some (.str mimeType)),
        ("annotations",annotations.map Annotations.toJson)])
  | .audio data mimeType annotations => .obj (JsonMap.ofMembers
      [("type",some (.str "audio")),("data",some (.str data)),("mimeType",some (.str mimeType)),
        ("annotations",annotations.map Annotations.toJson)])
  | .resourceLink uri name title description mimeType size annotations =>
    .obj (JsonMap.ofMembers [
      ("type",some (.str "resource_link")),("uri",some (.str uri)),("name",some (.str name)),
      ("title",title.map .str),("description",description.map .str),
      ("mimeType",mimeType.map .str),("size",size.map Json.ofNat),
      ("annotations",annotations.map Annotations.toJson)])
  | .resource embedded annotations => .obj (JsonMap.ofMembers
      [("type",some (.str "resource")),("resource",some embedded.toJson),
        ("annotations",annotations.map Annotations.toJson)])

structure CallToolResult where
  content : List Content
  isError : Bool
  structuredContent : Option Json
  metadata : Option JsonMap
  deriving DecidableEq, Repr

/-- A tool execution error: the call succeeded and the model gets the message. -/
def CallToolResult.error (message : String) : CallToolResult :=
  ⟨[.text message none],true,none,none⟩

def CallToolResult.toFields (result : CallToolResult) : JsonMap :=
  JsonMap.ofMembers [
    ("content",some (.arr (result.content.map Content.toJson))),
    ("isError",if result.isError then some (.bool true) else none),
    ("structuredContent",result.structuredContent),
    ("_meta",result.metadata.map .obj)]

/-- Serialization of a tool result cannot fail: every key is a string. -/
def CallToolResult.toJson (result : CallToolResult) : Json := .obj result.toFields

inductive TaskSupport where
  | forbidden | optional | required
  deriving DecidableEq, Repr

def protocolVersion : String := "2025-11-25"

def supportedProtocolVersions : List String := ["2025-11-25","2025-06-18","2025-03-26"]

end SmlMcps
