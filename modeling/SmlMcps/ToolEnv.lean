import Mathlib.Data.List.Infix
import SmlMcps.ElicitSchema
import SmlMcps.Sampling
import SmlMcps.TaskWorker

/-! The methods a tool's environment offers for talking to the client: elicitation, roots,
sampling, log records and progress. Each looks at what the client declared, or at what it
asked for, before anything is sent. A tool written with them is a program of its own,
compiled to the bare calls they make. -/
namespace SmlMcps

variable {C : Type}

/-! ## What the client declared -/

/-- Which kind of elicitation this is. -/
inductive ElicitationMode where
  | form | url
  deriving DecidableEq, Repr

namespace ElicitationMode

def asStr : ElicitationMode → String
  | .form => "form"
  | .url => "url"

/-- The `Debug` form. -/
def debug : ElicitationMode → String
  | .form => "Form"
  | .url => "Url"

end ElicitationMode

/-- `{}` means form mode only. -/
def ElicitationCapability.supports (capability : ElicitationCapability) : ElicitationMode → Bool
  | .form => capability.form.isSome || capability.url.isNone
  | .url => capability.url.isSome

def SamplingCapability.supportsTools (capability : SamplingCapability) : Bool :=
  capability.tools.isSome

def SamplingCapability.supportsContext (capability : SamplingCapability) : Bool :=
  capability.context.isSome

namespace ClientCapabilities

def supportsElicitation (capabilities : ClientCapabilities) (mode : ElicitationMode) : Bool :=
  capabilities.elicitation.any fun capability => capability.supports mode

def supportsSampling (capabilities : ClientCapabilities) : Bool := capabilities.sampling.isSome

def supportsSamplingTools (capabilities : ClientCapabilities) : Bool :=
  capabilities.sampling.any SamplingCapability.supportsTools

def supportsRoots (capabilities : ClientCapabilities) : Bool := capabilities.roots.isSome

end ClientCapabilities

/-! ## Elicitation -/

structure ElicitParams where
  mode : Option ElicitationMode := none
  message : String
  requestedSchema : Option Json := none
  url : Option String := none
  elicitationId : Option String := none
  metadata : Option JsonMap := none

namespace ElicitParams

/-- A form-mode request for data matching `schema`. -/
def form (message : String) (schema : Json) : ElicitParams :=
  { mode := some .form,message,requestedSchema := some schema }

/-- A URL-mode request sending the user to `url`. -/
def atUrl (message url elicitationId : String) : ElicitParams :=
  { mode := some .url,message,url := some url,elicitationId := some elicitationId }

/-- An absent mode is `form`. -/
def resolvedMode (params : ElicitParams) : ElicitationMode := params.mode.getD .form

def validate (params : ElicitParams) : Except String Unit := do
  Checks.refuse (params.message.toList.all JsonRpcMessage.isWhitespace = true)
    "elicitation `message` must not be empty"
  match params.resolvedMode with
  | .form =>
    Checks.refuse (params.requestedSchema = none) "form mode elicitation requires `requestedSchema`"
    Checks.refuse (params.url ≠ none) "form mode elicitation must not carry a `url`"
  | .url =>
    match params.url with
    | none => .error "url mode elicitation requires `url`"
    | some url =>
      Checks.refuse (¬ "://".toList <:+: url.toList ∨ "://".toList <+: url.toList)
        ("url mode elicitation has an invalid `url`: " ++ url)
      Checks.refuse (params.elicitationId = none) "url mode elicitation requires `elicitationId`"
      Checks.refuse (params.requestedSchema ≠ none)
        "url mode elicitation must not carry a `requestedSchema`"

def toJson (params : ElicitParams) : Json := .obj (JsonMap.ofMembers [
  ("mode",params.mode.map fun mode => .str mode.asStr),
  ("message",some (.str params.message)),
  ("requestedSchema",params.requestedSchema),
  ("url",params.url.map .str),
  ("elicitationId",params.elicitationId.map .str),
  ("_meta",params.metadata.map .obj)])

end ElicitParams

/-- What the user did. -/
inductive ElicitAction where
  | accept | decline | cancel
  deriving DecidableEq, Repr

def ElicitAction.named : String → Except ReadError ElicitAction
  | "accept" => .ok .accept
  | "decline" => .ok .decline
  | "cancel" => .ok .cancel
  | other => .error (.custom ("unknown variant `" ++ other ++
      "`, expected one of `accept`, `decline`, `cancel`"))

/-- A unit variant is a string, or an object holding `null` under its name. -/
def ElicitAction.read : Json → Except ReadError ElicitAction
  | .str name => named name
  | .obj [(name,.null)] => named name
  | .obj [(name,other)] => named name >>= fun _ => .error (.invalidType (Json.unexpected other) "unit")
  | .obj _ => .error (.custom "invalid value: map, expected map with a single key")
  | other => .error (.invalidType (Json.unexpected other) "string or map")

structure ElicitResult where
  action : ElicitAction
  content : Option JsonMap
  metadata : Option JsonMap

def ElicitResult.read (value : Json) : Except ReadError ElicitResult := do
  let members ← Json.members "ElicitResult" ["action","content","_meta"] value
  let metadata ← members.optional "_meta" Json.readMap
  let action ← members.required "action" ElicitAction.read
  let content ← members.defaultedOption "content" Json.readMap
  return ⟨action,content,metadata⟩

/-! ## Roots -/

structure Root where
  uri : String
  name : Option String
  metadata : Option JsonMap

def Root.read (value : Json) : Except ReadError Root := do
  let members ← Json.members "Root" ["uri","name","_meta"] value
  let metadata ← members.optional "_meta" Json.readMap
  let name ← members.optional "name" Json.readString
  let uri ← members.required "uri" Json.readString
  return ⟨uri,name,metadata⟩

/-- The roots of a `ListRootsResult`. -/
def readRoots (value : Json) : Except ReadError (List Root) := do
  let members ← Json.members "ListRootsResult" ["roots"] value
  members.required "roots" (Json.readList Root.read)

/-! ## Sampling -/

/-- What is not finite is written as `null`. -/
def Float64.toJson (value : Float64) : Json := value.number.getD .null

mutual

def SamplingContent.toJson : SamplingContent → Json
  | .text body annotations => .obj (JsonMap.ofMembers
      [("type",some (.str "text")),("text",some (.str body)),
        ("annotations",annotations.map Annotations.toJson)])
  | .image data mimeType annotations => .obj (JsonMap.ofMembers
      [("type",some (.str "image")),("data",some (.str data)),("mimeType",some (.str mimeType)),
        ("annotations",annotations.map Annotations.toJson)])
  | .audio data mimeType annotations => .obj (JsonMap.ofMembers
      [("type",some (.str "audio")),("data",some (.str data)),("mimeType",some (.str mimeType)),
        ("annotations",annotations.map Annotations.toJson)])
  | .toolUse id name input => .obj (JsonMap.ofMembers
      [("type",some (.str "tool_use")),("id",some (.str id)),("name",some (.str name)),
        ("input",some input)])
  | .toolResult toolUseId content isError => .obj (JsonMap.ofMembers
      [("type",some (.str "tool_result")),("toolUseId",some (.str toolUseId)),
        ("content",some (.arr (SamplingContent.toItems content))),
        ("isError",if isError then some (.bool true) else none)])

def SamplingContent.toItems : List SamplingContent → List Json
  | [] => []
  | content :: rest => content.toJson :: SamplingContent.toItems rest

end

def SamplingBody.toJson : SamplingBody → Json
  | .one content => content.toJson
  | .many contents => .arr (SamplingContent.toItems contents)

def SamplingMessage.toJson (message : SamplingMessage) : Json := .obj (JsonMap.ofMembers
  [("role",some message.role.toJson),("content",some message.content.toJson)])

/-- A tool offered to the model during sampling. -/
structure SamplingTool where
  name : String
  description : Option String
  inputSchema : Json

def SamplingTool.toJson (tool : SamplingTool) : Json := .obj (JsonMap.ofMembers
  [("name",some (.str tool.name)),("description",tool.description.map .str),
    ("inputSchema",some tool.inputSchema)])

inductive ToolChoiceMode where
  | auto | required | none

def ToolChoiceMode.toJson : ToolChoiceMode → Json
  | .auto => .str "auto"
  | .required => .str "required"
  | .none => .str "none"

structure ModelPreferences where
  hints : List String
  costPriority : Option Float64
  speedPriority : Option Float64
  intelligencePriority : Option Float64

def ModelPreferences.toJson (preferences : ModelPreferences) : Json := .obj (JsonMap.ofMembers [
  ("hints",if preferences.hints.isEmpty then none
    else some (.arr (preferences.hints.map fun name => .obj [("name",.str name)]))),
  ("costPriority",preferences.costPriority.map Float64.toJson),
  ("speedPriority",preferences.speedPriority.map Float64.toJson),
  ("intelligencePriority",preferences.intelligencePriority.map Float64.toJson)])

/-- All of a sampling request: the messages that are checked, and what goes with them. -/
structure SamplingRequest extends CreateMessageParams where
  maxTokens : Nat
  systemPrompt : Option String := none
  modelPreferences : Option ModelPreferences := none
  temperature : Option Float64 := none
  stopSequences : List String := []
  metadata : Option Json := none
  includeContext : Option String := none
  tools : List SamplingTool := []
  toolChoice : Option ToolChoiceMode := none
  requestMeta : Option JsonMap := none

def SamplingRequest.toJson (params : SamplingRequest) : Json := .obj (JsonMap.ofMembers [
  ("messages",some (.arr (params.messages.map SamplingMessage.toJson))),
  ("maxTokens",some (.ofNat params.maxTokens)),
  ("systemPrompt",params.systemPrompt.map .str),
  ("modelPreferences",params.modelPreferences.map ModelPreferences.toJson),
  ("temperature",params.temperature.map Float64.toJson),
  ("stopSequences",if params.stopSequences.isEmpty then none
    else some (.arr (params.stopSequences.map .str))),
  ("metadata",params.metadata),
  ("includeContext",params.includeContext.map .str),
  ("tools",if params.tools.isEmpty then none
    else some (.arr (params.tools.map SamplingTool.toJson))),
  ("toolChoice",params.toolChoice.map fun choice => .obj [("mode",choice.toJson)]),
  ("_meta",params.requestMeta.map .obj)])

/-! ## The methods -/

/-- The level's place in the derived order. -/
def LogLevel.severity : LogLevel → Nat
  | .debug => 0
  | .info => 1
  | .notice => 2
  | .warning => 3
  | .error => 4
  | .critical => 5
  | .alert => 6
  | .emergency => 7

namespace EnvView

variable (view : EnvView)

/-- Would a record at `level` be delivered to the client? -/
def logEnabled (level : LogLevel) : Bool := decide (view.logLevel.severity ≤ level.severity)

/-- Within the deadline every request of the environment has. -/
def sendRequest (method : String) (params : Json)
    (next : Except McpError Json → ToolProg C) : ToolProg C :=
  .request method params view.requestTimeout next

/-- An answer of the wrong shape is a JSON error. -/
def reading {α : Type} (read : Json → Except ReadError α) (answer : Except McpError Json) :
    Except McpError α :=
  answer.bind fun value => (read value).mapError fun e => .json e.text

def elicit (params : ElicitParams) (next : Except McpError ElicitResult → ToolProg C) :
    ToolProg C :=
  let mode := params.resolvedMode
  if !view.clientCapabilities.supportsElicitation mode then
    next (.error (.internal
      ("client did not declare support for " ++ mode.debug ++ " mode elicitation")))
  else match params.validate with
    | .error problem => next (.error (.invalidParams problem))
    | .ok () => view.sendRequest "elicitation/create" params.toJson fun answer =>
        next (reading ElicitResult.read answer)

def listRoots (next : Except McpError (List Root) → ToolProg C) : ToolProg C :=
  if !view.clientCapabilities.supportsRoots then
    next (.error (.internal "client did not declare support for roots"))
  else view.sendRequest "roots/list" (.obj []) fun answer => next (reading readRoots answer)

/-- The result holds floats and is handed on as it came. -/
def createMessage (params : SamplingRequest) (next : Except McpError Json → ToolProg C) :
    ToolProg C :=
  if !view.clientCapabilities.supportsSampling then
    next (.error (.internal "client did not declare support for sampling"))
  else if !params.tools.isEmpty && !view.clientCapabilities.supportsSamplingTools then
    next (.error (.internal ("client did not declare `sampling.tools`, so tool-enabled sampling " ++
      "requests must not be sent to it")))
  else if params.includeContext.any (fun context => context != "none") &&
      !view.clientCapabilities.sampling.any SamplingCapability.supportsContext then
    next (.error (.internal ("client did not declare `sampling.context`, so `includeContext` must " ++
      "be omitted or \"none\"")))
  else match params.validate with
    | .error problem => next (.error (.invalidParams problem))
    | .ok () => view.sendRequest "sampling/createMessage" params.toJson next

/-- The parameters of a log record. -/
def logRecord (level : LogLevel) (logger : String) (data : Json) : Json :=
  .obj (JsonMap.ofMembers
    [("level",some (.str level.asStr)),("logger",some (.str logger)),("data",some data)])

/-- A record the client will not see goes to stderr, and a failed write is swallowed. -/
def logData (level : LogLevel) (logger : String) (data : Json) (next : ToolProg C) : ToolProg C :=
  if view.logEnabled level then
    .notify "notifications/message" (some (logRecord level logger data)) fun _ => next
  else next

/-- The parameters of a progress notification. -/
def progressParams (token : RequestId) (progress : Float64) (total : Option Float64) : Json :=
  .obj (JsonMap.ofMembers [("progressToken",some token.toJson),
    ("progress",some progress.toJson),("total",total.map Float64.toJson)])

/-- A no-op when the client did not ask for progress. -/
def reportProgress (progress : Float64) (total : Option Float64)
    (next : Except McpError Unit → ToolProg C) : ToolProg C :=
  match view.progressToken with
  | some token => .notify "notifications/progress" (some (progressParams token progress total)) next
  | none => next (.ok ())

/-- Tell the client an out-of-band elicitation finished. -/
def notifyElicitationComplete (elicitationId : String)
    (next : Except McpError Unit → ToolProg C) : ToolProg C :=
  .notify "notifications/elicitation/complete"
    (some (.obj [("elicitationId",.str elicitationId)])) next

end EnvView

/-! ## Tools written with the methods -/

/-- A tool that talks to the client through these methods only. -/
inductive EnvProg (C : Type) where
  | returned (context : C) (result : Except McpError CallToolResult)
  | panicked (context : C) (message : String)
  | elicit (params : ElicitParams) (next : Except McpError ElicitResult → EnvProg C)
  | listRoots (next : Except McpError (List Root) → EnvProg C)
  | createMessage (params : SamplingRequest) (next : Except McpError Json → EnvProg C)
  | logData (level : LogLevel) (logger : String) (data : Json) (next : EnvProg C)
  | reportProgress (progress : Float64) (total : Option Float64)
      (next : Except McpError Unit → EnvProg C)
  | notifyElicitationComplete (elicitationId : String) (next : Except McpError Unit → EnvProg C)
  | isCancelled (next : Bool → EnvProg C)
  | observe (next : Json → EnvProg C)

/-- The bare calls such a tool makes in an environment. -/
def EnvProg.compile (view : EnvView) : EnvProg C → ToolProg C
  | .returned context result => .returned context result
  | .panicked context message => .panicked context message
  | .elicit params next => view.elicit params fun answer => (next answer).compile view
  | .listRoots next => view.listRoots fun answer => (next answer).compile view
  | .createMessage params next => view.createMessage params fun answer => (next answer).compile view
  | .logData level logger data next => view.logData level logger data (next.compile view)
  | .reportProgress progress total next =>
    view.reportProgress progress total fun sent => (next sent).compile view
  | .notifyElicitationComplete elicitationId next =>
    EnvView.notifyElicitationComplete elicitationId fun sent => (next sent).compile view
  | .isCancelled next => .checkCancelled fun cancelled => (next cancelled).compile view
  | .observe next => .observe fun value => (next value).compile view

/-! ## What is asked and told -/

/-- A request that is well formed and that a client of these capabilities takes. -/
inductive AskedOf (capabilities : ClientCapabilities) : String → Json → Prop
  | elicitation (params : ElicitParams)
      (declared : capabilities.supportsElicitation params.resolvedMode = true)
      (valid : params.validate = .ok ()) :
      AskedOf capabilities "elicitation/create" params.toJson
  | roots (declared : capabilities.supportsRoots = true) :
      AskedOf capabilities "roots/list" (.obj [])
  | sampling (params : SamplingRequest) (declared : capabilities.supportsSampling = true)
      (tools : params.tools ≠ [] → capabilities.supportsSamplingTools = true)
      (context : ∀ wanted, params.includeContext = some wanted → wanted ≠ "none" →
        capabilities.sampling.any SamplingCapability.supportsContext = true)
      (valid : params.validate = .ok ()) :
      AskedOf capabilities "sampling/createMessage" params.toJson

/-- A notification of a tool called at this log level and with this progress token. -/
inductive Told (logLevel : LogLevel) (progressToken : Option RequestId) :
    String → Option Json → Prop
  | record (level : LogLevel) (logger : String) (data : Json)
      (enabled : logLevel.severity ≤ level.severity) :
      Told logLevel progressToken "notifications/message"
        (some (EnvView.logRecord level logger data))
  | progress (token : RequestId) (progress : Float64) (total : Option Float64)
      (wanted : progressToken = some token) :
      Told logLevel progressToken "notifications/progress"
        (some (EnvView.progressParams token progress total))
  | elicitationComplete (elicitationId : String) :
      Told logLevel progressToken "notifications/elicitation/complete"
        (some (.obj [("elicitationId",.str elicitationId)]))

/-- Nothing may be asked of a client that declared nothing. -/
theorem AskedOf.default_elim {method : String} {params : Json}
    (asked : AskedOf .default method params) : False := by
  cases asked with
  | elicitation _ declared => cases declared
  | roots declared => cases declared
  | sampling _ declared => cases declared

/-- Whatever it is answered, the program makes no other calls than these. -/
inductive ToolProg.Within (asks : String → Json → Prop) (tells : String → Option Json → Prop) :
    ToolProg C → Prop
  | returned (context : C) (result : Except McpError CallToolResult) :
      Within asks tells (.returned context result)
  | panicked (context : C) (message : String) : Within asks tells (.panicked context message)
  | notify {method : String} {params : Option Json} {next : Except McpError Unit → ToolProg C}
      (told : tells method params) (onward : ∀ sent, Within asks tells (next sent)) :
      Within asks tells (.notify method params next)
  | request {method : String} {params : Json} {timeout : Option Nat}
      {next : Except McpError Json → ToolProg C} (asked : asks method params)
      (onward : ∀ answer, Within asks tells (next answer)) :
      Within asks tells (.request method params timeout next)
  | checkCancelled {next : Bool → ToolProg C} (onward : ∀ flag, Within asks tells (next flag)) :
      Within asks tells (.checkCancelled next)
  | observe {next : Json → ToolProg C} (onward : ∀ value, Within asks tells (next value)) :
      Within asks tells (.observe next)

theorem ToolProg.Within.mono {asks asks' : String → Json → Prop}
    {tells tells' : String → Option Json → Prop}
    (more : ∀ method params, asks method params → asks' method params)
    (further : ∀ method params, tells method params → tells' method params) {prog : ToolProg C}
    (within : prog.Within asks tells) : prog.Within asks' tells' := by
  induction within with
  | returned context result => exact .returned context result
  | panicked context message => exact .panicked context message
  | notify told _ ih => exact .notify (further _ _ told) ih
  | request asked _ ih => exact .request (more _ _ asked) ih
  | checkCancelled _ ih => exact .checkCancelled ih
  | observe _ ih => exact .observe ih

namespace EnvView

variable {view : EnvView} {tells : String → Option Json → Prop} {asks : String → Json → Prop}

theorem elicit_within {params : ElicitParams} {next : Except McpError ElicitResult → ToolProg C}
    (onward : ∀ answer, (next answer).Within (AskedOf view.clientCapabilities) tells) :
    (view.elicit params next).Within (AskedOf view.clientCapabilities) tells := by
  simp only [elicit]
  split
  · exact onward _
  · rename_i declared
    split
    · exact onward _
    · rename_i valid
      exact .request (.elicitation params (by simpa using declared) valid) fun answer => onward _

theorem listRoots_within {next : Except McpError (List Root) → ToolProg C}
    (onward : ∀ answer, (next answer).Within (AskedOf view.clientCapabilities) tells) :
    (view.listRoots next).Within (AskedOf view.clientCapabilities) tells := by
  unfold listRoots
  split
  · exact onward _
  · rename_i declared
    exact .request (.roots (by simpa using declared)) fun answer => onward _

theorem createMessage_within {params : SamplingRequest}
    {next : Except McpError Json → ToolProg C}
    (onward : ∀ answer, (next answer).Within (AskedOf view.clientCapabilities) tells) :
    (view.createMessage params next).Within (AskedOf view.clientCapabilities) tells := by
  unfold createMessage
  split
  · exact onward _
  · rename_i declared
    split
    · exact onward _
    · rename_i tools
      split
      · exact onward _
      · rename_i context
        split
        · exact onward _
        · rename_i valid
          refine .request (.sampling params (by simpa using declared) ?_ ?_ valid) onward
          · intro offered
            simpa [offered] using tools
          · intro wanted given other
            simpa [given,other] using context

theorem logData_within {level : LogLevel} {logger : String} {data : Json} {next : ToolProg C}
    (onward : next.Within asks (Told view.logLevel view.progressToken)) :
    (view.logData level logger data next).Within asks
      (Told view.logLevel view.progressToken) := by
  unfold logData
  split
  · rename_i enabled
    exact .notify (.record level logger data (by simpa [logEnabled] using enabled))
      fun _ => onward
  · exact onward

theorem reportProgress_within {progress : Float64} {total : Option Float64}
    {next : Except McpError Unit → ToolProg C}
    (onward : ∀ sent, (next sent).Within asks (Told view.logLevel view.progressToken)) :
    (view.reportProgress progress total next).Within asks
      (Told view.logLevel view.progressToken) := by
  unfold reportProgress
  split
  · rename_i token wanted
    exact .notify (.progress token progress total wanted) onward
  · exact onward _

end EnvView

/-- The methods keep what is asked and told within what the environment allows. -/
theorem EnvProg.compile_within (view : EnvView) (prog : EnvProg C) :
    (prog.compile view).Within (AskedOf view.clientCapabilities)
      (Told view.logLevel view.progressToken) := by
  induction prog with
  | returned context result => exact .returned context result
  | panicked context message => exact .panicked context message
  | elicit params _ ih => exact EnvView.elicit_within ih
  | listRoots _ ih => exact EnvView.listRoots_within ih
  | createMessage params _ ih => exact EnvView.createMessage_within ih
  | logData level logger data _ ih => exact EnvView.logData_within ih
  | reportProgress progress total _ ih => exact EnvView.reportProgress_within ih
  | notifyElicitationComplete elicitationId _ ih =>
    exact .notify (.elicitationComplete elicitationId) ih
  | isCancelled _ ih => exact .checkCancelled ih
  | observe _ ih => exact .observe ih

/-- The tool is written with the methods of its environment. -/
def Tool.Typed (tool : Tool C) : Prop :=
  ∃ body : Json → C → EnvView → EnvProg C, ∀ arguments context view,
    tool.execute arguments context view = (body arguments context view).compile view

theorem Tool.Typed.within {tool : Tool C} (typed : tool.Typed) (arguments : Json) (context : C)
    (view : EnvView) : (tool.execute arguments context view).Within (AskedOf view.clientCapabilities)
      (Told view.logLevel view.progressToken) := by
  obtain ⟨body,same⟩ := typed
  rw [same]
  exact (body arguments context view).compile_within view

end SmlMcps
