import SmlMcps.Pagination
import SmlMcps.Tasks

/-! The server: its configuration, what is registered on it, the state one connection
establishes, and the dispatch of a request. Tools are programs over the environment
they are handed. A dispatch that needs more than the request itself stops with the
continuation it needs: a tool to run, a task to start, or a task to wait for. -/
namespace SmlMcps

/-- The default level is `info`; the remaining diagnostics settings are not read here. -/
structure ServerConfig where
  name : String
  version : String
  instructions : Option String
  title : Option String
  description : Option String
  websiteUrl : Option String
  icons : List Icon
  pageSize : Nat
  supportedVersions : List String
  defaultLogLevel : LogLevel
  requestTimeout : Option Nat
  validateToolInput : Bool
  requireInitialization : Bool
  taskResultTimeout : Option Nat
  maxMessageBytes : Nat
  cursors : CursorCodec

/-- Timeouts in nanoseconds. The crate's version is a build-time constant. -/
def ServerConfig.default (version : String) (cursors : CursorCodec) : ServerConfig where
  name := "sml_mcps"
  version := version
  instructions := none
  title := none
  description := none
  websiteUrl := none
  icons := []
  pageSize := defaultPageSize
  supportedVersions := supportedProtocolVersions
  defaultLogLevel := .info
  requestTimeout := some 120000000000
  validateToolInput := true
  requireInitialization := false
  taskResultTimeout := some 30000000000
  maxMessageBytes := 8 * 1024 * 1024
  cursors := cursors

/-- What a running tool can read off its environment without talking to anyone. -/
structure EnvView where
  logLevel : LogLevel
  clientCapabilities : ClientCapabilities
  taskId : Option String
  progressToken : Option RequestId
  requestTimeout : Option Nat

/-- A tool's run as a tree of the calls it makes on its environment. `observe` reads
something outside the server. A run that returns or panics is a finite path. -/
inductive ToolProg (C : Type) where
  | returned (context : C) (result : Except McpError CallToolResult)
  | panicked (context : C) (message : String)
  | notify (method : String) (params : Option Json) (next : Except McpError Unit → ToolProg C)
  | request (method : String) (params : Json) (timeout : Option Nat)
      (next : Except McpError Json → ToolProg C)
  | checkCancelled (next : Bool → ToolProg C)
  | observe (next : Json → ToolProg C)

/-- How an execution of a tool ended. -/
inductive Executed where
  | returned (result : Except McpError CallToolResult)
  | panicked (message : String)
  deriving DecidableEq

/-- `protocolTool` is the wire form. `modelImmediateResponse` may panic, which is an
error carrying the panic message. -/
structure Tool (C : Type) where
  name : String
  protocolTool : JsonMap
  taskSupport : TaskSupport
  modelImmediateResponse : Except String (Option String)
  execute : Json → C → EnvView → ToolProg C

/-- A tool that may run as a task and ends the same way whatever it is given. -/
def Tool.constant {C : Type} (name : String) (result : Except McpError CallToolResult) :
    Tool C where
  name := name
  protocolTool := [("name",.str name)]
  taskSupport := .optional
  modelImmediateResponse := .ok none
  execute _ context _ := .returned context result

/-- A tool that asks the client something and ends with what it was told. -/
def Tool.asking {C : Type} (name method : String) : Tool C where
  name := name
  protocolTool := [("name",.str name)]
  taskSupport := .optional
  modelImmediateResponse := .ok none
  execute _ context _ := .request method (.obj []) none fun answer =>
    .returned context (answer.map fun value => ⟨[],false,some value,none⟩)

/-- The validators of compiled schemas report the problem they found. -/
inductive OutputCheck where
  | none
  | compiled (validate : Option Json → Except String Unit)
  | presenceOnly

def OutputCheck.check (output : OutputCheck) (structured : Option Json) : Except String Unit :=
  match output with
  | .none => .ok ()
  | .compiled validate => validate structured
  | .presenceOnly =>
    match structured with
    | some _ => .ok ()
    | Option.none => .error "no `structuredContent`"

structure ToolEntry (C : Type) where
  tool : Tool C
  input : Option (Json → Except String Unit)
  output : OutputCheck

structure ResourceEntry where
  protocolResource : Json
  content : List ResourceContent

structure PromptEntry where
  protocolPrompt : Json
  description : Option String
  getMessages : List (String × String) → Except McpError (List Json)

inductive TaskContext where
  | singleRequestor
  | owner (key : String)
  | anonymous
  deriving DecidableEq, Repr

namespace TaskContext

def ownerKey : TaskContext → Option String
  | .owner key => some key
  | _ => none

def canList : TaskContext → Bool
  | .anonymous => false
  | _ => true

end TaskContext

/-- `store` names the store this server runs its tasks against, since a store outlives
a server that is rebuilt per request; `storeConfig` is what that store was made with.
The factory may panic. -/
structure TaskRuntime (C : Type) where
  store : Nat
  storeConfig : TaskConfig
  contextFactory : Except String C

structure Server (C : Type) where
  config : ServerConfig
  tools : KeyedTable String (ToolEntry C)
  resources : KeyedTable String ResourceEntry
  resourceTemplates : List (String × Json)
  prompts : KeyedTable String PromptEntry
  canPump : Bool
  initialized : Bool
  logLevel : LogLevel
  clientCapabilities : ClientCapabilities
  tasks : Option (TaskRuntime C)
  taskContext : TaskContext
  negotiatedVersion : Option String

variable {C : Type}

namespace Server

def new (config : ServerConfig) : Server C where
  config := config
  tools := ∅
  resources := ∅
  resourceTemplates := []
  prompts := ∅
  canPump := false
  initialized := false
  logLevel := config.defaultLogLevel
  clientCapabilities := .default
  tasks := none
  taskContext := .singleRequestor
  negotiatedVersion := none

def taskStore (server : Server C) : Option Nat := server.tasks.map TaskRuntime.store

/-- No effect unless tasks are enabled. -/
def shareTaskStore (server : Server C) (store : Nat) : Server C :=
  { server with tasks := server.tasks.map fun runtime => { runtime with store := store } }

def setTaskContext (server : Server C) (taskContext : TaskContext) : Server C :=
  { server with taskContext := taskContext }

def setLogLevel (server : Server C) (level : LogLevel) : Server C :=
  { server with logLevel := level }

def setClientCapabilities (server : Server C) (capabilities : ClientCapabilities) : Server C :=
  { server with clientCapabilities := capabilities }

def setNegotiatedVersion (server : Server C) (version : String) : Server C :=
  { server with negotiatedVersion := some version }

def setInitialized (server : Server C) (initialized : Bool) : Server C :=
  { server with initialized := initialized }

def requestor (server : Server C) : Requestor := server.taskContext.ownerKey

def serverInfo (server : Server C) : Implementation :=
  ⟨server.config.name,server.config.version,server.config.title,server.config.description,
    server.config.icons,server.config.websiteUrl⟩

end Server

/-! ## Parameters -/

def parseParams (read : Json → Except ReadError α) (request : JsonRpcRequest) :
    Except McpError α :=
  match request.params with
  | none => .error (.invalidParams "Missing params")
  | some params =>
    match read params with
    | .ok value => .ok value
    | .error e => .error (.invalidParams ("Invalid params: " ++ e.text))

def parseOptionalParams (fallback : α) (read : Json → Except ReadError α)
    (request : JsonRpcRequest) : Except McpError α :=
  match request.params with
  | none => .ok fallback
  | some params =>
    match read params with
    | .ok value => .ok value
    | .error e => .error (.invalidParams ("Invalid params: " ++ e.text))

def readTaskIdParams (value : Json) : Except ReadError String := do
  let members ← Json.members "TaskIdParams" ["taskId"] value
  members.required "taskId" Json.readString

/-- The parameters every list method shares; only the struct's name differs. -/
def readCursorParams (struct : String) (value : Json) : Except ReadError (Option String) := do
  let members ← Json.members struct ["cursor"] value
  members.optional "cursor" Json.readString

def readReadResourceParams (value : Json) : Except ReadError String := do
  let members ← Json.members "ReadResourceParams" ["uri"] value
  members.required "uri" Json.readString

def readGetPromptParams (value : Json) : Except ReadError (String × List (String × String)) := do
  let members ← Json.members "GetPromptParams" ["name","arguments"] value
  let arguments ← members.defaulted "arguments" [] fun value => do
    let fields ← Json.readMap value
    fields.mapM fun field => do return (field.1,← Json.readString field.2)
  let name ← members.required "name" Json.readString
  return (name,arguments)

/-! ## Handlers -/

namespace Server

def checkInitialized (server : Server C) (method : String) : Except McpError Unit :=
  if !server.config.requireInitialization then .ok ()
  else if method = "ping" then .ok ()
  else if method = "initialize" then
    if server.initialized then .error (.invalidMessage
      "already initialized; the handshake happens once per session")
    else .ok ()
  else if server.initialized then .ok ()
  else .error (.invalidMessage ("`" ++ method ++ "` before `initialize`"))

def declared (present : Bool) : Option Json := if present then some (.obj []) else none

def tasksCapability (taskContext : TaskContext) : Json :=
  .obj (JsonMap.ofMembers [
    ("list",declared taskContext.canList),
    ("cancel",some (.obj [])),
    ("requests",some (.obj [("tools",.obj [("call",.obj [])])]))])

def serverCapabilities (server : Server C) : Json :=
  .obj (JsonMap.ofMembers [
    ("tools",declared (!(server.tools.entries.isEmpty && server.tasks.isNone))),
    ("resources",declared
      (!(server.resources.entries.isEmpty && server.resourceTemplates.isEmpty))),
    ("prompts",declared (!server.prompts.entries.isEmpty)),
    ("logging",some (.obj [])),
    ("tasks",server.tasks.map fun _ => tasksCapability server.taskContext)])

/-- The requested revision when supported, else the newest supported one. -/
def negotiate (config : ServerConfig) (requested : String) : String :=
  match config.supportedVersions.find? fun version => version == requested with
  | some version => version
  | none => config.supportedVersions.head?.getD protocolVersion

def initializeResult (server : Server C) (negotiated : String) : Json :=
  .obj (JsonMap.ofMembers [
    ("protocolVersion",some (.str negotiated)),
    ("capabilities",some server.serverCapabilities),
    ("serverInfo",some server.serverInfo.toJson),
    ("instructions",server.config.instructions.map .str)])

def initializeParams (request : JsonRpcRequest) : Except McpError InitializeParams :=
  match request.params with
  | none => .ok .default
  | some params =>
    match InitializeParams.read params with
    | .ok value => .ok value
    | .error e => .error (.invalidParams ("Invalid initialize params: " ++ e.text))

def handleInitialize (server : Server C) (request : JsonRpcRequest) :
    Server C × Except McpError Json :=
  match initializeParams request with
  | .error e => (server,.error e)
  | .ok params =>
    let negotiated := negotiate server.config params.protocolVersion
    let greeted := { server with
      clientCapabilities := params.capabilities
      initialized := true
      negotiatedVersion := some negotiated }
    (greeted,.ok (greeted.initializeResult negotiated))

def unknownLevel (name : String) : McpError :=
  .invalidParams ("Unknown log level `" ++ name ++ "`; expected one of: " ++
    String.intercalate ", " (LogLevel.all.map LogLevel.asStr))

def requestedLevel (request : JsonRpcRequest) : Except McpError LogLevel :=
  match request.params with
  | none => .error (.invalidParams "Missing params")
  | some params =>
    match readSetLevelParams params with
    | .error e => .error (.invalidParams ("Invalid setLevel params: " ++ e.text))
    | .ok name =>
      match LogLevel.fromWire name with
      | some level => .ok level
      | none => .error (unknownLevel name)

def handleSetLevel (server : Server C) (request : JsonRpcRequest) :
    Server C × Except McpError Json :=
  match requestedLevel request with
  | .ok level => (server.setLogLevel level,.ok (.obj []))
  | .error e => (server,.error e)

def handlePing : Except McpError Json := .ok (.obj [])

/-- A page of a listing, the items already sorted by their key. -/
def listPage (config : ServerConfig) (struct member : String) (sorted : List Json)
    (request : JsonRpcRequest) : Except McpError Json := do
  let cursor ← parseOptionalParams none (readCursorParams struct) request
  let state ← PageState.fromCursor config.cursors cursor config.pageSize
  let (page,next) ← paginate config.cursors sorted state
  return .obj (JsonMap.ofMembers [(member,some (.arr page)),("nextCursor",next.map .str)])

def sortedByKey (items : List (String × Json)) : List Json :=
  (items.insertionSort fun a b => a.1 ≤ b.1).map Prod.snd

/-- Without the task capability a tool's `execution` is withheld. -/
def handleListTools (server : Server C) (request : JsonRpcRequest) : Except McpError Json :=
  let item (entry : ToolEntry C) : Json :=
    .obj (if server.tasks.isNone then entry.tool.protocolTool.filter fun field =>
      field.1 != "execution" else entry.tool.protocolTool)
  listPage server.config "ListToolsParams" "tools"
    (sortedByKey (server.tools.entries.map fun entry => (entry.1,item entry.2))) request

def handleListResources (server : Server C) (request : JsonRpcRequest) : Except McpError Json :=
  listPage server.config "ListResourcesParams" "resources"
    (sortedByKey (server.resources.entries.map fun entry =>
      (entry.1,entry.2.protocolResource))) request

def handleListResourceTemplates (server : Server C) (request : JsonRpcRequest) :
    Except McpError Json :=
  listPage server.config "ListResourceTemplatesParams" "resourceTemplates"
    (sortedByKey server.resourceTemplates) request

def handleListPrompts (server : Server C) (request : JsonRpcRequest) : Except McpError Json :=
  listPage server.config "ListPromptsParams" "prompts"
    (sortedByKey (server.prompts.entries.map fun entry =>
      (entry.1,entry.2.protocolPrompt))) request

def handleReadResource (server : Server C) (request : JsonRpcRequest) : Except McpError Json := do
  let uri ← parseParams readReadResourceParams request
  match AList.lookup uri server.resources with
  | none => .error (.resourceNotFound uri)
  | some resource => return .obj [("contents",.arr (resource.content.map ResourceContent.toJson))]

def handleGetPrompt (server : Server C) (request : JsonRpcRequest) : Except McpError Json := do
  let (name,arguments) ← parseParams readGetPromptParams request
  match AList.lookup name server.prompts with
  | none => .error (.promptNotFound name)
  | some prompt =>
    let messages ← prompt.getMessages arguments
    return .obj (JsonMap.ofMembers
      [("description",prompt.description.map .str),("messages",some (.arr messages))])

/-! ### Task handlers -/

def taskStoreOrUnsupported (server : Server C) : Except McpError Unit :=
  match server.tasks with
  | some _ => .ok ()
  | none => .error (.methodNotFound "tasks are not supported by this server")

def taskIdOf (server : Server C) (request : JsonRpcRequest) : Except McpError String := do
  server.taskStoreOrUnsupported
  parseParams readTaskIdParams request

def handleTaskGet (server : Server C) (store : TaskStore) (now : SystemTime)
    (request : JsonRpcRequest) : TaskStore × Except McpError Json :=
  match server.taskIdOf request with
  | .error e => (store,.error e)
  | .ok taskId =>
    let (after,task) := store.get now taskId server.requestor
    (after,task.map Task.toJson)

def handleTaskCancel (server : Server C) (store : TaskStore) (now : SystemTime)
    (request : JsonRpcRequest) : TaskStore × Except McpError Json :=
  match server.taskIdOf request with
  | .error e => (store,.error e)
  | .ok taskId =>
    let (after,task) := store.cancel now taskId server.requestor
    (after,task.map Task.toJson)

def listCursor (server : Server C) (request : JsonRpcRequest) :
    Except McpError (Option String) := do
  server.taskStoreOrUnsupported
  if server.taskContext.canList then
    parseOptionalParams none (readCursorParams "ListTasksParams") request
  else .error (.methodNotFound
    "tasks/list is not available on a server that cannot identify requestors")

/-- A task cursor past the end has its own wording, checked before the generic one. -/
def taskPage (config : ServerConfig) (all : List Task) (cursor : Option String) :
    Except McpError Json := do
  let state ← PageState.fromCursor config.cursors cursor config.pageSize
  if 0 < state.offset ∧ all.length ≤ state.offset then
    .error (.invalidParams ("Invalid cursor: no task at offset " ++ toString state.offset))
  else
    let (tasks,next) ← paginate config.cursors all state
    return .obj (JsonMap.ofMembers
      [("tasks",some (.arr (tasks.map Task.toJson))),("nextCursor",next.map .str)])

def handleTaskList (server : Server C) (store : TaskStore) (now : SystemTime)
    (request : JsonRpcRequest) : TaskStore × Except McpError Json :=
  match server.listCursor request with
  | .error e => (store,.error e)
  | .ok cursor =>
    let (after,all) := store.list now server.requestor
    (after,taskPage server.config all cursor)

/-- `_meta` gains the related-task key; a `_meta` that is not an object is replaced. -/
def withRelatedTaskMeta (taskId : String) (value : Json) : Json :=
  match value with
  | .obj fields =>
    let metadata := match JsonMap.lookup "_meta" fields with
      | some (.obj existing) => JsonMap.insert relatedTask (.obj [("taskId",.str taskId)]) existing
      | some _ => relatedTaskMeta taskId
      | none => JsonMap.insert relatedTask (.obj [("taskId",.str taskId)]) []
    .obj (JsonMap.insert "_meta" (.obj metadata) fields)
  | other => other

/-- Left alone when `data` is present but not an object. -/
def withRelatedTaskData (error : JsonRpcError) (taskId : String) : JsonRpcError :=
  match error.data.getD (.obj []) with
  | .obj fields =>
    { error with data := some (.obj
        (JsonMap.insert relatedTask (.obj [("taskId",.str taskId)]) fields)) }
  | other => { error with data := some other }

/-- What `tasks/result` answers once the wait is over. -/
def taskResult (taskId : String) (awaited : Except McpError TaskOutcome) : Except McpError Json :=
  match awaited with
  | .error e => .error e
  | .ok (.value value) => .ok (withRelatedTaskMeta taskId value)
  | .ok (.error error) => .error (.passthrough (withRelatedTaskData error taskId))

/-! ### Tool calls -/

end Server

/-- A call that passed every check and is about to run. `name` is the name the
request gave, under which the entry was found. -/
structure ToolCall (C : Type) where
  name : String
  entry : ToolEntry C
  arguments : Json
  progressToken : Option RequestId

/-- A task whose record exists and whose worker has not been started. -/
structure TaskStart (C : Type) where
  call : ToolCall C
  task : Task
  cancelled : Nat
  owner : Option String
  factory : Except String C

/-- What is left to do after a request has been dispatched. -/
inductive Dispatch (C : Type) where
  | ready (outcome : Except McpError Json)
  | execute (call : ToolCall C)
  | start (start : TaskStart C)
  | await (taskId : String)

def checkOutput (name : String) (output : OutputCheck) (result : CallToolResult) :
    Except McpError Unit :=
  if result.isError then .ok ()
  else match output.check result.structuredContent with
    | .ok () => .ok ()
    | .error problem => .error (.internal
        ("Tool `" ++ name ++ "` declares an outputSchema but returned " ++ problem))

/-- The tail of a synchronous call: execution failures become results. -/
def ToolCall.answer (call : ToolCall C) (executed : Executed) : Except McpError Json :=
  let outcome : Except McpError CallToolResult := match executed with
    | .returned result => result
    | .panicked message =>
      .error (.internal ("tool `" ++ call.name ++ "` panicked: " ++ message))
  let checked (result : CallToolResult) : Except McpError Json := do
    checkOutput call.name call.entry.output result
    return result.toJson
  match outcome with
  | .ok result => checked result
  | .error (.toolError message) => checked (.error message)
  | .error (.invalidParams message) => checked (.error ("Invalid arguments: " ++ message))
  | .error other => .error other

/-- The answer that announces a started task. -/
def createTaskResult (task : Task) (immediateResponse : Option String) : Json :=
  .obj (JsonMap.ofMembers [
    ("task",some task.toJson),
    ("_meta",immediateResponse.map fun text => .obj [(modelImmediateResponse,.str text)])])

namespace Server

/-- The checks a `tools/call` passes before anything runs; `inr` is the task its
parameters ask for, when tasks are enabled and the tool allows one. -/
def admitCall (server : Server C) (request : JsonRpcRequest) :
    Except (Except McpError Json) (ToolCall C × Option TaskParams) :=
  match parseParams CallToolParams.read request with
  | .error e => .error (.error e)
  | .ok params =>
    match AList.lookup params.name server.tools with
    | none => .error (.error (.invalidParams ("Unknown tool: " ++ params.name)))
    | some entry =>
      let arguments := params.arguments.getD (.obj [])
      let call : ToolCall C := ⟨params.name,entry,arguments,params.progressToken⟩
      let problem : Option String :=
        if server.config.validateToolInput then
          match entry.input with
          | some validate =>
            match validate arguments with
            | .error complaint => some complaint
            | .ok () => none
          | none => none
        else none
      match problem with
      | some problem => .error (.ok (CallToolResult.error
          ("Invalid arguments for `" ++ params.name ++ "`: " ++ problem)).toJson)
      | none =>
        if server.tasks.isSome then
          match params.task, entry.tool.taskSupport with
          | some _, .forbidden => .error (.error (.methodNotFound
              ("tool `" ++ params.name ++ "` cannot be invoked as a task")))
          | none, .required => .error (.error (.methodNotFound
              ("tool `" ++ params.name ++ "` must be invoked as a task")))
          | some task, _ => .ok (call,some task)
          | none, _ => .ok (call,none)
        else .ok (call,none)

/-- Create the record of a task-augmented call. -/
def startToolTask (server : Server C) (store : TaskStore) (now : SystemTime) (freshId : String)
    (call : ToolCall C) (params : TaskParams) : TaskStore × Dispatch C :=
  match server.tasks with
  | none => (store,.ready (.error (.internal "tasks are not enabled")))
  | some runtime =>
    let owner := server.taskContext.ownerKey
    match store.create now freshId params.ttl owner with
    | (after,.error e) => (after,.ready (.error e))
    | (after,.ok (task,cancelled)) =>
      (after,.start ⟨call,task,cancelled,owner,runtime.contextFactory⟩)

def handleCallTool (server : Server C) (store : TaskStore) (now : SystemTime) (freshId : String)
    (request : JsonRpcRequest) : TaskStore × Dispatch C :=
  match server.admitCall request with
  | .error outcome => (store,.ready outcome)
  | .ok (call,some params) => server.startToolTask store now freshId call params
  | .ok (call,none) => (store,.execute call)

/-! ## Dispatch -/

/-- What a dispatch draws from its surroundings: the contents of the server's task
store, the clock, and the identifier a created task would get. -/
structure Surroundings where
  store : TaskStore
  now : SystemTime
  freshId : String

def dispatchRequest (server : Server C) (around : Surroundings) (request : JsonRpcRequest) :
    Server C × TaskStore × Dispatch C :=
  let unchanged (outcome : Except McpError Json) : Server C × TaskStore × Dispatch C :=
    (server,around.store,.ready outcome)
  let stored (step : TaskStore × Except McpError Json) : Server C × TaskStore × Dispatch C :=
    (server,step.1,.ready step.2)
  match server.checkInitialized request.method with
  | .error e => unchanged (.error e)
  | .ok () =>
    match request.method with
    | "initialize" =>
      let (after,outcome) := server.handleInitialize request
      (after,around.store,.ready outcome)
    | "ping" => unchanged handlePing
    | "tools/list" => unchanged (server.handleListTools request)
    | "tools/call" => (server,server.handleCallTool around.store around.now around.freshId request)
    | "resources/list" => unchanged (server.handleListResources request)
    | "resources/templates/list" => unchanged (server.handleListResourceTemplates request)
    | "resources/read" => unchanged (server.handleReadResource request)
    | "prompts/list" => unchanged (server.handleListPrompts request)
    | "prompts/get" => unchanged (server.handleGetPrompt request)
    | "logging/setLevel" =>
      let (after,outcome) := server.handleSetLevel request
      (after,around.store,.ready outcome)
    | "tasks/get" => stored (server.handleTaskGet around.store around.now request)
    | "tasks/result" =>
      match server.taskIdOf request with
      | .error e => unchanged (.error e)
      | .ok taskId => (server,around.store,.await taskId)
    | "tasks/list" => stored (server.handleTaskList around.store around.now request)
    | "tasks/cancel" => stored (server.handleTaskCancel around.store around.now request)
    | method => unchanged (.error (.methodNotFound method))

/-- The response to a request whose dispatch is over. -/
def respond (id : RequestId) (outcome : Except McpError Json) : JsonRpcMessage :=
  match outcome with
  | .ok result => .answer id result
  | .error e => .error id e.toJsonrpcError

/-- The requests the `tasks/result` pump answers itself. -/
def inlineMethod (method : String) : Bool :=
  ["ping","tasks/get","tasks/list","tasks/cancel"].contains method

def answerInline (server : Server C) (around : Surroundings) (request : JsonRpcRequest) :
    TaskStore × Option JsonRpcMessage :=
  if !inlineMethod request.method then (around.store,none)
  else
    match server.checkInitialized request.method with
    | .error e => (around.store,some (respond request.id (.error e)))
    | .ok () =>
      let (after,outcome) :=
        if request.method = "ping" then (around.store,handlePing)
        else if request.method = "tasks/get" then
          server.handleTaskGet around.store around.now request
        else if request.method = "tasks/list" then
          server.handleTaskList around.store around.now request
        else server.handleTaskCancel around.store around.now request
      (after,some (respond request.id outcome))

/-- The environment a synchronous call runs in. -/
def toolEnv (server : Server C) (progressToken : Option RequestId) : EnvView :=
  ⟨server.logLevel,server.clientCapabilities,none,progressToken,server.config.requestTimeout⟩

end Server

end SmlMcps
