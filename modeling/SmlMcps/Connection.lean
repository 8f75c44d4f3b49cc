import SmlMcps.Server

/-! The state one connection establishes on a server, and what a message does to it.
Only two requests change it: an accepted `initialize` and an accepted
`logging/setLevel`. -/
namespace SmlMcps

variable {C : Type}

@[ext] structure ConnectionState where
  logLevel : LogLevel
  clientCapabilities : ClientCapabilities
  negotiatedVersion : Option String
  initialized : Bool
  deriving DecidableEq

/-- What a message changes in the connection's state. -/
inductive Change where
  | none
  | level (level : LogLevel)
  | handshake (capabilities : ClientCapabilities) (version : String)
  deriving DecidableEq

def Change.apply (change : Change) (state : ConnectionState) : ConnectionState :=
  match change with
  | .none => state
  | .level asked => { state with logLevel := asked }
  | .handshake capabilities version =>
    { state with
      clientCapabilities := capabilities
      negotiatedVersion := some version
      initialized := true }

/-- The change `message` makes under `config`, given whether the handshake has
happened: the gate, the parameters and the negotiation all read only these. -/
def acceptedChange (config : ServerConfig) (initialized : Bool) (message : JsonRpcMessage) :
    Change :=
  match message with
  | .request request =>
    if request.method = "initialize" then
      if config.requireInitialization && initialized then .none
      else match Server.initializeParams request with
        | .ok params =>
          .handshake params.capabilities (Server.negotiate config params.protocolVersion)
        | .error _ => .none
    else if request.method = "logging/setLevel" then
      if config.requireInitialization && !initialized then .none
      else match Server.requestedLevel request with
        | .ok level => .level level
        | .error _ => .none
    else .none
  | _ => .none

namespace Server

def connection (server : Server C) : ConnectionState :=
  ⟨server.logLevel,server.clientCapabilities,server.negotiatedVersion,server.initialized⟩

/-- The server with its connection state replaced. -/
def withConnection (server : Server C) (state : ConnectionState) : Server C :=
  { server with
    logLevel := state.logLevel
    clientCapabilities := state.clientCapabilities
    negotiatedVersion := state.negotiatedVersion
    initialized := state.initialized }

@[simp] theorem connection_withConnection (server : Server C) (state : ConnectionState) :
    (server.withConnection state).connection = state := rfl

@[simp] theorem withConnection_connection (server : Server C) :
    server.withConnection server.connection = server := rfl

@[simp] theorem withConnection_config (server : Server C) (state : ConnectionState) :
    (server.withConnection state).config = server.config := rfl

@[simp] theorem withConnection_tasks (server : Server C) (state : ConnectionState) :
    (server.withConnection state).tasks = server.tasks := rfl

/-- The server once `message` has been handled. Notifications and responses reach
the broker only. -/
def handled (server : Server C) (around : Surroundings) (message : JsonRpcMessage) : Server C :=
  match message with
  | .request request => (server.dispatchRequest around request).1
  | _ => server

/-- The task store once `message` has been dispatched. -/
def storeAfter (server : Server C) (around : Surroundings) (message : JsonRpcMessage) :
    TaskStore :=
  match message with
  | .request request => (server.dispatchRequest around request).2.1
  | _ => around.store

theorem handleInitialize_server (server : Server C) (request : JsonRpcRequest) :
    (server.handleInitialize request).1 =
      match initializeParams request with
      | .ok params => server.withConnection
          ((Change.handshake params.capabilities
            (negotiate server.config params.protocolVersion)).apply server.connection)
      | .error _ => server := by
  unfold handleInitialize
  split
  · rename_i failed
    simp [failed]
  · rename_i read
    simp [read]
    rfl

theorem handleSetLevel_server (server : Server C) (request : JsonRpcRequest) :
    (server.handleSetLevel request).1 =
      match requestedLevel request with
      | .ok level => server.withConnection ((Change.level level).apply server.connection)
      | .error _ => server := by
  cases read : requestedLevel request with
  | ok level => simp [handleSetLevel,read]; rfl
  | error problem => simp [handleSetLevel,read]

theorem checkInitialized_handshake (server : Server C) :
    server.checkInitialized "initialize" =
      if server.config.requireInitialization && server.initialized then
        .error (.invalidMessage "already initialized; the handshake happens once per session")
      else .ok () := by
  unfold checkInitialized
  cases server.config.requireInitialization <;> cases server.initialized <;> rfl

theorem checkInitialized_setLevel (server : Server C) :
    server.checkInitialized "logging/setLevel" =
      if server.config.requireInitialization && !server.initialized then
        .error (.invalidMessage "`logging/setLevel` before `initialize`")
      else .ok () := by
  unfold checkInitialized
  cases server.config.requireInitialization <;> cases server.initialized <;> rfl

theorem dispatchRequest_handshake (server : Server C) (around : Surroundings)
    (request : JsonRpcRequest) (method : request.method = "initialize") :
    (server.dispatchRequest around request).1 =
      if server.config.requireInitialization && server.initialized then server
      else (server.handleInitialize request).1 := by
  simp only [dispatchRequest,method,checkInitialized_handshake]
  split
  · rename_i refused
    split at refused
    · rename_i shut
      simp [shut]
    · cases refused
  · rename_i passed
    split at passed
    · cases passed
    · rename_i opened
      simp [opened]

theorem dispatchRequest_setLevel (server : Server C) (around : Surroundings)
    (request : JsonRpcRequest) (method : request.method = "logging/setLevel") :
    (server.dispatchRequest around request).1 =
      if server.config.requireInitialization && !server.initialized then server
      else (server.handleSetLevel request).1 := by
  simp only [dispatchRequest,method,checkInitialized_setLevel]
  split
  · rename_i refused
    split at refused
    · rename_i shut
      simp [shut]
    · cases refused
  · rename_i passed
    split at passed
    · cases passed
    · rename_i opened
      simp [opened]

/-- Every method but two leaves the server as it was. -/
theorem dispatchRequest_other (server : Server C) (around : Surroundings)
    (request : JsonRpcRequest) (notInitialize : request.method ≠ "initialize")
    (notSetLevel : request.method ≠ "logging/setLevel") :
    (server.dispatchRequest around request).1 = server := by
  unfold dispatchRequest
  split
  · rfl
  · split <;> first | rfl | contradiction | skip
    split <;> rfl

/-- Handling a message changes the connection's state by the accepted change, and
nothing else of the server. -/
theorem handled_eq (server : Server C) (around : Surroundings) (message : JsonRpcMessage) :
    server.handled around message = server.withConnection
      ((acceptedChange server.config server.initialized message).apply server.connection) := by
  cases message with
  | notification => rfl
  | response => rfl
  | request request =>
    by_cases isInitialize : request.method = "initialize"
    · simp only [handled,dispatchRequest_handshake server around request isInitialize,
        acceptedChange,isInitialize,if_true]
      split
      · rfl
      · rw [handleInitialize_server]
        cases initializeParams request <;> rfl
    · by_cases isSetLevel : request.method = "logging/setLevel"
      · simp only [handled,dispatchRequest_setLevel server around request isSetLevel,
          acceptedChange,isSetLevel,if_true]
        split
        · rfl
        · rw [handleSetLevel_server]
          cases requestedLevel request <;> rfl
      · simp only [handled,acceptedChange,isInitialize,isSetLevel,if_false,Change.apply,
          dispatchRequest_other server around request isInitialize isSetLevel,
          withConnection_connection]

end Server

end SmlMcps
