import SmlMcps.Connection
import SmlMcps.Library.Runs

/-! Sessions of the HTTP transport. A server is built per request; what a client
established earlier is kept in a `Session`, handed over by `restore` and taken back by
`absorb`. The session table is touched by several short critical sections, and every
step below is one of them: requests and deletions interleave between any two. -/
namespace SmlMcps

variable {C : Type}

def maxSessions : Nat := 256

/-- Thirty minutes, in nanoseconds. -/
def sessionIdleTimeout : Nat := 30 * 60 * 1000000000

def identitySeparator : Char := Char.ofNat 1

/-! ## One session -/

structure Session where
  logLevel : Option LogLevel
  clientCapabilities : ClientCapabilities
  negotiatedVersion : Option String
  initialized : Bool
  tasks : Option Nat
  deriving DecidableEq

def declaresSomething (capabilities : ClientCapabilities) : Bool :=
  !capabilities.experimental.isEmpty || capabilities.sampling.isSome ||
    capabilities.elicitation.isSome || capabilities.roots.isSome

namespace Session

def default : Session := ⟨none,.default,none,false,none⟩

/-- Give a freshly built server what the session knows. The first request that
enables tasks donates its store. -/
def restore (session : Session) (server : Server C) : Session × Server C :=
  let leveled := match session.logLevel with
    | some level => server.setLogLevel level
    | none => server
  let capable := leveled.setClientCapabilities session.clientCapabilities
  let versioned := match session.negotiatedVersion with
    | some version => capable.setNegotiatedVersion version
    | none => capable
  let greeted := versioned.setInitialized session.initialized
  match session.tasks with
  | some store => (session,greeted.shareTaskStore store)
  | none => ({ session with tasks := greeted.taskStore },greeted)

/-- Take back what the request changed: a level that differs from the default, a
capability set that says something, a version, a handshake. -/
def absorb (session : Session) (server : Server C) (defaultLevel : LogLevel) : Session where
  logLevel := if server.logLevel ≠ defaultLevel then some server.logLevel else session.logLevel
  clientCapabilities :=
    if declaresSomething server.clientCapabilities then server.clientCapabilities
    else session.clientCapabilities
  negotiatedVersion :=
    match server.negotiatedVersion with
    | some version => some version
    | none => session.negotiatedVersion
  initialized := session.initialized || server.initialized
  tasks := session.tasks

/-- Is there anything here worth another request finding? Looking at the task store
sweeps it, and it is looked at only when nothing else is worth keeping. -/
def worthKeeping (session : Session) (stores : List TaskStore) (wall : SystemTime) :
    List TaskStore × Bool :=
  if session.initialized || session.logLevel.isSome || session.negotiatedVersion.isSome then
    (stores,true)
  else match session.tasks with
    | none => (stores,false)
    | some store =>
      match stores[store]? with
      | none => (stores,false)
      | some contents =>
        let (swept,empty) := contents.isEmpty wall
        (stores.set store swept,!empty)

end Session

/-! ## The table -/

structure SessionEntry where
  state : Nat
  lastUsed : Nat
  deriving DecidableEq

abbrev Sessions := KeyedTable String SessionEntry

namespace Sessions

/-- The authenticated identity is part of the key. -/
def key (owner : Option String) (id : String) : String :=
  match owner with
  | some owner => owner ++ String.ofList [identitySeparator] ++ id
  | none => id

def idle (now : Nat) (entry : SessionEntry) : Bool :=
  sessionIdleTimeout ≤ now - entry.lastUsed

def sweep (now : Nat) (table : Sessions) : Sessions :=
  KeyedTable.retain (fun _ entry => !idle now entry) table

def evictOldest (table : Sessions) : Sessions :=
  KeyedTable.evict SessionEntry.lastUsed maxSessions table

/-- The lookup of a named session: `none` is the `404` answer. -/
def checkout (table : Sessions) (now : Nat) (owner : Option String) (id : String) :
    Sessions × Option Nat :=
  let swept := sweep now table
  match AList.lookup (key owner id) swept with
  | none => (swept,none)
  | some entry => (swept.insert (key owner id) { entry with lastUsed := now },some entry.state)

/-- The table update of a check-in, once the session has been judged. -/
def checkIn (table : Sessions) (now : Nat) (filed : String) (state : Nat) (keep : Bool) :
    Sessions :=
  if keep then evictOldest (table.insert filed ⟨state,now⟩) else table.erase filed

def terminate (table : Sessions) (owner : Option String) (id : String) : Sessions × Bool :=
  (table.erase (key owner id),(AList.lookup (key owner id) table).isSome)

end Sessions

def hexDigit (value : Nat) : Char := Nat.digitChar value

/-- A random identifier: two hexadecimal digits a byte. -/
def randomHexId (entropy : List UInt8) : String :=
  String.ofList (entropy.flatMap fun byte =>
    [hexDigit (byte.toNat / 16),hexDigit (byte.toNat % 16)])

/-! ## Requests in flight -/

inductive Phase (C : Type) where
  | checkedOut
  | restored (server : Server C)
  | processed (server : Server C)
  | settled
  | tested (keep : Bool)
  | finished (advertised : Bool)

structure HttpRequest (C : Type) where
  owner : Option String
  id : String
  session : Nat
  phase : Phase C

def HttpRequest.key (request : HttpRequest C) : String := Sessions.key request.owner request.id

def HttpRequest.inFlight (request : HttpRequest C) : Bool :=
  match request.phase with
  | .finished _ => false
  | _ => true

/-- `setup` registers tools on a fresh server; the number is the store that enabling
tasks makes. It is run once per request. -/
structure HttpServer (C : Type) where
  config : ServerConfig
  setup : Nat → Server C → Except McpError (Server C)

namespace HttpServer

/-- A server with the default configuration and nothing registered, whose cursors are
the bare offsets. -/
def plain : HttpServer C :=
  ⟨ServerConfig.default "0.7.3" ⟨id,some⟩,fun _ server => .ok server⟩

/-- Who tasks belong to: the authenticated owner, or nobody in particular. -/
def taskContext (owner : Option String) : TaskContext :=
  match owner with
  | some owner => .owner owner
  | none => .anonymous

def build (http : HttpServer C) (owner : Option String) (store : Nat) :
    Except McpError (Server C) :=
  (http.setup store (Server.new http.config)).map fun server =>
    server.setTaskContext (taskContext owner)

end HttpServer

/-- `generated` are the session identifiers drawn so far; `now` is the monotonic clock
and `wall` the system's, which may be set to anything. -/
structure HttpWorld (C : Type) where
  sessions : List Session
  stores : List TaskStore
  table : Sessions
  requests : List (HttpRequest C)
  generated : List String
  now : Nat
  wall : SystemTime

/-- `reject` ends a request that never reaches its check-in: an unreadable body, or an
unwinding outside the guard. `settle` is a request whose absorb is skipped: its
setup failed, or something panicked under the guard. -/
inductive HttpLabel where
  | elapse (duration : Nat)
  | setClock (wall : SystemTime)
  | checkoutNew (owner : Option String) (entropy : List UInt8)
  | checkout (owner : Option String) (id : String)
  | reject (request : Nat)
  | restore (request : Nat)
  | process (request : Nat) (input : Except McpError JsonRpcMessage) (freshId : String)
  | absorb (request : Nat)
  | settle (request : Nat)
  | test (request : Nat)
  | update (request : Nat)
  | delete (owner : Option String) (id : String)
  | storeChange (store : Nat) (contents : TaskStore)

namespace HttpWorld

def empty : HttpWorld C := ⟨[],[],∅,[],[],0,0⟩

def arrive (world : HttpWorld C) (owner : Option String) (id : String) (session : Nat) :
    HttpWorld C :=
  { world with requests := world.requests ++ [⟨owner,id,session,.checkedOut⟩] }

def advance (world : HttpWorld C) (index : Nat) (phase : Phase C) : HttpWorld C :=
  { world with requests := world.requests.modify index fun request =>
      { request with phase := phase } }

/-- A request that names no session gets a new one under a new identifier. -/
def stepCheckoutNew (world : HttpWorld C) (owner : Option String) (entropy : List UInt8) :
    Option (HttpWorld C) :=
  let id := randomHexId entropy
  if id ∈ world.generated then none
  else some (HttpWorld.arrive { world with
    table := Sessions.sweep world.now world.table
    sessions := world.sessions ++ [.default]
    generated := id :: world.generated } owner id world.sessions.length)

def stepCheckout (world : HttpWorld C) (owner : Option String) (id : String) : HttpWorld C :=
  match Sessions.checkout world.table world.now owner id with
  | (swept,none) => { world with table := swept }
  | (touched,some session) => HttpWorld.arrive { world with table := touched } owner id session

def stepRestore (http : HttpServer C) (world : HttpWorld C) (index : Nat)
    (request : HttpRequest C) : Option (HttpWorld C) := do
  let session ← world.sessions[request.session]?
  match http.build request.owner world.stores.length with
  | .error _ => some (world.advance index .settled)
  | .ok built =>
    let (held,server) := session.restore built
    let donated := built.tasks.toList.map fun runtime => TaskStore.new runtime.storeConfig
    some (advance { world with
      sessions := world.sessions.set request.session held
      stores := world.stores ++ donated } index (.restored server))

/-- One message in. Input that cannot be read changes nothing. -/
def stepProcess (world : HttpWorld C) (index : Nat) (server : Server C)
    (input : Except McpError JsonRpcMessage) (freshId : String) : HttpWorld C :=
  match input with
  | .error _ => world.advance index (.processed server)
  | .ok message =>
    match server.taskStore, server.taskStore.bind fun store => world.stores[store]? with
    | some store, some contents =>
      let around : Server.Surroundings := ⟨contents,world.wall,freshId⟩
      advance { world with
        stores := world.stores.set store (server.storeAfter around message) }
        index (.processed (server.handled around message))
    | _, _ =>
      let around : Server.Surroundings := ⟨.new .default,world.wall,freshId⟩
      world.advance index (.processed (server.handled around message))

def step (http : HttpServer C) (world : HttpWorld C) (label : HttpLabel) :
    Option (HttpWorld C) :=
  match label with
  | .elapse duration => some { world with now := world.now + duration }
  | .setClock wall => some { world with wall := wall }
  | .checkoutNew owner entropy => world.stepCheckoutNew owner entropy
  | .checkout owner id => some (world.stepCheckout owner id)
  | .delete owner id =>
    some { world with table := (Sessions.terminate world.table owner id).1 }
  | .storeChange store contents => some { world with stores := world.stores.set store contents }
  | .reject index => do
    let request ← world.requests[index]?
    if request.inFlight then some (world.advance index (.finished false)) else none
  | .restore index => do
    let request ← world.requests[index]?
    match request.phase with
    | .checkedOut => world.stepRestore http index request
    | _ => none
  | .process index input freshId => do
    let request ← world.requests[index]?
    match request.phase with
    | .restored server => some (world.stepProcess index server input freshId)
    | _ => none
  | .absorb index => do
    let request ← world.requests[index]?
    match request.phase with
    | .processed server =>
      let session ← world.sessions[request.session]?
      some (advance { world with
        sessions := world.sessions.set request.session
          (session.absorb server http.config.defaultLogLevel) } index .settled)
    | _ => none
  | .settle index => do
    let request ← world.requests[index]?
    match request.phase with
    | .checkedOut | .restored _ | .processed _ => some (world.advance index .settled)
    | _ => none
  | .test index => do
    let request ← world.requests[index]?
    match request.phase with
    | .settled =>
      let session ← world.sessions[request.session]?
      let (stores,keep) := session.worthKeeping world.stores world.wall
      some (advance { world with stores := stores } index (.tested keep))
    | _ => none
  | .update index => do
    let request ← world.requests[index]?
    match request.phase with
    | .tested keep =>
      some (advance { world with
        table := Sessions.checkIn world.table world.now request.key request.session keep }
        index (.finished keep))
    | _ => none

/-- The steps of a request after its checkout, with nothing else in between. -/
def exchange (index : Nat) (request : JsonRpcRequest) (freshId : String) : List HttpLabel :=
  [.restore index,.process index (.ok (.request request)) freshId,.absorb index,.test index,
    .update index]

end HttpWorld

end SmlMcps
