import SmlMcps.TaskWorker

/-! The server loop of one connection, with the task workers running beside it. The
loop's thread is the only reader of the transport, and reads in three places: the main
loop, the pump inside `tasks/result`, and the wait of a tool for the client's answer. A
read is one step together with what its reader does with the message. -/
namespace SmlMcps

variable {C : Type}

/-! ## Lines -/

/-- What a line reader needs of other crates: the JSON parser and the rendering of a
UTF-8 error. -/
structure WireFormat where
  fromStr : String → Except String Json
  utf8Problem : ByteArray → String

/-- A whole line, its newline included. A limit of zero would refuse the refusals. -/
def WireFormat.readLine (format : WireFormat) (maxBytes : Nat) (line : ByteArray) :
    Except McpError JsonRpcMessage :=
  if max maxBytes 1 < line.size then .error (.invalidMessage
    ("message exceeds the " ++ toString (max maxBytes 1) ++ " byte limit"))
  else match String.fromUTF8? line with
    | none => .error (.invalidMessage ("message is not UTF-8: " ++ format.utf8Problem line))
    | some text => JsonRpcMessage.parse format.fromStr text

def isMalformed : McpError → Bool
  | .json _ | .invalidMessage _ | .invalidRequest _ _ => true
  | _ => false

/-- The id an unreadable message carried. -/
def errorId : McpError → RequestId
  | .invalidRequest id _ => id
  | _ => .null

/-- The answer to a message nobody could read. -/
def malformedAnswer (e : McpError) : JsonRpcMessage := .error (errorId e) e.toJsonrpcError

/-- Only a request is answered when the queue has no room for it. -/
def overloadedResponse : JsonRpcMessage → Option JsonRpcMessage
  | .request request => some (.error request.id ((JsonRpcError.internalError
      ("`" ++ request.method ++
        "` was refused: too many requests are already queued behind a blocking call")).withData
      (.obj [("reason",.str overloadedReason)])))
  | _ => none

/-! ## Cancellation -/

/-- The request a notification withdraws, if that is what it is. -/
def cancelledRequestId (notification : JsonRpcNotification) : Option RequestId :=
  if notification.method = cancelledNotification then do
    let fields ← (← notification.params).asObject
    (RequestId.read (← JsonMap.lookup "requestId" fields)).toOption
  else none

def cancelledHere (message : JsonRpcMessage) (id : RequestId) : Bool :=
  match message with
  | .notification notification => cancelledRequestId notification == some id
  | _ => false

/-- A notification only ever concerns the broker. -/
def RequestBroker.handleNotification (broker : RequestBroker)
    (notification : JsonRpcNotification) : RequestBroker :=
  match cancelledRequestId notification with
  | some id => (broker.cancel id).1
  | none => broker

/-! ## The loop -/

/-- Where the loop's thread is. `reading` tells a wait that has looked at what it waits
for and is in `read` from one that is about to look. -/
inductive LoopMode (C : Type) where
  | idle
  | running (request : JsonRpcRequest) (call : ToolCall C) (prog : ToolProg C)
  | asking (request : JsonRpcRequest) (call : ToolCall C) (question : Question)
      (reading : Bool) (next : Except McpError Json → ToolProg C)
  | launching (request : JsonRpcRequest) (start : TaskStart C)
  | pumping (request : JsonRpcRequest) (taskId : String) (reading : Bool)
  | blocked (request : JsonRpcRequest) (taskId : String) (since : Nat)
  | replying (id : RequestId) (outcome : Except McpError Json)
  | stopped (result : Except McpError Unit)
  | unwound (message : String)

structure ServerLoop (C : Type) where
  server : Server C
  context : C
  shared : Shared
  workers : List (Worker C)
  mode : LoopMode C

/-- `freshId` is the identifier a task created in the step would get, and `answer` what
an observation of a tool reads. The monotonic clock does not go back. -/
inductive LoopLabel where
  | read (event : Except McpError JsonRpcMessage) (freshId : String)
  | replay (freshId : String)
  | look
  | run (answer : Json)
  | launch (spawnError : Option String)
  | reply
  | work (index : Nat) (answer : Json)
  | clock (now : SystemTime) (elapsed : Nat)
  | wire (failure : Option McpError)

namespace ServerLoop

def start (server : Server C) (context : C) (store : TaskStore) (now : SystemTime)
    (instant : Nat) : ServerLoop C :=
  ⟨server,context,⟨store,.new,[],none,now,instant⟩,[],.idle⟩

def goto (loop : ServerLoop C) (mode : LoopMode C) : ServerLoop C := { loop with mode := mode }

def withShared (loop : ServerLoop C) (shared : Shared) : ServerLoop C :=
  { loop with shared := shared }

def withBroker (loop : ServerLoop C) (broker : RequestBroker) : ServerLoop C :=
  loop.withShared (loop.shared.setBroker broker)

/-- Every task started before a write has been announced by it. -/
def releaseTaskWorkers (loop : ServerLoop C) : ServerLoop C :=
  { loop with workers := loop.workers.map fun worker => { worker with gateOpen := true } }

def writeMessage (loop : ServerLoop C) (message : JsonRpcMessage) :
    ServerLoop C × Except McpError Unit :=
  let (after,sent) := loop.shared.write message
  ((loop.withShared after).releaseTaskWorkers,sent)

/-- Queue a client message for the main loop, or tell the client we cannot. -/
def shedOrDefer (loop : ServerLoop C) (message : JsonRpcMessage) :
    ServerLoop C × Except McpError Unit :=
  match loop.shared.broker.defer message with
  | (broker,none) => (loop.withBroker broker,.ok ())
  | (_,some refused) =>
    match overloadedResponse refused with
    | some answer => loop.writeMessage answer
    | none => (loop,.ok ())

/-- The same inside a tool, where a failed write is ignored. -/
def shedOrDeferQuietly (loop : ServerLoop C) (message : JsonRpcMessage) : ServerLoop C :=
  match loop.shared.broker.defer message with
  | (broker,none) => loop.withBroker broker
  | (_,some refused) =>
    match overloadedResponse refused with
    | some answer => loop.withShared (loop.shared.tryWrite answer)
    | none => loop

/-! ### The main loop -/

def dispatch (loop : ServerLoop C) (request : JsonRpcRequest) (freshId : String) :
    ServerLoop C :=
  let (server,store,next) :=
    loop.server.dispatchRequest ⟨loop.shared.store,loop.shared.now,freshId⟩ request
  let after := { loop with server := server, shared := loop.shared.setStore store }
  match next with
  | .ready outcome => after.goto (.replying request.id outcome)
  | .execute call => after.goto (.running request call (call.entry.tool.execute call.arguments
      loop.context (server.toolEnv call.progressToken)))
  | .start start => after.goto (.launching request start)
  | .await taskId =>
    if server.canPump then after.goto (.pumping request taskId false)
    else after.goto (.blocked request taskId loop.shared.instant)

def handleMessage (loop : ServerLoop C) (message : JsonRpcMessage) (freshId : String) :
    ServerLoop C :=
  match message with
  | .request request => loop.dispatch request freshId
  | .notification notification =>
    loop.withBroker (loop.shared.broker.handleNotification notification)
  | .response response => loop.withBroker (loop.shared.broker.deliver response)

/-- A write of the main loop that fails ends it. -/
def thenIdle (written : ServerLoop C × Except McpError Unit) : ServerLoop C :=
  match written with
  | (after,.ok ()) => after.goto .idle
  | (after,.error e) => after.goto (.stopped (.error e))

def readMain (loop : ServerLoop C) (event : Except McpError JsonRpcMessage)
    (freshId : String) : ServerLoop C :=
  match event with
  | .ok message => loop.handleMessage message freshId
  | .error .transportClosed => loop.goto (.stopped (.ok ()))
  | .error (.timeout _) => loop
  | .error e =>
    if isMalformed e then thenIdle (loop.writeMessage (malformedAnswer e))
    else loop.goto (.stopped (.error e))

/-! ### The pump -/

def pumpLook (loop : ServerLoop C) (request : JsonRpcRequest) (taskId : String) :
    ServerLoop C :=
  match loop.shared.store.tryResult loop.shared.now taskId loop.server.requestor with
  | (store,.error e) =>
    (loop.withShared (loop.shared.setStore store)).goto (.replying request.id (.error e))
  | (store,.ok (some outcome)) => (loop.withShared (loop.shared.setStore store)).goto
      (.replying request.id (Server.taskResult taskId (.ok outcome)))
  | (store,.ok none) =>
    (loop.withShared (loop.shared.setStore store)).goto (.pumping request taskId true)

/-- A write of the pump that fails is the answer of its `tasks/result`. -/
def thenPump (request : JsonRpcRequest) (taskId : String)
    (written : ServerLoop C × Except McpError Unit) : ServerLoop C :=
  match written with
  | (after,.ok ()) => after.goto (.pumping request taskId false)
  | (after,.error e) => after.goto (.replying request.id (.error e))

def readPump (loop : ServerLoop C) (request : JsonRpcRequest) (taskId : String)
    (event : Except McpError JsonRpcMessage) (freshId : String) : ServerLoop C :=
  let again := loop.goto (.pumping request taskId false)
  match event with
  | .error (.timeout _) => again
  | .error e =>
    if isMalformed e then thenPump request taskId (loop.writeMessage (malformedAnswer e))
    else loop.goto (.replying request.id (.error e))
  | .ok (.response response) => again.withBroker (loop.shared.broker.deliver response)
  | .ok (.request arrived) =>
    match loop.server.answerInline ⟨loop.shared.store,loop.shared.now,freshId⟩ arrived with
    | (store,some answer) => thenPump request taskId
        ((loop.withShared (loop.shared.setStore store)).writeMessage answer)
    | (_,none) => thenPump request taskId (loop.shedOrDefer (.request arrived))
  | .ok other => thenPump request taskId (loop.shedOrDefer other)

/-- Without deadlines there is nothing to pump with: the wait on the store alone. -/
def blockedLook (loop : ServerLoop C) (request : JsonRpcRequest) (taskId : String)
    (since : Nat) : ServerLoop C :=
  let expired := loop.server.config.taskResultTimeout.any fun patience =>
    since + patience ≤ loop.shared.instant
  match loop.shared.store.awaitResultOnce loop.shared.now taskId loop.server.requestor expired with
  | (store,some awaited) => (loop.withShared (loop.shared.setStore store)).goto
      (.replying request.id (Server.taskResult taskId awaited))
  | (store,none) => loop.withShared (loop.shared.setStore store)

/-! ### A tool in the loop's own thread -/

def settle (loop : ServerLoop C) (request : JsonRpcRequest) (call : ToolCall C)
    (question : Question) (next : Except McpError Json → ToolProg C)
    (outcome : Except McpError Json) : ServerLoop C :=
  (loop.withShared (loop.shared.afterWait none false question outcome)).goto
    (.running request call (next outcome))

def askLook (loop : ServerLoop C) (request : JsonRpcRequest) (call : ToolCall C)
    (question : Question) (next : Except McpError Json → ToolProg C) : ServerLoop C :=
  match loop.shared.broker.takeParked question.id with
  | (broker,some response) => (loop.withBroker broker).settle request call question next
      (RequestBroker.intoResult response)
  | (_,none) =>
    if question.due loop.shared.instant then
      loop.settle request call question next (.error question.timedOut)
    else loop.goto (.asking request call question true next)

/-- Any read error ends this wait, a malformed line included. -/
def readAsking (loop : ServerLoop C) (request : JsonRpcRequest) (call : ToolCall C)
    (question : Question) (next : Except McpError Json → ToolProg C)
    (event : Except McpError JsonRpcMessage) : ServerLoop C :=
  let again := LoopMode.asking request call question false next
  match event with
  | .error e => loop.settle request call question next (.error e)
  | .ok (.response response) =>
    if response.id = question.id then
      loop.settle request call question next (RequestBroker.intoResult response)
    else (loop.withBroker (loop.shared.broker.deliver response)).goto again
  | .ok other =>
    if cancelledHere other question.id then
      (loop.withBroker (loop.shared.broker.abandon question.id)).settle request call question next
        (.error (.internal ("the client cancelled request " ++ question.id.debug)))
    else (loop.shedOrDeferQuietly other).goto again

/-- One call of the tool on its environment. -/
def runTool (loop : ServerLoop C) (request : JsonRpcRequest) (call : ToolCall C) (answer : Json)
    (prog : ToolProg C) : Option (ServerLoop C) :=
  match prog with
  | .returned context result => some ({ loop with context := context }.goto
      (.replying request.id (call.answer (.returned result))))
  | .panicked context message => some ({ loop with context := context }.goto
      (.replying request.id (call.answer (.panicked message))))
  | .notify method params next =>
    let (after,sent) := loop.shared.write (notificationMessage method params)
    some ((loop.withShared after).goto (.running request call (next sent)))
  | .request method params timeout next =>
    match loop.shared.broker.nextRequestId with
    | none => none
    | some (broker,id) =>
      match (loop.shared.setBroker broker).write (.request ⟨id,method,some params⟩) with
      | (after,.ok ()) => some ((loop.withShared after).goto
          (.asking request call (.ask id timeout loop.shared.instant) false next))
      | (after,.error e) => some ((loop.withShared (after.setBroker (after.broker.abandon id))).goto
          (.running request call (next (.error e))))
  | .checkCancelled next => some (loop.goto (.running request call (next false)))
  | .observe next => some (loop.goto (.running request call (next answer)))

def launchTask (loop : ServerLoop C) (request : JsonRpcRequest) (start : TaskStart C)
    (spawnError : Option String) : ServerLoop C :=
  match start.launch loop.server loop.shared spawnError with
  | .error message => loop.goto (.unwound message)
  | .ok (after,worker,outcome) =>
    { (loop.withShared after).goto (.replying request.id outcome) with
      workers := loop.workers ++ worker.toList }

/-! ### Steps -/

def readStep (loop : ServerLoop C) (event : Except McpError JsonRpcMessage)
    (freshId : String) : Option (ServerLoop C) :=
  match loop.mode with
  | .idle => if loop.shared.broker.deferred.isEmpty then some (loop.readMain event freshId) else none
  | .pumping request taskId true => some (loop.readPump request taskId event freshId)
  | .asking request call question true next =>
    some (loop.readAsking request call question next event)
  | _ => none

def lookStep (loop : ServerLoop C) : Option (ServerLoop C) :=
  match loop.mode with
  | .pumping request taskId false => some (loop.pumpLook request taskId)
  | .blocked request taskId since => some (loop.blockedLook request taskId since)
  | .asking request call question false next => some (loop.askLook request call question next)
  | _ => none

def workStep (loop : ServerLoop C) (index : Nat) (answer : Json) : Option (ServerLoop C) :=
  match loop.workers[index]? with
  | none => none
  | some worker => (worker.step loop.shared answer).map fun next =>
      { loop with shared := next.1, workers := loop.workers.set index next.2 }

def step (loop : ServerLoop C) (label : LoopLabel) : Option (ServerLoop C) :=
  match label with
  | .read event freshId => loop.readStep event freshId
  | .replay freshId =>
    match loop.mode, loop.shared.broker.nextDeferred with
    | .idle, (broker,some message) => some ((loop.withBroker broker).handleMessage message freshId)
    | _, _ => none
  | .look => loop.lookStep
  | .run answer =>
    match loop.mode with
    | .running request call prog => loop.runTool request call answer prog
    | _ => none
  | .launch spawnError =>
    match loop.mode with
    | .launching request start => some (loop.launchTask request start spawnError)
    | _ => none
  | .reply =>
    match loop.mode with
    | .replying id outcome => some (thenIdle (loop.writeMessage (Server.respond id outcome)))
    | _ => none
  | .work index answer => loop.workStep index answer
  | .clock now elapsed => some (loop.withShared
      { loop.shared with now := now, instant := loop.shared.instant + elapsed })
  | .wire failure => some (loop.withShared { loop.shared with writeFailure := failure })

/-- What a step is: one case for each thing a label can mean in a mode. -/
inductive Taken (loop : ServerLoop C) : LoopLabel → ServerLoop C → Prop where
  | readMain {event : Except McpError JsonRpcMessage} {freshId : String}
      (idle : loop.mode = .idle) (drained : loop.shared.broker.deferred.isEmpty = true) :
      Taken loop (.read event freshId) (loop.readMain event freshId)
  | readPump {event : Except McpError JsonRpcMessage} {freshId : String}
      {request : JsonRpcRequest} {taskId : String}
      (pumping : loop.mode = .pumping request taskId true) :
      Taken loop (.read event freshId) (loop.readPump request taskId event freshId)
  | readAsking {event : Except McpError JsonRpcMessage} {freshId : String}
      {request : JsonRpcRequest} {call : ToolCall C} {question : Question}
      {next : Except McpError Json → ToolProg C}
      (asking : loop.mode = .asking request call question true next) :
      Taken loop (.read event freshId) (loop.readAsking request call question next event)
  | replay {freshId : String} {broker : RequestBroker} {message : JsonRpcMessage}
      (idle : loop.mode = .idle)
      (queued : loop.shared.broker.nextDeferred = (broker,some message)) :
      Taken loop (.replay freshId) ((loop.withBroker broker).handleMessage message freshId)
  | pumpLook {request : JsonRpcRequest} {taskId : String}
      (pumping : loop.mode = .pumping request taskId false) :
      Taken loop .look (loop.pumpLook request taskId)
  | blockedLook {request : JsonRpcRequest} {taskId : String} {since : Nat}
      (blocked : loop.mode = .blocked request taskId since) :
      Taken loop .look (loop.blockedLook request taskId since)
  | askLook {request : JsonRpcRequest} {call : ToolCall C} {question : Question}
      {next : Except McpError Json → ToolProg C}
      (asking : loop.mode = .asking request call question false next) :
      Taken loop .look (loop.askLook request call question next)
  | run {request : JsonRpcRequest} {call : ToolCall C} {prog : ToolProg C} {answer : Json}
      {after : ServerLoop C} (running : loop.mode = .running request call prog)
      (ran : loop.runTool request call answer prog = some after) :
      Taken loop (.run answer) after
  | launch {request : JsonRpcRequest} {start : TaskStart C} {spawnError : Option String}
      (launching : loop.mode = .launching request start) :
      Taken loop (.launch spawnError) (loop.launchTask request start spawnError)
  | reply {id : RequestId} {outcome : Except McpError Json}
      (replying : loop.mode = .replying id outcome) :
      Taken loop .reply (thenIdle (loop.writeMessage (Server.respond id outcome)))
  | work {index : Nat} {answer : Json} {worker moved : Worker C} {shared : Shared}
      (there : loop.workers[index]? = some worker)
      (worked : worker.step loop.shared answer = some (shared,moved)) :
      Taken loop (.work index answer)
        { loop with shared, workers := loop.workers.set index moved }
  | clock (now : SystemTime) (elapsed : Nat) :
      Taken loop (.clock now elapsed) (loop.withShared
        { loop.shared with now := now, instant := loop.shared.instant + elapsed })
  | wire (failure : Option McpError) :
      Taken loop (.wire failure)
        (loop.withShared { loop.shared with writeFailure := failure })

/-- The invariants of the loop take its steps apart by this alone. -/
theorem step_taken {loop next : ServerLoop C} {label : LoopLabel}
    (taken : loop.step label = some next) : Taken loop label next := by
  cases label with
  | read event freshId =>
    simp only [step,readStep] at taken
    split at taken
    · rename_i idle
      split at taken
      · rename_i drained
        cases taken
        exact .readMain idle drained
      · cases taken
    · rename_i pumping
      cases taken
      exact .readPump pumping
    · rename_i asking
      cases taken
      exact .readAsking asking
    · cases taken
  | replay freshId =>
    simp only [step] at taken
    split at taken
    · rename_i idle queued
      cases taken
      exact .replay idle queued
    · cases taken
  | look =>
    simp only [step,lookStep] at taken
    split at taken
    · rename_i pumping
      cases taken
      exact .pumpLook pumping
    · rename_i blocked
      cases taken
      exact .blockedLook blocked
    · rename_i asking
      cases taken
      exact .askLook asking
    · cases taken
  | run answer =>
    simp only [step] at taken
    split at taken
    · rename_i running
      exact .run running taken
    · cases taken
  | launch spawnError =>
    simp only [step] at taken
    split at taken
    · rename_i launching
      cases taken
      exact .launch launching
    · cases taken
  | reply =>
    simp only [step] at taken
    split at taken
    · rename_i replying
      cases taken
      exact .reply replying
    · cases taken
  | work index answer =>
    simp only [step,workStep] at taken
    split at taken
    · cases taken
    · rename_i worker there
      obtain ⟨⟨shared,moved⟩,worked,rfl⟩ := Option.map_eq_some_iff.mp taken
      exact .work there worked
  | clock now elapsed =>
    cases taken
    exact .clock now elapsed
  | wire failure =>
    cases taken
    exact .wire failure

/-- A question draws an id and is written; one that cannot be written is given up. -/
theorem runTool_request {loop after : ServerLoop C} {request : JsonRpcRequest} {call : ToolCall C}
    {answer : Json} {method : String} {params : Json} {timeout : Option Nat}
    {next : Except McpError Json → ToolProg C}
    (taken : loop.runTool request call answer (.request method params timeout next) =
      some after) :
    ∃ broker id sent, loop.shared.broker.nextRequestId = some (broker,id) ∧
      ((loop.shared.setBroker broker).write (.request ⟨id,method,some params⟩) = (sent,.ok ()) ∧
        after = (loop.withShared sent).goto
          (.asking request call (.ask id timeout loop.shared.instant) false next) ∨
      ∃ e, (loop.shared.setBroker broker).write (.request ⟨id,method,some params⟩) =
          (sent,.error e) ∧
        after = (loop.withShared (sent.setBroker (sent.broker.abandon id))).goto
          (.running request call (next (.error e)))) := by
  simp only [runTool] at taken
  split at taken
  · cases taken
  · rename_i broker id drawn
    split at taken
    · rename_i sent wrote
      cases taken
      exact ⟨broker,id,sent,drawn,.inl ⟨wrote,rfl⟩⟩
    · rename_i sent e wrote
      cases taken
      exact ⟨broker,id,sent,drawn,.inr ⟨e,wrote,rfl⟩⟩

end ServerLoop

end SmlMcps
