import SmlMcps.Broker
import SmlMcps.Server

/-! Task workers: the thread behind a task-augmented call. A worker waits at its gate,
builds a context, runs the tool, stores what came of it and announces the status. A
question to the client is written by the worker and answered through the broker by
whichever thread is reading. -/
namespace SmlMcps

variable {C : Type}

/-- What the threads of one connection share: the task store, the broker, the wire and
the clocks. `written` is everything written so far; while `writeFailure` is set every
write fails with it. -/
structure Shared where
  store : TaskStore
  broker : RequestBroker
  written : List JsonRpcMessage
  writeFailure : Option McpError
  now : SystemTime
  instant : Nat

namespace Shared

def write (shared : Shared) (message : JsonRpcMessage) : Shared × Except McpError Unit :=
  match shared.writeFailure with
  | some failure => (shared,.error failure)
  | none => ({ shared with written := shared.written ++ [message] },.ok ())

/-- A write whose failure is ignored. -/
def tryWrite (shared : Shared) (message : JsonRpcMessage) : Shared := (shared.write message).1

def setStore (shared : Shared) (store : TaskStore) : Shared := { shared with store := store }

def setBroker (shared : Shared) (broker : RequestBroker) : Shared :=
  { shared with broker := broker }

end Shared

/-! ## Questions to the client -/

/-- The `Debug` form of an identifier. -/
def RequestId.debug : RequestId → String
  | .number value => "Number(" ++ toString value ++ ")"
  | .string text => "String(\"" ++ text ++ "\")"
  | .null => "Null"

/-- The `Debug` form of a duration in nanoseconds: its largest unit, with the
fraction's trailing zeros dropped. -/
def durationDebug (nanos : Nat) : String :=
  let render (unit digits : Nat) (suffix : String) : String :=
    let fraction := (padded digits (nanos % unit)).reverse.dropWhile (· == '0')
    toString (nanos / unit) ++
      (if fraction.isEmpty then "" else "." ++ String.ofList fraction.reverse) ++ suffix
  if 1000000000 ≤ nanos then render 1000000000 9 "s"
  else if 1000000 ≤ nanos then render 1000000 6 "ms"
  else if 1000 ≤ nanos then render 1000 3 "µs"
  else toString nanos ++ "ns"

/-- A request sent to the client and not answered yet. -/
structure Question where
  id : RequestId
  timeout : Option Nat
  deadline : Option Nat
  deriving DecidableEq

def Question.ask (id : RequestId) (timeout : Option Nat) (instant : Nat) : Question :=
  ⟨id,timeout,timeout.map fun budget => instant + budget⟩

/-- The deadline has been reached. -/
def Question.due (question : Question) (instant : Nat) : Bool :=
  question.deadline.any fun deadline => deadline ≤ instant

def Question.timedOut (question : Question) : McpError :=
  .timeout ("no response to request " ++ question.id.debug)

/-- Every message of a task carries the related-task key; `none` is a tool outside a
task. Parameters that are not an object, and a `_meta` that is not, are left alone. -/
def tagWithTask (taskId : Option String) (params : Option Json) : Option Json :=
  match taskId with
  | none => params
  | some taskId =>
    match params.getD (.obj []) with
    | .obj fields =>
      match (JsonMap.lookup "_meta" fields).getD (.obj []) with
      | .obj existing => some (.obj (JsonMap.insert "_meta" (.obj (JsonMap.insert relatedTask
          (.obj [("taskId",.str taskId)]) existing)) fields))
      | _ => some (.obj fields)
    | other => some other

def cancelledNotification : String := "notifications/cancelled"

def notificationMessage (method : String) (params : Option Json) : JsonRpcMessage :=
  .notification ⟨method,params⟩

/-- Stop waiting for `id`, and tell the client so. -/
def Shared.giveUp (shared : Shared) (taskId : Option String) (id : RequestId) (reason : String) :
    Shared :=
  (shared.setBroker (shared.broker.abandon id)).tryWrite
    (notificationMessage cancelledNotification (tagWithTask taskId (some (.obj
      (JsonMap.ofMembers [("requestId",some id.toJson),("reason",some (.str reason))])))))

/-- What follows a wait, whatever ended it: a timeout and a cancelled task are given
up on, everything else is final already. -/
def Shared.afterWait (shared : Shared) (taskId : Option String) (cancelled : Bool)
    (question : Question) (outcome : Except McpError Json) : Shared :=
  match outcome with
  | .error (.timeout _) => shared.giveUp taskId question.id
      ("no response within " ++ durationDebug (question.timeout.getD 0))
  | .error _ =>
    if cancelled then shared.giveUp taskId question.id "the task was cancelled" else shared
  | .ok _ => shared

/-! ## What a task stores -/

/-- How a worker classifies the end of its tool. Serialization cannot fail here. -/
def ToolCall.workerOutcome (call : ToolCall C) (executed : Executed) :
    TaskStatus × TaskOutcome :=
  match executed with
  | .panicked message =>
    (.failed,.error (.internalError ("task worker panicked: " ++ message)))
  | .returned (.ok result) =>
    if result.isError then (.failed,.value result.toJson)
    else match checkOutput call.entry.tool.name call.entry.output result with
      | .error problem => (.failed,.error problem.toJsonrpcError)
      | .ok () => (.completed,.value result.toJson)
  | .returned (.error (.toolError message)) =>
    (.failed,.value (CallToolResult.error message).toJson)
  | .returned (.error (.invalidParams message)) =>
    (.failed,.value (CallToolResult.error message).toJson)
  | .returned (.error other) => (.failed,.error other.toJsonrpcError)

/-- Whatever the end, the task is over. -/
theorem workerOutcome_terminal (call : ToolCall C) (executed : Executed) :
    (call.workerOutcome executed).1.isTerminal = true := by
  unfold ToolCall.workerOutcome
  split
  · rfl
  · split
    · rfl
    · split <;> rfl
  · rfl
  · rfl
  · rfl

/-! ## The worker -/

inductive WorkerPhase (C : Type) where
  | gated
  | building
  | running (prog : ToolProg C)
  | allocated (question : Question) (request : JsonRpcRequest)
      (next : Except McpError Json → ToolProg C)
  | registered (question : Question) (channel : Nat) (request : JsonRpcRequest)
      (next : Except McpError Json → ToolProg C)
  | asking (question : Question) (channel : Nat) (receiving : Bool)
      (next : Except McpError Json → ToolProg C)
  | finishing (status : TaskStatus) (outcome : TaskOutcome)
  | announcing
  | ended
  | unwound (message : String)

/-- `canAsk` is whether the server can pump, without which a question is refused. -/
structure Worker (C : Type) where
  start : TaskStart C
  view : EnvView
  canAsk : Bool
  startedAt : Nat
  gateOpen : Bool
  phase : WorkerPhase C

/-- Five seconds: how long a worker waits for its task to be announced. -/
def gatePatience : Nat := 5000000000

namespace Worker

def taskId (worker : Worker C) : String := worker.start.task.taskId

def goto (worker : Worker C) (phase : WorkerPhase C) : Worker C := { worker with phase := phase }

def isCancelled (worker : Worker C) (shared : Shared) : Bool :=
  shared.store.flags[worker.start.cancelled]?.getD false

def setTaskStatus (worker : Worker C) (shared : Shared) (status : TaskStatus) : Shared :=
  shared.setStore (shared.store.setStatus shared.now worker.taskId status).1

def questionRefused (method : String) : McpError :=
  .internal ("`" ++ method ++ "` needs a response from the client, which is not possible here: " ++
    "nothing is reading the transport on this thread")

/-- The wait for a question is over. -/
def settle (worker : Worker C) (shared : Shared) (question : Question)
    (next : Except McpError Json → ToolProg C) (outcome : Except McpError Json) :
    Shared × Worker C :=
  let working := worker.setTaskStatus shared .working
  (working.afterWait (some worker.taskId) (worker.isCancelled working) question outcome,
    worker.goto (.running (next outcome)))

/-- One call of the tool on its environment; `answer` is what an observation reads. -/
def runTool (worker : Worker C) (shared : Shared) (answer : Json) (prog : ToolProg C) :
    Option (Shared × Worker C) :=
  match prog with
  | .returned _ result =>
    let (status,outcome) := worker.start.call.workerOutcome (.returned result)
    some (shared,worker.goto (.finishing status outcome))
  | .panicked _ message =>
    let (status,outcome) := worker.start.call.workerOutcome (.panicked message)
    some (shared,worker.goto (.finishing status outcome))
  | .notify method params next =>
    let (after,sent) := shared.write
      (notificationMessage method (tagWithTask (some worker.taskId) params))
    some (after,worker.goto (.running (next sent)))
  | .request method params timeout next =>
    if worker.canAsk then
      match shared.broker.nextRequestId with
      | none => none
      | some (broker,id) => some (shared.setBroker broker,worker.goto (.allocated
          (.ask id timeout shared.instant)
          ⟨id,method,tagWithTask (some worker.taskId) (some params)⟩ next))
    else some (shared,worker.goto (.running (next (.error (questionRefused method)))))
  | .checkCancelled next =>
    some (shared,worker.goto (.running (next (worker.isCancelled shared))))
  | .observe next => some (shared,worker.goto (.running (next answer)))

/-- The wait itself: look up for a cancelled task and for the deadline, then receive. -/
def await (worker : Worker C) (shared : Shared) (question : Question) (channel : Nat)
    (receiving : Bool) (next : Except McpError Json → ToolProg C) : Shared × Worker C :=
  if !receiving then
    if worker.isCancelled shared then
      worker.settle shared question next (.error (.internal
        ("`" ++ question.id.debug ++ "` abandoned: the task was cancelled")))
    else if question.due shared.instant then
      worker.settle shared question next (.error question.timedOut)
    else (shared,worker.goto (.asking question channel true next))
  else match shared.broker.receive channel with
    | .response response =>
      worker.settle shared question next (RequestBroker.intoResult response)
    | .disconnected => worker.settle shared question next (.error (.internal
        ("the response to " ++ question.id.debug ++ " can no longer be delivered")))
    | .empty => (shared,worker.goto (.asking question channel false next))

/-- Best-effort news that the task has changed. -/
def announce (worker : Worker C) (shared : Shared) : Shared :=
  match shared.store.get shared.now worker.taskId worker.start.owner with
  | (after,.ok task) => (shared.setStore after).tryWrite
      (notificationMessage "notifications/tasks/status" (some task.toJson))
  | (after,.error _) => shared.setStore after

/-- One step of the worker thread. The context factory runs outside the panic guard. -/
def step (worker : Worker C) (shared : Shared) (answer : Json) : Option (Shared × Worker C) :=
  match worker.phase with
  | .gated =>
    if worker.gateOpen || gatePatience ≤ shared.instant - worker.startedAt then
      some (shared,worker.goto .building)
    else none
  | .building =>
    match worker.start.factory with
    | .error message => some (shared,worker.goto (.unwound message))
    | .ok context => some (shared,worker.goto (.running
        (worker.start.call.entry.tool.execute worker.start.call.arguments context worker.view)))
  | .running prog => worker.runTool shared answer prog
  | .allocated question request next =>
    let (broker,channel) := shared.broker.registerWaiter question.id
    some (shared.setBroker broker,worker.goto (.registered question channel request next))
  | .registered question channel request next =>
    match shared.write (.request request) with
    | (after,.ok ()) => some (worker.setTaskStatus after .inputRequired,
        worker.goto (.asking question channel false next))
    | (after,.error e) => some (after.setBroker (after.broker.abandon question.id),
        worker.goto (.running (next (.error e))))
  | .asking question channel receiving next =>
    some (worker.await shared question channel receiving next)
  | .finishing status outcome =>
    some (shared.setStore (shared.store.finish shared.now worker.taskId status outcome),
      worker.goto .announcing)
  | .announcing => some (worker.announce shared,worker.goto .ended)
  | .ended => none
  | .unwound _ => none

/-- A question draws an id, or there is nobody to ask. -/
theorem runTool_request {worker next : Worker C} {shared after : Shared} {answer : Json}
    {method : String} {params : Json} {timeout : Option Nat}
    {continue_ : Except McpError Json → ToolProg C}
    (taken : worker.runTool shared answer (.request method params timeout continue_) =
      some (after,next)) :
    (∃ broker id, worker.canAsk = true ∧ shared.broker.nextRequestId = some (broker,id) ∧
      after = shared.setBroker broker ∧ next = worker.goto (.allocated
        (.ask id timeout shared.instant)
        ⟨id,method,tagWithTask (some worker.taskId) (some params)⟩ continue_)) ∨
    (worker.canAsk = false ∧ after = shared ∧
      next = worker.goto (.running (continue_ (.error (questionRefused method))))) := by
  simp only [runTool] at taken
  cases asks : worker.canAsk with
  | true =>
    rw [asks,if_pos rfl] at taken
    split at taken
    · cases taken
    · rename_i broker id drawn
      cases taken
      exact .inl ⟨broker,id,rfl,drawn,rfl,rfl⟩
  | false =>
    rw [asks,if_neg Bool.false_ne_true] at taken
    cases taken
    exact .inr ⟨rfl,rfl,rfl⟩

/-- What a step of the thread is, by where the thread stood. -/
inductive Taken (worker : Worker C) (shared : Shared) (answer : Json) : Shared → Worker C → Prop
  | gated (gated : worker.phase = .gated)
      (opens : worker.gateOpen = true ∨ gatePatience ≤ shared.instant - worker.startedAt) :
      Taken worker shared answer shared (worker.goto .building)
  | unwound {message : String} (building : worker.phase = .building)
      (panics : worker.start.factory = .error message) :
      Taken worker shared answer shared (worker.goto (.unwound message))
  | built {context : C} (building : worker.phase = .building)
      (made : worker.start.factory = .ok context) :
      Taken worker shared answer shared (worker.goto (.running
        (worker.start.call.entry.tool.execute worker.start.call.arguments context worker.view)))
  | running {prog : ToolProg C} {after : Shared} {next : Worker C}
      (running : worker.phase = .running prog)
      (ran : worker.runTool shared answer prog = some (after,next)) :
      Taken worker shared answer after next
  | allocated {question : Question} {request : JsonRpcRequest}
      {continue_ : Except McpError Json → ToolProg C}
      (allocated : worker.phase = .allocated question request continue_) :
      Taken worker shared answer
        (shared.setBroker (shared.broker.registerWaiter question.id).1)
        (worker.goto (.registered question (shared.broker.registerWaiter question.id).2 request
          continue_))
  | sent {question : Question} {channel : Nat} {request : JsonRpcRequest} {sent : Shared}
      {continue_ : Except McpError Json → ToolProg C}
      (registered : worker.phase = .registered question channel request continue_)
      (wrote : shared.write (.request request) = (sent,.ok ())) :
      Taken worker shared answer (worker.setTaskStatus sent .inputRequired)
        (worker.goto (.asking question channel false continue_))
  | unsent {question : Question} {channel : Nat} {request : JsonRpcRequest} {failed : Shared}
      {e : McpError} {continue_ : Except McpError Json → ToolProg C}
      (registered : worker.phase = .registered question channel request continue_)
      (wrote : shared.write (.request request) = (failed,.error e)) :
      Taken worker shared answer (failed.setBroker (failed.broker.abandon question.id))
        (worker.goto (.running (continue_ (.error e))))
  | asking {question : Question} {channel : Nat} {receiving : Bool}
      {continue_ : Except McpError Json → ToolProg C}
      (asking : worker.phase = .asking question channel receiving continue_) :
      Taken worker shared answer (worker.await shared question channel receiving continue_).1
        (worker.await shared question channel receiving continue_).2
  | finishing {status : TaskStatus} {outcome : TaskOutcome}
      (finishing : worker.phase = .finishing status outcome) :
      Taken worker shared answer
        (shared.setStore (shared.store.finish shared.now worker.taskId status outcome))
        (worker.goto .announcing)
  | announcing (announcing : worker.phase = .announcing) :
      Taken worker shared answer (worker.announce shared) (worker.goto .ended)

/-- The laws of a worker take its steps apart by this alone. -/
theorem step_taken {worker next : Worker C} {shared after : Shared} {answer : Json}
    (taken : worker.step shared answer = some (after,next)) :
    Taken worker shared answer after next := by
  cases phase : worker.phase with
  | gated =>
    simp only [step,phase] at taken
    split at taken <;> cases taken
    rename_i opens
    exact .gated phase (by simpa using opens)
  | building =>
    simp only [step,phase] at taken
    split at taken <;> cases taken
    · rename_i panics
      exact .unwound phase panics
    · rename_i made
      exact .built phase made
  | running prog =>
    simp only [step,phase] at taken
    exact .running phase taken
  | allocated question request continue_ =>
    simp only [step,phase] at taken
    cases taken
    exact .allocated phase
  | registered question channel request continue_ =>
    simp only [step,phase] at taken
    split at taken <;> cases taken
    · rename_i wrote
      exact .sent phase wrote
    · rename_i wrote
      exact .unsent phase wrote
  | asking question channel receiving continue_ =>
    simp only [step,phase,Option.some.injEq,Prod.ext_iff] at taken
    obtain ⟨rfl,rfl⟩ := taken
    exact .asking phase
  | finishing status outcome =>
    simp only [step,phase] at taken
    cases taken
    exact .finishing phase
  | announcing =>
    simp only [step,phase] at taken
    cases taken
    exact .announcing phase
  | ended | unwound =>
    simp only [step,phase] at taken
    cases taken

end Worker

/-! ## Frame lemmas: what the shared operations leave alone -/

namespace Shared

@[simp] theorem setStore_store (shared : Shared) (store : TaskStore) :
    (shared.setStore store).store = store := rfl

@[simp] theorem setBroker_store (shared : Shared) (broker : RequestBroker) :
    (shared.setBroker broker).store = shared.store := rfl

@[simp] theorem setBroker_broker (shared : Shared) (broker : RequestBroker) :
    (shared.setBroker broker).broker = broker := rfl

@[simp] theorem setStore_broker (shared : Shared) (store : TaskStore) :
    (shared.setStore store).broker = shared.broker := rfl

@[simp] theorem write_store (shared : Shared) (message : JsonRpcMessage) :
    (shared.write message).1.store = shared.store := by
  unfold write
  split <;> rfl

@[simp] theorem write_broker (shared : Shared) (message : JsonRpcMessage) :
    (shared.write message).1.broker = shared.broker := by
  unfold write
  split <;> rfl

@[simp] theorem tryWrite_store (shared : Shared) (message : JsonRpcMessage) :
    (shared.tryWrite message).store = shared.store := write_store shared message

@[simp] theorem tryWrite_broker (shared : Shared) (message : JsonRpcMessage) :
    (shared.tryWrite message).broker = shared.broker := write_broker shared message

@[simp] theorem write_instant (shared : Shared) (message : JsonRpcMessage) :
    (shared.write message).1.instant = shared.instant := by
  unfold write
  split <;> rfl

@[simp] theorem tryWrite_instant (shared : Shared) (message : JsonRpcMessage) :
    (shared.tryWrite message).instant = shared.instant := write_instant shared message

@[simp] theorem giveUp_instant (shared : Shared) (taskId : Option String) (id : RequestId)
    (reason : String) : (shared.giveUp taskId id reason).instant = shared.instant := by
  unfold giveUp
  rw [tryWrite_instant]
  rfl

@[simp] theorem afterWait_instant (shared : Shared) (taskId : Option String) (cancelled : Bool)
    (question : Question) (outcome : Except McpError Json) :
    (shared.afterWait taskId cancelled question outcome).instant = shared.instant := by
  unfold afterWait
  split
  · simp
  · split <;> simp
  · rfl

@[simp] theorem giveUp_store (shared : Shared) (taskId : Option String) (id : RequestId)
    (reason : String) : (shared.giveUp taskId id reason).store = shared.store := by
  unfold giveUp
  simp

@[simp] theorem afterWait_store (shared : Shared) (taskId : Option String) (cancelled : Bool)
    (question : Question) (outcome : Except McpError Json) :
    (shared.afterWait taskId cancelled question outcome).store = shared.store := by
  unfold afterWait
  split
  · simp
  · split <;> simp
  · rfl

end Shared

/-- The worker a launch spawns. -/
def TaskStart.worker (start : TaskStart C) (server : Server C) (instant : Nat) : Worker C where
  start := start
  view := ⟨server.logLevel,if server.canPump then server.clientCapabilities else .default,
    some start.task.taskId,start.call.progressToken,server.config.requestTimeout⟩
  canAsk := server.canPump
  startedAt := instant
  gateOpen := false
  phase := .gated

/-- A launch after the record exists: the tool is asked for its immediate response,
then the thread is spawned. A failed spawn fails the task; a panic unwinds. -/
def TaskStart.launch (start : TaskStart C) (server : Server C) (shared : Shared)
    (spawnError : Option String) :
    Except String (Shared × Option (Worker C) × Except McpError Json) :=
  match start.call.entry.tool.modelImmediateResponse with
  | .error panic => .error panic
  | .ok immediate =>
    match spawnError with
    | none => .ok (shared,some (start.worker server shared.instant),
        .ok (createTaskResult start.task immediate))
    | some reason =>
      let message := "failed to spawn task worker: " ++ reason
      .ok (shared.setStore (shared.store.finish shared.now start.task.taskId .failed
        (.error (.internalError message))),none,.error (.internal message))

end SmlMcps
