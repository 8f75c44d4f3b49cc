import SmlMcps.Library.Runs
import SmlMcps.LoopAnswers

/-! The order in which the main loop handles its messages. The queue is first in, first
out and the main loop reads only when it is empty, so a run handles what is the main
loop's in the order it arrived; and once the loop has caught up, every request that
arrived has been answered once. -/
namespace SmlMcps

variable {C : Type}

namespace ServerLoop

def queue (loop : ServerLoop C) : List JsonRpcMessage := loop.shared.broker.deferred

@[simp] theorem queue_goto (loop : ServerLoop C) (mode : LoopMode C) :
    (loop.goto mode).queue = loop.queue := rfl

@[simp] theorem queue_writeMessage (loop : ServerLoop C) (message : JsonRpcMessage) :
    (loop.writeMessage message).1.queue = loop.queue :=
  congrArg RequestBroker.deferred (Shared.write_broker loop.shared message)

@[simp] theorem queue_thenIdle (written : ServerLoop C × Except McpError Unit) :
    (thenIdle written).queue = written.1.queue := by
  unfold thenIdle
  split <;> rfl

@[simp] theorem queue_thenPump (request : JsonRpcRequest) (taskId : String)
    (written : ServerLoop C × Except McpError Unit) :
    (thenPump request taskId written).queue = written.1.queue := by
  unfold thenPump
  split <;> rfl

theorem queue_silent {loop next : ServerLoop C} (silent : Silent loop.shared next.shared) :
    next.queue = loop.queue := silent.deferred

@[simp] theorem queue_settle (loop : ServerLoop C) (request : JsonRpcRequest) (call : ToolCall C)
    (question : Question) (next : Except McpError Json → ToolProg C)
    (outcome : Except McpError Json) :
    (loop.settle request call question next outcome).queue = loop.queue :=
  queue_silent (settle_silent loop request call question next outcome)

theorem queue_dispatch (loop : ServerLoop C) (request : JsonRpcRequest) (freshId : String) :
    (loop.dispatch request freshId).queue = loop.queue := by
  unfold dispatch
  split
  rename_i server store next _
  cases next with
  | await taskId => by_cases pump : server.canPump = true <;> simp [pump] <;> rfl
  | _ => rfl

theorem queue_handleMessage (loop : ServerLoop C) (message : JsonRpcMessage) (freshId : String) :
    (loop.handleMessage message freshId).queue = loop.queue := by
  cases message with
  | request asked => exact queue_dispatch loop asked freshId
  | notification notification => exact handleNotification_deferred _ _
  | response given => exact RequestBroker.deliver_deferred _ _

theorem queue_readMain (loop : ServerLoop C) (event : Except McpError JsonRpcMessage)
    (freshId : String) : (loop.readMain event freshId).queue = loop.queue := by
  unfold readMain
  split
  · exact queue_handleMessage loop _ freshId
  · rfl
  · rfl
  · split
    · simp
    · rfl

theorem queue_shedOrDefer (loop : ServerLoop C) (message : JsonRpcMessage) :
    (loop.shedOrDefer message).1.queue = loop.queue ∨
      (loop.shedOrDefer message).1.queue = loop.queue ++ [message] := by
  unfold shedOrDefer RequestBroker.defer
  split
  · rename_i broker queued
    split at queued
    · cases queued
    · cases queued
      exact .inr rfl
  · left
    split
    · exact queue_writeMessage _ _
    · rfl

theorem queue_shedOrDeferQuietly (loop : ServerLoop C) (message : JsonRpcMessage) :
    (loop.shedOrDeferQuietly message).queue = (loop.shedOrDefer message).1.queue := by
  unfold shedOrDeferQuietly shedOrDefer
  split
  · rfl
  · split
    · rw [queue_writeMessage]
      exact congrArg RequestBroker.deferred (Shared.tryWrite_broker loop.shared _)
    · rfl

/-- A reader inside a wait leaves the queue alone or appends what it read. -/
def Queued (loop next : ServerLoop C) (event : Except McpError JsonRpcMessage) : Prop :=
  next.queue = loop.queue ∨ ∃ message, event = .ok message ∧ next.queue = loop.queue ++ [message]

theorem queued_readPump (loop : ServerLoop C) (request : JsonRpcRequest) (taskId : String)
    (event : Except McpError JsonRpcMessage) (freshId : String) :
    Queued loop (loop.readPump request taskId event freshId) event := by
  have deferring : ∀ other : JsonRpcMessage,
      Queued loop (thenPump request taskId (loop.shedOrDefer other)) (.ok other) := by
    intro other
    rcases queue_shedOrDefer loop other with same | longer
    · exact .inl ((queue_thenPump _ _ _).trans same)
    · exact .inr ⟨other,rfl,(queue_thenPump _ _ _).trans longer⟩
  cases event with
  | error e =>
    left
    simp only [readPump]
    split
    · rfl
    · split
      · simp
      · rfl
    all_goals contradiction
  | ok message =>
    cases message with
    | notification notification => exact deferring (.notification notification)
    | response given => exact .inl (RequestBroker.deliver_deferred _ _)
    | request asked =>
      simp only [readPump]
      split
      · left
        rw [queue_thenPump,queue_writeMessage]
        rfl
      · exact deferring (.request asked)

theorem queued_readAsking (loop : ServerLoop C) (request : JsonRpcRequest) (call : ToolCall C)
    (question : Question) (next : Except McpError Json → ToolProg C)
    (event : Except McpError JsonRpcMessage) :
    Queued loop (loop.readAsking request call question next event) event := by
  have aside : ∀ other : JsonRpcMessage, Queued loop (if cancelledHere other question.id then
        (loop.withBroker (loop.shared.broker.abandon question.id)).settle request call question
          next (.error (.internal ("the client cancelled request " ++ question.id.debug)))
      else (loop.shedOrDeferQuietly other).goto (.asking request call question false next))
      (.ok other) := by
    intro other
    split
    · exact .inl (queue_settle _ _ _ _ _ _)
    · rcases queue_shedOrDefer loop other with same | longer
      · exact .inl ((queue_shedOrDeferQuietly loop other).trans same)
      · exact .inr ⟨other,rfl,(queue_shedOrDeferQuietly loop other).trans longer⟩
  cases event with
  | error e => exact .inl (queue_settle _ _ _ _ _ _)
  | ok message =>
    cases message with
    | notification notification => exact aside (.notification notification)
    | request asked => exact aside (.request asked)
    | response given =>
      simp only [readAsking]
      split
      · exact .inl (queue_settle _ _ _ _ _ _)
      · exact .inl (RequestBroker.deliver_deferred _ _)

theorem queue_look {loop next : ServerLoop C} (taken : loop.lookStep = some next) :
    next.queue = loop.queue := by
  unfold lookStep at taken
  split at taken
  · cases taken
    unfold pumpLook
    split <;> rfl
  · cases taken
    unfold blockedLook
    simp only
    split <;> rfl
  · rename_i question continue_ asking
    cases taken
    have parked := loop.shared.broker.takeParked_deferred question.id
    unfold askLook
    split
    · rename_i broker response found
      rw [found] at parked
      exact (queue_settle _ _ _ _ _ _).trans parked
    · split
      · exact queue_settle _ _ _ _ _ _
      · rfl
  · cases taken

theorem queue_runTool {loop after : ServerLoop C} {request : JsonRpcRequest} {call : ToolCall C}
    {prog : ToolProg C} {answer : Json}
    (taken : loop.runTool request call answer prog = some after) : after.queue = loop.queue := by
  cases prog with
  | returned context result => cases taken; rfl
  | panicked context message => cases taken; rfl
  | notify method params next =>
    cases taken
    exact congrArg RequestBroker.deferred (Shared.write_broker loop.shared _)
  | request method params timeout next =>
    obtain ⟨broker,fresh,sent,drawn,ends⟩ := runTool_request taken
    have issued := silent_setBroker loop.shared (RequestBroker.nextRequestId_deferred drawn)
    rcases ends with ⟨wrote,rfl⟩ | ⟨e,wrote,rfl⟩
    · exact (issued.trans (silent_written wrote fun _ => rfl)).deferred
    · exact (issued.trans (silent_written wrote fun _ => rfl)).deferred
  | checkCancelled next => cases taken; rfl
  | observe next => cases taken; rfl

theorem queue_launchTask (loop : ServerLoop C) (request : JsonRpcRequest) (start : TaskStart C)
    (spawnError : Option String) :
    (loop.launchTask request start spawnError).queue = loop.queue := by
  unfold launchTask TaskStart.launch
  cases start.call.entry.tool.modelImmediateResponse with
  | error message => rfl
  | ok text => cases spawnError <;> rfl

end ServerLoop

/-! ## The ledger of a run -/

/-- What a run has read off the wire, what of it was the main loop's to handle, and
what the main loop has handled, each in order. -/
structure Ledger where
  arrived : List JsonRpcMessage
  owed : List JsonRpcMessage
  handled : List JsonRpcMessage

def Ledger.empty : Ledger := ⟨[],[],[]⟩

/-- A message is the main loop's to handle when the main loop reads it, and when
another reader appends it to the queue. -/
def Ledger.record (loop : ServerLoop C) (label : LoopLabel) (next : ServerLoop C)
    (ledger : Ledger) : Ledger :=
  match label with
  | .read (.ok message) _ =>
    match loop.mode with
    | .idle => ⟨ledger.arrived ++ [message],ledger.owed ++ [message],ledger.handled ++ [message]⟩
    | _ => { ledger with
        arrived := ledger.arrived ++ [message]
        owed := if loop.queue.length < next.queue.length then ledger.owed ++ [message]
          else ledger.owed }
  | .replay _ => { ledger with handled := ledger.handled ++ loop.queue.head?.toList }
  | _ => ledger

/-- What the main loop has handled, followed by the queue, is what was its to handle,
in the order it arrived. -/
structure Ledger.InOrder (ledger : Ledger) (queue : List JsonRpcMessage) : Prop where
  owed : ledger.owed = ledger.handled ++ queue
  arrived : ledger.owed.Sublist ledger.arrived

theorem inOrder_read {loop next : ServerLoop C} {event : Except McpError JsonRpcMessage}
    {freshId : String} {ledger : Ledger} (order : ledger.InOrder loop.queue)
    (queued : ServerLoop.Queued loop next event) (busy : loop.mode ≠ .idle) :
    (Ledger.record loop (.read event freshId) next ledger).InOrder next.queue := by
  cases event with
  | error e =>
    rcases queued with same | ⟨message,read,_⟩
    · rw [same]
      exact order
    · cases read
  | ok message =>
    have recorded : Ledger.record loop (.read (.ok message) freshId) next ledger =
        { ledger with
          arrived := ledger.arrived ++ [message]
          owed := if loop.queue.length < next.queue.length then ledger.owed ++ [message]
            else ledger.owed } := by
      unfold Ledger.record
      split
      · rename_i read
        cases read
        split
        · rename_i idle
          exact absurd idle busy
        · rfl
      · rename_i read
        cases read
      · rename_i other _
        exact absurd rfl (other message freshId)
    rw [recorded]
    rcases queued with same | ⟨queuedMessage,read,longer⟩
    · rw [same,if_neg (Nat.lt_irrefl _)]
      exact ⟨order.owed,order.arrived.trans (List.sublist_append_left _ _)⟩
    · cases read
      have grown : loop.queue.length < next.queue.length := by
        rw [longer,List.length_append]
        exact Nat.lt_succ_self _
      rw [if_pos grown]
      refine ⟨?_,order.arrived.append (.refl _)⟩
      rw [longer,order.owed,List.append_assoc]

theorem inOrder_step {loop next : ServerLoop C} {label : LoopLabel} {ledger : Ledger}
    (order : ledger.InOrder loop.queue) (taken : loop.step label = some next) :
    (Ledger.record loop label next ledger).InOrder next.queue := by
  cases ServerLoop.step_taken taken with
  | @readMain event freshId idle drained =>
    rw [ServerLoop.queue_readMain]
    have empty : loop.queue = [] := List.isEmpty_iff.mp drained
    have caught : ledger.owed = ledger.handled := by
      rw [order.owed,empty,List.append_nil]
    cases event with
    | error e => exact order
    | ok message =>
      simp only [Ledger.record,idle]
      refine ⟨?_,order.arrived.append (.refl _)⟩
      rw [empty,caught,List.append_nil]
  | readPump pumping =>
    exact inOrder_read order (ServerLoop.queued_readPump _ _ _ _ _) (by simp [pumping])
  | readAsking asking =>
    exact inOrder_read order (ServerLoop.queued_readAsking _ _ _ _ _ _) (by simp [asking])
  | @replay freshId broker message idle owed =>
    rw [ServerLoop.queue_handleMessage]
    unfold RequestBroker.nextDeferred at owed
    split at owed
    · cases owed
    · rename_i head rest queue
      cases owed
      have front : loop.queue = message :: rest := queue
      refine ⟨?_,order.arrived⟩
      simp only [Ledger.record,order.owed,front,List.head?_cons,Option.toList_some]
      exact (List.append_assoc _ [message] rest).symm
  | pumpLook | blockedLook | askLook =>
    have same := ServerLoop.queue_look taken
    rw [same]
    exact order
  | run running ran =>
    rw [ServerLoop.queue_runTool ran]
    exact order
  | launch =>
    rw [ServerLoop.queue_launchTask]
    exact order
  | reply =>
    rw [ServerLoop.queue_thenIdle,ServerLoop.queue_writeMessage]
    exact order
  | work there worked =>
    refine ⟨?_,order.arrived⟩
    rw [ServerLoop.queue_silent (Worker.step_silent worked)]
    exact order.owed
  | clock | wire => exact order

/-! ## Every run -/

/-- The loop is between messages, or has ended, and its queue is empty. -/
def ServerLoop.Drained (loop : ServerLoop C) : Prop :=
  (loop.mode = .idle ∨ ∃ result, loop.mode = .stopped result) ∧ loop.queue = []

theorem ServerLoop.Drained.balance {loop : ServerLoop C} (drained : loop.Drained)
    (id : RequestId) : loop.balance id = responsesFor id loop.shared.written := by
  obtain ⟨between,empty⟩ := drained
  have none : loop.shared.broker.deferred = [] := empty
  rcases between with idle | ⟨result,stopped⟩
  · simp [ServerLoop.balance,idle,none,LoopMode.owes]
  · simp [ServerLoop.balance,stopped,none,LoopMode.owes]

theorem Ledger.arrived_record (loop : ServerLoop C) (label : LoopLabel) (next : ServerLoop C)
    (ledger : Ledger) :
    (Ledger.record loop label next ledger).arrived = ledger.arrived ++ label.arrivals := by
  cases label with
  | read event freshId =>
    cases event with
    | ok message =>
      simp only [record,LoopLabel.arrivals]
      split <;> rfl
    | error e => exact (List.append_nil _).symm
  | _ => exact (List.append_nil _).symm

structure Accounted (state : ServerLoop C × Ledger) : Prop where
  order : state.2.InOrder state.1.queue
  balance : ∀ id, state.1.balance id = requestsFor id state.2.arrived

theorem accounted_step (state : ServerLoop C × Ledger) (label : LoopLabel)
    (next : ServerLoop C × Ledger) (accounted : Accounted state)
    (obliging : state.1.obliging label = true)
    (observed : Runs.observed ServerLoop.step Ledger.record state label = some next) :
    Accounted next := by
  obtain ⟨taken,recorded⟩ := Runs.observed_step observed
  refine ⟨?_,fun id => ?_⟩
  · rw [recorded]
    exact inOrder_step accounted.order taken
  · rw [recorded,Ledger.arrived_record,requestsFor_append,← accounted.balance id]
    exact ServerLoop.step_balance obliging taken id

/-- The main loop handles what is its own in the order it arrived, and once it has
caught up every request that arrived has been answered once, whichever loop read it. -/
theorem every_request_answered_once (server : Server C) (context : C) (store : TaskStore)
    (now : SystemTime) (instant : Nat) (labels : List LoopLabel) (loop : ServerLoop C)
    (ledger : Ledger)
    (run : Runs.execute (Runs.observed ServerLoop.step Ledger.record)
      (ServerLoop.start server context store now instant,Ledger.empty) labels = some (loop,ledger))
    (guarded : Runs.Guarded (Runs.observed ServerLoop.step Ledger.record)
      (fun state label => state.1.obliging label = true)
      (ServerLoop.start server context store now instant,Ledger.empty) labels) :
    ledger.InOrder loop.queue ∧
      (loop.Drained → ∀ id, responsesFor id loop.shared.written = requestsFor id ledger.arrived) := by
  have started : Accounted (ServerLoop.start server context store now instant,Ledger.empty) :=
    ⟨⟨rfl,.refl _⟩,fun _ => rfl⟩
  have whole : Accounted (loop,ledger) :=
    Runs.guarded_invariant accounted_step guarded run started
  refine ⟨whole.order,?_⟩
  intro drained id
  rw [← drained.balance id]
  exact whole.balance id

/-! ### One conversation -/

def askingServer : Server Unit :=
  { Server.new (ServerConfig.default "0.7.3" ⟨id,some⟩) with
    tools := AList.insert "ask" ⟨.asking "ask" "elicitation/create",none,.none⟩ ∅ }

def callAsk : JsonRpcMessage := .request ⟨.number 1,"tools/call",some (.obj [("name",.str "ask")])⟩

def ping : JsonRpcMessage := .request ⟨.number 2,"ping",none⟩

/-- A ping arrives while the tool waits for its answer, and is handled after the call. -/
def conversation : List LoopLabel :=
  [.read (.ok callAsk) "",.run .null,.look,.read (.ok ping) "",.look,
    .read (.ok (.response ⟨.string "sml-0",some (.obj []),none⟩)) "",.run .null,.reply,
    .replay "",.reply]

theorem conversation_answered :
    ∃ loop ledger, Runs.execute (Runs.observed ServerLoop.step Ledger.record)
        (ServerLoop.start askingServer () (.new .default) 0 0,Ledger.empty) conversation =
          some (loop,ledger) ∧ loop.Drained ∧
      ledger.InOrder loop.queue ∧
      ∀ id, responsesFor id loop.shared.written = requestsFor id ledger.arrived :=
  have whole := every_request_answered_once askingServer () (.new .default) 0 0 conversation _ _
    rfl (by decide +kernel)
  ⟨_,_,rfl,⟨.inl rfl,rfl⟩,whole.1,whole.2 ⟨.inl rfl,rfl⟩⟩

end SmlMcps
