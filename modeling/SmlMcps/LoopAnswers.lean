import SmlMcps.ServerLoop

/-! What becomes of every client request. At any moment the requests that have arrived
are the ones answered, the one the loop is busy with, and the ones in the deferred
queue: each step moves requests between these and loses none. -/
namespace SmlMcps

variable {C : Type}

/-! ## Counting -/

def JsonRpcMessage.asksWith (id : RequestId) : JsonRpcMessage → Bool
  | .request asked => asked.id == id
  | _ => false

def JsonRpcMessage.answersWith (id : RequestId) : JsonRpcMessage → Bool
  | .response given => given.id == id
  | _ => false

def requestsFor (id : RequestId) (messages : List JsonRpcMessage) : Nat :=
  messages.countP fun message => message.asksWith id

def responsesFor (id : RequestId) (messages : List JsonRpcMessage) : Nat :=
  messages.countP fun message => message.answersWith id

/-- One if the loop is busy with a request of this id. -/
def LoopMode.owes (id : RequestId) : LoopMode C → Nat
  | .running request _ _ | .asking request _ _ _ _ | .launching request _
  | .pumping request _ _ | .blocked request _ _ => if request.id = id then 1 else 0
  | .replying answered _ => if answered = id then 1 else 0
  | .idle | .stopped _ | .unwound _ => 0

/-- The requests of this id that have been answered, or will be. -/
def ServerLoop.balance (id : RequestId) (loop : ServerLoop C) : Nat :=
  responsesFor id loop.shared.written + loop.mode.owes id +
    requestsFor id loop.shared.broker.deferred

def LoopLabel.arrivals : LoopLabel → List JsonRpcMessage
  | .read (.ok message) _ => [message]
  | _ => []

@[simp] theorem requestsFor_nil (id : RequestId) : requestsFor id [] = 0 := rfl

@[simp] theorem requestsFor_append (id : RequestId) (front back : List JsonRpcMessage) :
    requestsFor id (front ++ back) = requestsFor id front + requestsFor id back :=
  List.countP_append

@[simp] theorem responsesFor_append (id : RequestId) (front back : List JsonRpcMessage) :
    responsesFor id (front ++ back) = responsesFor id front + responsesFor id back :=
  List.countP_append

@[simp] theorem requestsFor_request (id : RequestId) (request : JsonRpcRequest) :
    requestsFor id [.request request] = if request.id = id then 1 else 0 := by
  simp [requestsFor,JsonRpcMessage.asksWith,List.countP_cons]

@[simp] theorem requestsFor_notification (id : RequestId) (notification : JsonRpcNotification) :
    requestsFor id [.notification notification] = 0 := rfl

@[simp] theorem requestsFor_response (id : RequestId) (response : JsonRpcResponse) :
    requestsFor id [.response response] = 0 := rfl

@[simp] theorem responsesFor_request (id : RequestId) (request : JsonRpcRequest) :
    responsesFor id [.request request] = 0 := rfl

@[simp] theorem responsesFor_notification (id : RequestId) (method : String)
    (params : Option Json) : responsesFor id [notificationMessage method params] = 0 := rfl

@[simp] theorem responsesFor_error (id answered : RequestId) (error : JsonRpcError) :
    responsesFor id [.error answered error] = if answered = id then 1 else 0 := by
  simp [responsesFor,JsonRpcMessage.error,JsonRpcMessage.answersWith,List.countP_cons]

@[simp] theorem responsesFor_respond (id answered : RequestId) (outcome : Except McpError Json) :
    responsesFor id [Server.respond answered outcome] = if answered = id then 1 else 0 := by
  cases outcome with
  | ok result =>
    simp [responsesFor,Server.respond,JsonRpcMessage.answer,JsonRpcMessage.answersWith,
      List.countP_cons]
  | error e => exact responsesFor_error id answered e.toJsonrpcError

/-! ## Steps that answer nothing -/

/-- No response was written and the queue is as it was. -/
structure Silent (before after : Shared) : Prop where
  deferred : after.broker.deferred = before.broker.deferred
  responses : ∀ id, responsesFor id after.written = responsesFor id before.written

theorem Silent.refl (shared : Shared) : Silent shared shared := ⟨rfl,fun _ => rfl⟩

theorem Silent.trans {first second third : Shared} (one : Silent first second)
    (two : Silent second third) : Silent first third :=
  ⟨two.deferred.trans one.deferred,fun id => (two.responses id).trans (one.responses id)⟩

theorem silent_setStore (shared : Shared) (store : TaskStore) :
    Silent shared (shared.setStore store) := ⟨rfl,fun _ => rfl⟩

theorem silent_setBroker (shared : Shared) {broker : RequestBroker}
    (same : broker.deferred = shared.broker.deferred) : Silent shared (shared.setBroker broker) :=
  ⟨same,fun _ => rfl⟩

theorem silent_write (shared : Shared) {message : JsonRpcMessage}
    (quiet : ∀ id, responsesFor id [message] = 0) : Silent shared (shared.write message).1 := by
  refine ⟨by rw [Shared.write_broker],fun id => ?_⟩
  unfold Shared.write
  split
  · rfl
  · simp [quiet id]

theorem silent_giveUp (shared : Shared) (taskId : Option String) (id : RequestId)
    (reason : String) : Silent shared (shared.giveUp taskId id reason) :=
  (silent_setBroker shared (RequestBroker.abandon_deferred _ _)).trans
    (silent_write _ fun _ => rfl)

theorem silent_afterWait (shared : Shared) (taskId : Option String) (cancelled : Bool)
    (question : Question) (outcome : Except McpError Json) :
    Silent shared (shared.afterWait taskId cancelled question outcome) := by
  unfold Shared.afterWait
  split
  · exact silent_giveUp _ _ _ _
  · split
    · exact silent_giveUp _ _ _ _
    · exact .refl shared
  · exact .refl shared

/-- Whatever follows a write goes on from what the write left. -/
theorem silent_written {shared after : Shared} {message : JsonRpcMessage}
    {sent : Except McpError Unit} (wrote : shared.write message = (after,sent))
    (quiet : ∀ id, responsesFor id [message] = 0) : Silent shared after := by
  have same : after = (shared.write message).1 := by rw [wrote]
  rw [same]
  exact silent_write shared quiet

namespace Worker

theorem settle_silent (worker : Worker C) (shared : Shared) (question : Question)
    (next : Except McpError Json → ToolProg C) (outcome : Except McpError Json) :
    Silent shared (worker.settle shared question next outcome).1 :=
  (silent_setStore shared _).trans (silent_afterWait _ _ _ _ _)

theorem await_silent (worker : Worker C) (shared : Shared) (question : Question) (channel : Nat)
    (receiving : Bool) (next : Except McpError Json → ToolProg C) :
    Silent shared (worker.await shared question channel receiving next).1 := by
  unfold await
  split
  · split
    · exact worker.settle_silent shared question next _
    · split
      · exact worker.settle_silent shared question next _
      · exact .refl shared
  · split
    · exact worker.settle_silent shared question next _
    · exact worker.settle_silent shared question next _
    · exact .refl shared

theorem runTool_silent {worker next : Worker C} {shared after : Shared} {answer : Json}
    {prog : ToolProg C} (taken : worker.runTool shared answer prog = some (after,next)) :
    Silent shared after := by
  cases prog with
  | returned context result => cases taken; exact .refl shared
  | panicked context message => cases taken; exact .refl shared
  | notify method params continue_ =>
    cases taken
    exact silent_write shared fun _ => rfl
  | request method params timeout continue_ =>
    rcases runTool_request taken with ⟨broker,id,-,drawn,rfl,-⟩ | ⟨-,rfl,-⟩
    · exact silent_setBroker shared (RequestBroker.nextRequestId_deferred drawn)
    · exact .refl after
  | checkCancelled continue_ => cases taken; exact .refl shared
  | observe continue_ => cases taken; exact .refl shared

theorem announce_silent (worker : Worker C) (shared : Shared) :
    Silent shared (worker.announce shared) := by
  unfold announce
  split
  · exact (silent_setStore shared _).trans (silent_write _ fun _ => rfl)
  · exact silent_setStore shared _

/-- A question is a request of the server's own: a worker answers nobody. -/
theorem step_silent {worker next : Worker C} {shared after : Shared} {answer : Json}
    (taken : worker.step shared answer = some (after,next)) : Silent shared after := by
  cases step_taken taken with
  | gated | unwound | built => exact .refl shared
  | running _ ran => exact runTool_silent ran
  | allocated => exact silent_setBroker shared rfl
  | sent _ wrote => exact (silent_written wrote (fun _ => rfl)).trans (silent_setStore _ _)
  | unsent _ wrote => exact (silent_written wrote (fun _ => rfl)).trans (silent_setBroker _ rfl)
  | asking => exact worker.await_silent shared _ _ _ _
  | finishing => exact silent_setStore shared _
  | announcing => exact worker.announce_silent shared

end Worker

/-! ## One step of the loop -/

/-- Writes succeed, every line is a message, and a tool's immediate response returns. -/
def ServerLoop.obliging (loop : ServerLoop C) (label : LoopLabel) : Bool :=
  loop.shared.writeFailure.isNone &&
    match label with
    | .read (.error e) _ => !isMalformed e
    | .launch _ =>
      match loop.mode with
      | .launching _ start => start.call.entry.tool.modelImmediateResponse.toBool
      | _ => true
    | _ => true

namespace ServerLoop

theorem balance_of_silent {loop next : ServerLoop C} (id : RequestId)
    (silent : Silent loop.shared next.shared) :
    next.balance id + loop.mode.owes id = loop.balance id + next.mode.owes id := by
  unfold balance
  rw [silent.deferred,silent.responses id]
  omega

theorem writeMessage_ok {loop : ServerLoop C} (taking : loop.shared.writeFailure = none)
    (message : JsonRpcMessage) :
    ∃ after, loop.writeMessage message = (after,.ok ()) ∧
      after.shared = { loop.shared with written := loop.shared.written ++ [message] } ∧
      after.mode = loop.mode := by
  have sent : loop.shared.write message =
      ({ loop.shared with written := loop.shared.written ++ [message] },.ok ()) := by
    simp only [Shared.write,taking]
  refine ⟨(loop.writeMessage message).1,?_,?_,?_⟩
  · unfold writeMessage
    rw [sent]
  · unfold writeMessage
    rw [sent]
    rfl
  · unfold writeMessage
    rw [sent]
    rfl

/-- What a written response adds. -/
theorem balance_writeMessage {loop after : ServerLoop C} {message : JsonRpcMessage}
    (id : RequestId) (mode : LoopMode C)
    (wrote : after.shared = { loop.shared with written := loop.shared.written ++ [message] }) :
    (after.goto mode).balance id + loop.mode.owes id =
      loop.balance id + responsesFor id [message] + mode.owes id := by
  simp only [balance,goto,wrote,responsesFor_append]
  omega

theorem handleNotification_deferred (broker : RequestBroker) (notification : JsonRpcNotification) :
    (broker.handleNotification notification).deferred = broker.deferred := by
  unfold RequestBroker.handleNotification
  split
  · exact RequestBroker.cancel_deferred _ _
  · rfl

/-- An inline answer carries the id of what it answers. -/
theorem answerInline_responses {server : Server C} {around : Server.Surroundings}
    {request : JsonRpcRequest} {store : TaskStore} {answer : JsonRpcMessage}
    (inline : server.answerInline around request = (store,some answer)) (id : RequestId) :
    responsesFor id [answer] = if request.id = id then 1 else 0 := by
  unfold Server.answerInline at inline
  split at inline
  · cases inline
  · split at inline
    · cases inline
      exact responsesFor_respond id request.id _
    · cases inline
      exact responsesFor_respond id request.id _

theorem dispatch_balance {loop : ServerLoop C} (idle : loop.mode = .idle) (id : RequestId)
    (request : JsonRpcRequest) (freshId : String) :
    (loop.dispatch request freshId).balance id =
      loop.balance id + if request.id = id then 1 else 0 := by
  unfold dispatch
  split
  rename_i server store next _
  cases next with
  | await taskId =>
    by_cases pump : server.canPump = true
    · simp [pump,balance,goto,LoopMode.owes,idle,Shared.setStore]
      omega
    · simp [pump,balance,goto,LoopMode.owes,idle,Shared.setStore]
      omega
  | _ =>
    simp [balance,goto,LoopMode.owes,idle,Shared.setStore]
    omega

theorem handleMessage_balance {loop : ServerLoop C} (idle : loop.mode = .idle) (id : RequestId)
    (message : JsonRpcMessage) (freshId : String) :
    (loop.handleMessage message freshId).balance id =
      loop.balance id + requestsFor id [message] := by
  cases message with
  | request asked =>
    rw [requestsFor_request]
    exact dispatch_balance idle id asked freshId
  | notification notification =>
    have silent : Silent loop.shared (loop.handleMessage (.notification notification) freshId).shared :=
      silent_setBroker _ (handleNotification_deferred _ _)
    have same := balance_of_silent id silent
    simp only [handleMessage,withBroker,withShared] at same ⊢
    simp only [requestsFor_notification]
    omega
  | response given =>
    have silent : Silent loop.shared (loop.handleMessage (.response given) freshId).shared :=
      silent_setBroker _ (RequestBroker.deliver_deferred _ _)
    have same := balance_of_silent id silent
    simp only [handleMessage,withBroker,withShared] at same ⊢
    simp only [requestsFor_response]
    omega

/-- A message set aside is queued, or answered on the spot if it is a request. -/
theorem shedOrDefer_balance {loop : ServerLoop C} (taking : loop.shared.writeFailure = none)
    (id : RequestId) (message : JsonRpcMessage) (mode : LoopMode C) :
    ∃ after, loop.shedOrDefer message = (after,.ok ()) ∧
      (after.goto mode).balance id + loop.mode.owes id =
        loop.balance id + requestsFor id [message] + mode.owes id := by
  unfold shedOrDefer RequestBroker.defer
  split
  · rename_i broker queued
    split at queued
    · cases queued
    · cases queued
      refine ⟨_,rfl,?_⟩
      simp only [balance,goto,withBroker,withShared,Shared.setBroker,requestsFor_append]
      omega
  · rename_i full refused queued
    split at queued
    · cases queued
      cases message with
      | request asked =>
        obtain ⟨after,sent,wrote,_⟩ := writeMessage_ok taking
          (.error asked.id ((JsonRpcError.internalError ("`" ++ asked.method ++
            "` was refused: too many requests are already queued behind a blocking call")).withData
            (.obj [("reason",.str overloadedReason)])))
        refine ⟨after,sent,?_⟩
        rw [balance_writeMessage id mode wrote,responsesFor_error,requestsFor_request]
      | notification notification =>
        refine ⟨loop,rfl,?_⟩
        simp only [balance,goto,requestsFor_notification]
        omega
      | response given =>
        refine ⟨loop,rfl,?_⟩
        simp only [balance,goto,requestsFor_response]
        omega
    · cases queued

theorem thenIdle_balance {loop : ServerLoop C} (taking : loop.shared.writeFailure = none)
    (id : RequestId) (message : JsonRpcMessage) :
    (thenIdle (loop.writeMessage message)).balance id + loop.mode.owes id =
      loop.balance id + responsesFor id [message] := by
  obtain ⟨after,sent,wrote,_⟩ := writeMessage_ok taking message
  rw [sent]
  exact balance_writeMessage id .idle wrote

theorem readMain_balance {loop : ServerLoop C} (idle : loop.mode = .idle)
    {event : Except McpError JsonRpcMessage} {freshId : String}
    (obliging : loop.obliging (.read event freshId) = true) (id : RequestId) :
    (loop.readMain event freshId).balance id =
      loop.balance id + requestsFor id (LoopLabel.read event freshId).arrivals := by
  cases event with
  | ok message => exact handleMessage_balance idle id message freshId
  | error e =>
    have wellFormed : isMalformed e = false := by
      simpa [obliging] using (Bool.and_eq_true_iff.mp obliging).2
    cases e <;> simp_all [readMain,isMalformed,LoopLabel.arrivals,balance,goto,LoopMode.owes]

/-- A look at the store moves nothing but the mode. -/
theorem balance_look {loop : ServerLoop C} (id : RequestId) (store : TaskStore)
    (mode : LoopMode C) (same : mode.owes id = loop.mode.owes id) :
    ((loop.withShared (loop.shared.setStore store)).goto mode).balance id = loop.balance id := by
  have silent : Silent loop.shared
      ((loop.withShared (loop.shared.setStore store)).goto mode).shared :=
    silent_setStore loop.shared store
  have moved := balance_of_silent id silent
  have held : ((loop.withShared (loop.shared.setStore store)).goto mode).mode = mode := rfl
  rw [held] at moved
  omega

theorem pumpLook_balance {loop : ServerLoop C} {request : JsonRpcRequest} {taskId : String}
    {reading : Bool} (pumping : loop.mode = .pumping request taskId reading) (id : RequestId) :
    (loop.pumpLook request taskId).balance id = loop.balance id := by
  unfold pumpLook
  split
  all_goals
    refine balance_look id _ _ ?_
    rw [pumping]
    rfl

theorem blockedLook_balance {loop : ServerLoop C} {request : JsonRpcRequest} {taskId : String}
    {since : Nat} (blocked : loop.mode = .blocked request taskId since) (id : RequestId) :
    (loop.blockedLook request taskId since).balance id = loop.balance id := by
  unfold blockedLook
  simp only
  split
  · refine balance_look id _ _ ?_
    rw [blocked]
    rfl
  · rfl

/-- The pump goes on after a write: what it wrote or queued is all that changed. -/
theorem readPump_balance {loop : ServerLoop C} {request : JsonRpcRequest} {taskId : String}
    (pumping : loop.mode = .pumping request taskId true)
    {event : Except McpError JsonRpcMessage} {freshId : String}
    (obliging : loop.obliging (.read event freshId) = true) (id : RequestId) :
    (loop.readPump request taskId event freshId).balance id =
      loop.balance id + requestsFor id (LoopLabel.read event freshId).arrivals := by
  have taking : loop.shared.writeFailure = none := by
    simpa using (Bool.and_eq_true_iff.mp obliging).1
  have owed : loop.mode.owes id = (LoopMode.pumping request taskId false : LoopMode C).owes id := by
    rw [pumping]
    rfl
  cases event with
  | error e =>
    have wellFormed : isMalformed e = false := by
      simpa [ServerLoop.obliging] using (Bool.and_eq_true_iff.mp obliging).2
    have answered : (LoopMode.replying request.id (.error e) : LoopMode C).owes id =
      loop.mode.owes id := by rw [pumping]; rfl
    cases e <;> simp_all [readPump,isMalformed,LoopLabel.arrivals,balance,goto]
  | ok message =>
    have deferring : ∀ other : JsonRpcMessage,
        (thenPump request taskId (loop.shedOrDefer other)).balance id =
          loop.balance id + requestsFor id [other] := by
      intro other
      obtain ⟨after,queued,moved⟩ := shedOrDefer_balance taking id other
        (.pumping request taskId false)
      rw [queued]
      simp only [thenPump]
      omega
    cases message with
    | notification notification => exact deferring (.notification notification)
    | response given =>
      have silent : Silent loop.shared
          (loop.readPump request taskId (.ok (.response given)) freshId).shared :=
        silent_setBroker _ (RequestBroker.deliver_deferred _ _)
      have moved := balance_of_silent id silent
      have held : (loop.readPump request taskId (.ok (.response given)) freshId).mode =
        .pumping request taskId false := rfl
      rw [held] at moved
      simp only [LoopLabel.arrivals,requestsFor_response]
      omega
    | request asked =>
      simp only [readPump]
      split
      · rename_i store answer inline
        have stored : (loop.withShared (loop.shared.setStore store)).shared.writeFailure = none :=
          taking
        obtain ⟨after,sent,wrote,_⟩ := writeMessage_ok stored answer
        rw [sent]
        have moved := balance_writeMessage id (.pumping request taskId false) wrote
        have answers : responsesFor id [answer] = if asked.id = id then 1 else 0 :=
          answerInline_responses inline id
        have looked : (loop.withShared (loop.shared.setStore store)).balance id =
          loop.balance id := rfl
        have same : (loop.withShared (loop.shared.setStore store)).mode = loop.mode := rfl
        rw [looked,same,answers] at moved
        simp only [thenPump,LoopLabel.arrivals,requestsFor_request]
        omega
      · exact deferring (.request asked)

/-- A step that answers nothing and owes what it owed. -/
theorem balance_quiet {loop next : ServerLoop C} {id : RequestId}
    (silent : Silent loop.shared next.shared) (owed : next.mode.owes id = loop.mode.owes id) :
    next.balance id = loop.balance id := by
  have moved := balance_of_silent id silent
  omega

theorem settle_silent (loop : ServerLoop C) (request : JsonRpcRequest) (call : ToolCall C)
    (question : Question) (next : Except McpError Json → ToolProg C)
    (outcome : Except McpError Json) :
    Silent loop.shared (loop.settle request call question next outcome).shared :=
  silent_afterWait loop.shared none false question outcome

theorem askLook_balance {loop : ServerLoop C} {request : JsonRpcRequest} {call : ToolCall C}
    {question : Question} {reading : Bool} {next : Except McpError Json → ToolProg C}
    (asking : loop.mode = .asking request call question reading next) (id : RequestId) :
    (loop.askLook request call question next).balance id = loop.balance id := by
  have parked := loop.shared.broker.takeParked_deferred question.id
  unfold askLook
  split
  · rename_i broker response taken
    rw [taken] at parked
    refine balance_quiet ?_ (by rw [asking]; rfl)
    exact (silent_setBroker loop.shared parked).trans
      (settle_silent (loop.withBroker broker) _ _ _ _ _)
  · split
    · exact balance_quiet (settle_silent _ _ _ _ _ _) (by rw [asking]; rfl)
    · exact balance_quiet (.refl loop.shared) (by rw [asking]; rfl)

theorem shedOrDeferQuietly_balance {loop : ServerLoop C}
    (taking : loop.shared.writeFailure = none) (id : RequestId) (message : JsonRpcMessage)
    {mode : LoopMode C} (owed : mode.owes id = loop.mode.owes id) :
    ((loop.shedOrDeferQuietly message).goto mode).balance id =
      loop.balance id + requestsFor id [message] := by
  obtain ⟨after,shed,moved⟩ := shedOrDefer_balance taking id message mode
  have same : ((loop.shedOrDeferQuietly message).goto mode).balance id =
      (after.goto mode).balance id := by
    unfold shedOrDefer at shed
    unfold shedOrDeferQuietly
    split at shed
    · rename_i queued
      cases shed
      rfl
    · rename_i full refused queued
      split at shed
      · rename_i answer overloaded
        have wrote : after = (loop.writeMessage answer).1 := by rw [shed]
        rw [wrote]
        rfl
      · cases shed
        rfl
  omega

theorem readAsking_balance {loop : ServerLoop C} {request : JsonRpcRequest} {call : ToolCall C}
    {question : Question} {next : Except McpError Json → ToolProg C}
    (asking : loop.mode = .asking request call question true next)
    {event : Except McpError JsonRpcMessage} {freshId : String}
    (obliging : loop.obliging (.read event freshId) = true) (id : RequestId) :
    (loop.readAsking request call question next event).balance id =
      loop.balance id + requestsFor id (LoopLabel.read event freshId).arrivals := by
  have taking : loop.shared.writeFailure = none := by
    simpa using (Bool.and_eq_true_iff.mp obliging).1
  have owed : (LoopMode.asking request call question false next : LoopMode C).owes id =
      loop.mode.owes id := by
    rw [asking]
    rfl
  have aside : ∀ other : JsonRpcMessage, requestsFor id [other] = 0 ∨
      cancelledHere other question.id = false →
      (if cancelledHere other question.id then
        (loop.withBroker (loop.shared.broker.abandon question.id)).settle request call question
          next (.error (.internal ("the client cancelled request " ++ question.id.debug)))
      else (loop.shedOrDeferQuietly other).goto (.asking request call question false next)).balance
        id = loop.balance id + requestsFor id [other] := by
    intro other kind
    split
    · rename_i cancelled
      have none : requestsFor id [other] = 0 := by
        rcases kind with zero | never
        · exact zero
        · rw [cancelled] at never
          cases never
      rw [none]
      refine balance_quiet ?_ (by rw [asking]; rfl)
      exact (silent_setBroker loop.shared (RequestBroker.abandon_deferred _ _)).trans
        (settle_silent (loop.withBroker (loop.shared.broker.abandon question.id)) _ _ _ _ _)
    · exact shedOrDeferQuietly_balance taking id other owed
  cases event with
  | error e => exact balance_quiet (settle_silent _ _ _ _ _ _) (by rw [asking]; rfl)
  | ok message =>
    cases message with
    | notification notification => exact aside (.notification notification) (.inl rfl)
    | request asked => exact aside (.request asked) (.inr rfl)
    | response given =>
      simp only [readAsking,LoopLabel.arrivals,requestsFor_response]
      split
      · exact balance_quiet (settle_silent _ _ _ _ _ _) (by rw [asking]; rfl)
      · exact balance_quiet (silent_setBroker _ (RequestBroker.deliver_deferred _ _)) owed

theorem runTool_balance {loop after : ServerLoop C} {request : JsonRpcRequest} {call : ToolCall C}
    {prog : ToolProg C} {answer : Json} (running : loop.mode = .running request call prog)
    (taken : loop.runTool request call answer prog = some after) (id : RequestId) :
    after.balance id = loop.balance id := by
  cases prog with
  | returned context result =>
    cases taken
    exact balance_quiet (.refl loop.shared) (by rw [running]; rfl)
  | panicked context message =>
    cases taken
    exact balance_quiet (.refl loop.shared) (by rw [running]; rfl)
  | notify method params next =>
    cases taken
    exact balance_quiet (silent_write _ fun _ => rfl) (by rw [running]; rfl)
  | request method params timeout next =>
    obtain ⟨broker,fresh,sent,drawn,ends⟩ := runTool_request taken
    have issued := silent_setBroker loop.shared (RequestBroker.nextRequestId_deferred drawn)
    rcases ends with ⟨wrote,rfl⟩ | ⟨e,wrote,rfl⟩
    · exact balance_quiet (issued.trans (silent_written wrote fun _ => rfl))
        (by rw [running]; rfl)
    · refine balance_quiet ?_ (by rw [running]; rfl)
      exact (issued.trans (silent_written wrote fun _ => rfl)).trans
        (silent_setBroker _ (RequestBroker.abandon_deferred _ _))
  | checkCancelled next =>
    cases taken
    exact balance_quiet (.refl loop.shared) (by rw [running]; rfl)
  | observe next =>
    cases taken
    exact balance_quiet (.refl loop.shared) (by rw [running]; rfl)

theorem launchTask_balance {loop : ServerLoop C} {request : JsonRpcRequest} {start : TaskStart C}
    {spawnError : Option String} (launching : loop.mode = .launching request start)
    (obliging : loop.obliging (.launch spawnError) = true) (id : RequestId) :
    (loop.launchTask request start spawnError).balance id = loop.balance id := by
  have returns : start.call.entry.tool.modelImmediateResponse.toBool = true := by
    simpa [ServerLoop.obliging,launching] using (Bool.and_eq_true_iff.mp obliging).2
  unfold launchTask TaskStart.launch
  cases immediate : start.call.entry.tool.modelImmediateResponse with
  | error message =>
    rw [immediate] at returns
    cases returns
  | ok text =>
    cases spawnError with
    | none => exact balance_quiet (.refl loop.shared) (by rw [launching]; rfl)
    | some reason => exact balance_quiet (silent_setStore loop.shared _) (by rw [launching]; rfl)

/-- Every step accounts for what it read: the requests among it are answered, begun or
queued, and nothing else changes the balance. -/
theorem step_balance {loop next : ServerLoop C} {label : LoopLabel}
    (obliging : loop.obliging label = true) (taken : loop.step label = some next)
    (id : RequestId) : next.balance id = loop.balance id + requestsFor id label.arrivals := by
  have taking : loop.shared.writeFailure = none := by
    simpa using (Bool.and_eq_true_iff.mp obliging).1
  cases step_taken taken with
  | readMain idle => exact readMain_balance idle obliging id
  | readPump pumping => exact readPump_balance pumping obliging id
  | readAsking asking => exact readAsking_balance asking obliging id
  | @replay freshId broker message idle owed =>
    have stays : (loop.withBroker broker).mode = .idle := idle
    rw [handleMessage_balance stays]
    unfold RequestBroker.nextDeferred at owed
    split at owed
    · cases owed
    · rename_i head rest queue
      cases owed
      have split : requestsFor id (message :: rest) =
          requestsFor id [message] + requestsFor id rest := requestsFor_append id [message] rest
      simp only [balance,withBroker,withShared,Shared.setBroker,queue,split,LoopLabel.arrivals,
        requestsFor_nil]
      omega
  | pumpLook pumping => exact pumpLook_balance pumping id
  | blockedLook blocked => exact blockedLook_balance blocked id
  | askLook asking => exact askLook_balance asking id
  | run running ran => exact runTool_balance running ran id
  | launch launching => exact launchTask_balance launching obliging id
  | @reply answered outcome replying =>
    have moved := thenIdle_balance taking id (Server.respond answered outcome)
    rw [responsesFor_respond,replying] at moved
    simp only [LoopMode.owes] at moved
    simp only [LoopLabel.arrivals,requestsFor_nil]
    omega
  | work there worked => exact balance_quiet (Worker.step_silent worked) rfl
  | clock | wire => rfl

end ServerLoop

end SmlMcps
