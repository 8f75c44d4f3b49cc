import SmlMcps.BrokerDiscards
import SmlMcps.LoopQuestions

/-! How a request to the client ends, on the loop's own thread or in a worker, and what
every step of the connection gives up: the requests that end in it and the one the
client withdraws. -/
namespace SmlMcps

variable {C : Type}

/-- `clientCancelled` is the notice read by the asker itself, `disconnected` what a worker
finds once another reader has acted on it. -/
inductive QuestionEnding where
  | answered
  | timedOut
  | taskCancelled
  | clientCancelled
  | disconnected
  | writeFailed
  | readFailed
  deriving DecidableEq

/-- The thread that asked: `none` is the loop's own, a number is a worker's. -/
structure QuestionExit where
  thread : Option Nat
  id : RequestId
  ending : QuestionEnding
  deriving DecidableEq

/-- The request of a worker that ends with its next step. -/
def Worker.ending? (worker : Worker C) (shared : Shared) : Option (RequestId × QuestionEnding) :=
  match worker.phase with
  | .registered question _ _ _ => shared.writeFailure.map fun _ => (question.id,.writeFailed)
  | .asking question channel receiving _ =>
    if !receiving then
      if worker.isCancelled shared then some (question.id,.taskCancelled)
      else if question.due shared.instant then some (question.id,.timedOut)
      else none
    else match shared.broker.receive channel with
      | .response _ => some (question.id,.answered)
      | .disconnected => some (question.id,.disconnected)
      | .empty => none
  | _ => none

namespace ServerLoop

/-- The request of the loop's own thread that ends with this step. -/
def ending? (loop : ServerLoop C) (label : LoopLabel) : Option (RequestId × QuestionEnding) :=
  match label, loop.mode with
  | .look, .asking _ _ question false _ =>
    if (loop.shared.broker.takeParked question.id).2.isSome then some (question.id,.answered)
    else if question.due loop.shared.instant then some (question.id,.timedOut)
    else none
  | .read event _, .asking _ _ question true _ =>
    match event with
    | .error (.timeout _) => some (question.id,.timedOut)
    | .error _ => some (question.id,.readFailed)
    | .ok (.response response) =>
      if response.id = question.id then some (question.id,.answered) else none
    | .ok other =>
      if cancelledHere other question.id then some (question.id,.clientCancelled) else none
  | .run _, .running _ _ (.request _ _ _ _) =>
    match loop.shared.broker.nextRequestId, loop.shared.writeFailure with
    | some (_,id), some _ => some (id,.writeFailed)
    | _, _ => none
  | _, _ => none

def exit? (loop : ServerLoop C) (label : LoopLabel) : Option QuestionExit :=
  match label with
  | .work index _ => (loop.workers[index]?.bind fun worker => worker.ending? loop.shared).map
      fun ended => ⟨some index,ended.1,ended.2⟩
  | label => (loop.ending? label).map fun ended => ⟨none,ended.1,ended.2⟩

/-- The request whose cancellation by the client is acted on. -/
def withdraws (loop : ServerLoop C) (label : LoopLabel) : Option RequestId :=
  match label, loop.mode with
  | .read (.ok (.notification notification)) _, .idle => cancelledRequestId notification
  | .read (.ok message) _, .asking _ _ question true _ =>
    if cancelledHere message question.id then some question.id else none
  | .replay _, .idle =>
    match loop.shared.broker.nextDeferred.2 with
    | some (.notification notification) => cancelledRequestId notification
    | _ => none
  | _, _ => none

/-- The requests the client has withdrawn so far. -/
def recordWithdrawn (before : ServerLoop C) (label : LoopLabel) (_ : ServerLoop C)
    (withdrawn : List RequestId) : List RequestId :=
  (before.withdraws label).toList ++ withdrawn

/-- The requests nobody waits for after this step. -/
def givesUp (loop : ServerLoop C) (label : LoopLabel) : List RequestId :=
  (loop.withdraws label).toList ++ ((loop.exit? label).map QuestionExit.id).toList

variable {loop next : ServerLoop C} {label : LoopLabel} {exit : QuestionExit}

theorem exit_given {thread : Option Nat} {id : RequestId} {ending : QuestionEnding}
    (ends : loop.exit? label = some ⟨thread,id,ending⟩) : id ∈ loop.givesUp label := by
  simp [givesUp,ends]

theorem withdrawn_given {id : RequestId} (names : loop.withdraws label = some id) :
    id ∈ loop.givesUp label := by
  simp [givesUp,names]

end ServerLoop

/-! ## What an operation of the broker gives up -/

namespace RequestBroker

variable {before middle after : RequestBroker} {given : List RequestId}

/-- A channel is closed without an answer, and a request remembered as abandoned, only
for what is given up. -/
structure GivesUp (before after : RequestBroker) (given : List RequestId) : Prop where
  closed : ∀ channel, after.receive channel = .disconnected →
    before.receive channel = .disconnected ∨ ∃ id ∈ given, before.waiter? id = some channel
  abandoned : ∀ id ∈ after.abandoned,
    id ∈ before.abandoned ∨ id ∈ given ∧ after.wasIssuedHere id = true

/-- The waiters, their channels and the abandoned requests are as they were. -/
structure SameRoutes (before after : RequestBroker) : Prop where
  waiters : after.waiters = before.waiters
  channels : after.channels = before.channels
  abandoned : after.abandoned = before.abandoned

theorem SameRoutes.refl (broker : RequestBroker) : SameRoutes broker broker := ⟨rfl,rfl,rfl⟩

theorem SameRoutes.drawn {drawn : RequestBroker} {id : RequestId}
    (draws : before.nextRequestId = some (drawn,id)) : SameRoutes before drawn := by
  simp only [nextRequestId] at draws
  split at draws <;> cases draws
  exact ⟨rfl,rfl,rfl⟩

theorem SameRoutes.takeParked (broker : RequestBroker) (id : RequestId) :
    SameRoutes broker (broker.takeParked id).1 := by
  simp only [RequestBroker.takeParked]
  split
  · exact .refl broker
  · exact ⟨rfl,rfl,rfl⟩

theorem SameRoutes.gives (same : SameRoutes before after) : GivesUp before after given where
  closed channel gone := .inl ((receive_congr (congrArg (·[channel]?) same.channels)).symm.trans gone)
  abandoned _ known := .inl (same.abandoned ▸ known)

theorem SameRoutes.then (same : SameRoutes before middle) (gives : GivesUp middle after given) :
    GivesUp before after given where
  closed channel gone := by
    rcases gives.closed channel gone with already | ⟨id,member,waits⟩
    · exact .inl ((receive_congr (congrArg (·[channel]?) same.channels)).symm.trans already)
    · exact .inr ⟨id,member,(congrArg (AList.lookup id) same.waiters).symm.trans waits⟩
  abandoned id known := by
    rcases gives.abandoned id known with old | new
    · exact .inl (same.abandoned ▸ old)
    · exact .inr new

theorem receive_abandon (broker : RequestBroker) (id : RequestId) (channel : Nat)
    (gone : (broker.abandon id).receive channel = .disconnected) :
    broker.receive channel = .disconnected ∨ broker.waiter? id = some channel := by
  cases waits : broker.waiter? id with
  | none =>
    have same : (broker.abandon id).channels = broker.channels := by
      simp only [abandon,dropSender]
      rw [show AList.lookup id broker.waiters = none from waits]
    exact .inl ((receive_congr (congrArg (·[channel]?) same)).symm.trans gone)
  | some closed =>
    by_cases here : closed = channel
    · exact .inr (congrArg some here)
    · have same : (broker.abandon id).channels[channel]? = broker.channels[channel]? := by
        simp only [abandon,dropSender]
        rw [show AList.lookup id broker.waiters = some closed from waits]
        simp [disconnect,here]
      exact .inl ((receive_congr same).symm.trans gone)

theorem GivesUp.abandon {broker : RequestBroker} {id : RequestId} (member : id ∈ given)
    (ours : broker.wasIssuedHere id = true) : GivesUp broker (broker.abandon id) given where
  closed channel gone := by
    rcases receive_abandon broker id channel gone with already | waits
    · exact .inl already
    · exact .inr ⟨id,member,waits⟩
  abandoned known remembered := by
    have inside := List.mem_of_mem_drop remembered
    rcases List.mem_append.mp inside with old | new
    · exact .inl old
    · rw [List.mem_singleton.mp new]
      exact .inr ⟨member,ours⟩

theorem GivesUp.cancel {broker : RequestBroker} {id : RequestId} (member : id ∈ given) :
    GivesUp broker (broker.cancel id).1 given := by
  simp only [RequestBroker.cancel]
  split
  · rename_i ours
    exact .abandon member ours
  · exact (SameRoutes.refl broker).gives

theorem GivesUp.deliver (broker : RequestBroker) (response : JsonRpcResponse) :
    GivesUp broker (broker.deliver response) given where
  closed channel gone := by
    left
    cases waits : AList.lookup response.id broker.waiters with
    | none =>
      have same : (broker.deliver response).channels = broker.channels := by
        simp only [RequestBroker.deliver,waits]
        exact (park_aside broker response).2.1
      exact (receive_congr (congrArg (·[channel]?) same)).symm.trans gone
    | some sent =>
      have shape : (broker.deliver response).channels = send sent response broker.channels := by
        simp only [RequestBroker.deliver,waits]
      by_cases here : sent = channel
      · subst here
        simp only [receive,shape,send,List.getElem?_modify,if_true,Option.map_eq_map] at gone
        cases there : broker.channels[sent]? with
        | none => simp [receive,there]
        | some known =>
          rw [there] at gone
          cases gone
      · have same : (broker.deliver response).channels[channel]? = broker.channels[channel]? := by
          rw [shape]
          simp [send,here]
        exact (receive_congr same).symm.trans gone
  abandoned id known := by
    left
    rcases deliver_abandoned broker response with same | erased
    · exact same ▸ known
    · exact List.mem_of_mem_erase (erased ▸ known)

/-- Nobody was registered under the id. -/
theorem GivesUp.registerWaiter {broker : RequestBroker} {id : RequestId}
    (unheld : broker.waiter? id = none) : GivesUp broker (broker.registerWaiter id).1 given where
  closed channel gone := by
    left
    have grown : (broker.registerWaiter id).1.channels = broker.channels ++ [⟨none,true⟩] := by
      simp only [RequestBroker.registerWaiter,dropSender]
      rw [show AList.lookup id broker.waiters = none from unheld]
    rcases Nat.lt_or_ge channel broker.channels.length with inside | beyond
    · have same : (broker.registerWaiter id).1.channels[channel]? = broker.channels[channel]? := by
        rw [grown,List.getElem?_append_left inside]
      exact (receive_congr same).symm.trans gone
    · simp [receive,List.getElem?_eq_none beyond]
  abandoned _ known := .inl known

end RequestBroker

open RequestBroker (GivesUp SameRoutes)

/-! ## What a step gives up -/

theorem giveUp_broker (shared : Shared) (taskId : Option String) (id : RequestId)
    (reason : String) : (shared.giveUp taskId id reason).broker = shared.broker.abandon id := by
  simp only [Shared.giveUp,Shared.tryWrite_broker,Shared.setBroker_broker]

theorem afterWait_gives {shared : Shared} {taskId : Option String} {cancelled : Bool}
    {question : Question} {outcome : Except McpError Json} {given : List RequestId}
    (member : question.id ∈ given) (ours : shared.broker.wasIssuedHere question.id = true) :
    GivesUp shared.broker (shared.afterWait taskId cancelled question outcome).broker given := by
  rcases afterWait_broker shared taskId cancelled question outcome with same | gave
  · rw [same]
    exact (SameRoutes.refl _).gives
  · rw [gave]
    exact .abandon member ours

/-- An answer of the client is never a timeout. -/
theorem afterWait_intoResult (shared : Shared) (taskId : Option String) (question : Question)
    (response : JsonRpcResponse) :
    shared.afterWait taskId false question (RequestBroker.intoResult response) = shared := by
  simp only [RequestBroker.intoResult]
  split <;> rfl

namespace Worker

theorem settle_gives {worker : Worker C} {shared : Shared} {question : Question}
    {next : Except McpError Json → ToolProg C} {outcome : Except McpError Json}
    {given : List RequestId} (member : question.id ∈ given)
    (ours : shared.broker.wasIssuedHere question.id = true) :
    GivesUp shared.broker (worker.settle shared question next outcome).1.broker given :=
  @afterWait_gives (worker.setTaskStatus shared .working) _ _ question outcome given member ours

theorem await_gives {worker : Worker C} {shared : Shared} {question : Question} {channel : Nat}
    {receiving : Bool} {next : Except McpError Json → ToolProg C} {given : List RequestId}
    (asking : worker.phase = .asking question channel receiving next)
    (ends : ∀ ending, worker.ending? shared = some (question.id,ending) → question.id ∈ given)
    (ours : shared.broker.wasIssuedHere question.id = true) :
    GivesUp shared.broker (worker.await shared question channel receiving next).1.broker given := by
  simp only [ending?,asking] at ends
  simp only [await]
  split
  · rename_i looking
    rw [if_pos looking] at ends
    split
    · rename_i cancelled
      rw [if_pos cancelled] at ends
      exact settle_gives (ends _ rfl) ours
    · rename_i going
      rw [if_neg going] at ends
      split
      · rename_i due
        rw [if_pos due] at ends
        exact settle_gives (ends _ rfl) ours
      · exact (SameRoutes.refl _).gives
  · rename_i receiving
    rw [if_neg receiving] at ends
    split
    · rename_i response got
      rw [got] at ends
      exact settle_gives (ends _ rfl) ours
    · rename_i gone
      rw [gone] at ends
      exact settle_gives (ends _ rfl) ours
    · exact (SameRoutes.refl _).gives

/-- What a worker's step gives up is the request that ends in it. -/
theorem step_gives {worker next : Worker C} {shared after : Shared} {answer : Json}
    {given : List RequestId} (taken : worker.step shared answer = some (after,next))
    (ends : ∀ id ending, worker.ending? shared = some (id,ending) → id ∈ given)
    (ours : ∀ id, worker.phase.asks = some id → shared.broker.wasIssuedHere id = true)
    (unheld : ∀ id, worker.phase.asks = some id → worker.phase.channelOf = none →
      shared.broker.waiter? id = none) : GivesUp shared.broker after.broker given := by
  have same {other : Shared} (kept : other.broker = shared.broker) :
      GivesUp shared.broker other.broker given := by
    rw [kept]
    exact (SameRoutes.refl _).gives
  cases step_taken taken with
  | gated | unwound | built | finishing => exact same rfl
  | @running prog _ _ _ ran =>
    cases prog with
    | notify method params continue_ =>
      cases ran
      exact same (Shared.write_broker _ _)
    | request method params timeout continue_ =>
      rcases runTool_request ran with ⟨broker,id,-,drawn,rfl,-⟩ | ⟨-,rfl,-⟩
      · exact (SameRoutes.drawn drawn).gives
      · exact same rfl
    | _ => cases ran; exact same rfl
  | @allocated question _ _ phase =>
    refine .registerWaiter (unheld question.id ?_ ?_) <;> rw [phase] <;> rfl
  | @sent _ _ _ sent _ _ wrote =>
    have kept : sent.broker = shared.broker := broker_of_write wrote
    exact @same (worker.setTaskStatus sent .inputRequired) kept
  | @unsent question _ _ failed e _ phase wrote =>
    obtain ⟨failure,set_⟩ : ∃ failure, shared.writeFailure = some failure := by
      simp only [Shared.write] at wrote
      split at wrote
      · rename_i failure set_
        exact ⟨failure,set_⟩
      · cases wrote
    rw [Shared.setBroker_broker,broker_of_write wrote]
    refine .abandon (ends question.id .writeFailed ?_) (ours question.id ?_)
    · simp only [ending?,phase,set_]
      rfl
    · rw [phase]
      rfl
  | @asking question _ _ _ phase =>
    exact await_gives phase (fun ending ended => ends question.id ending ended)
      (ours question.id (by rw [phase]; rfl))
  | announcing => exact same (worker.announce_broker shared)

end Worker

namespace ServerLoop

variable {loop next : ServerLoop C} {label : LoopLabel} {given : List RequestId}

theorem asked_ours (asked : loop.Asked) {thread : Option Nat} {id : RequestId}
    (asks : loop.asks thread = some id) : loop.shared.broker.wasIssuedHere id = true :=
  RequestBroker.wasIssuedHere_of_issued (asked.drawn thread id asks) asked.routed.bound

theorem untouched_defer (broker : RequestBroker) (message : JsonRpcMessage) :
    SameRoutes broker (broker.defer message).1 := by
  rcases RequestBroker.defer_cases broker message with full | taken
  · rw [full]
    exact .refl broker
  · rw [taken]
    exact ⟨rfl,rfl,rfl⟩

theorem untouched_nextDeferred (broker : RequestBroker) :
    SameRoutes broker broker.nextDeferred.1 := by
  simp only [RequestBroker.nextDeferred]
  split
  · exact .refl broker
  · exact ⟨rfl,rfl,rfl⟩

theorem writeMessage_broker (loop : ServerLoop C) (message : JsonRpcMessage) :
    (loop.writeMessage message).1.shared.broker = loop.shared.broker :=
  Shared.write_broker _ _

theorem shedOrDefer_untouched (loop : ServerLoop C) (message : JsonRpcMessage) :
    SameRoutes loop.shared.broker (loop.shedOrDefer message).1.shared.broker := by
  have deferred := untouched_defer loop.shared.broker message
  simp only [shedOrDefer]
  split
  · rename_i broker queued
    rw [queued] at deferred
    exact deferred
  · split
    · rw [writeMessage_broker]
      exact .refl _
    · exact .refl _

theorem shedOrDeferQuietly_untouched (loop : ServerLoop C) (message : JsonRpcMessage) :
    SameRoutes loop.shared.broker (loop.shedOrDeferQuietly message).shared.broker := by
  have deferred := untouched_defer loop.shared.broker message
  simp only [shedOrDeferQuietly]
  split
  · rename_i broker queued
    rw [queued] at deferred
    exact deferred
  · split
    · simp only [withShared,Shared.tryWrite_broker]
      exact .refl _
    · exact .refl _

theorem thenIdle_broker (written : ServerLoop C × Except McpError Unit) :
    (thenIdle written).shared.broker = written.1.shared.broker := by
  simp only [thenIdle]
  split <;> rfl

theorem thenPump_broker (request : JsonRpcRequest) (taskId : String)
    (written : ServerLoop C × Except McpError Unit) :
    (thenPump request taskId written).shared.broker = written.1.shared.broker := by
  simp only [thenPump]
  split <;> rfl

theorem dispatch_broker (loop : ServerLoop C) (request : JsonRpcRequest) (freshId : String) :
    (loop.dispatch request freshId).shared.broker = loop.shared.broker := by
  simp only [dispatch]
  split
  · rfl
  · rfl
  · rfl
  · split <;> rfl

theorem handleMessage_gives {message : JsonRpcMessage} {freshId : String}
    (names : ∀ notification id, message = .notification notification →
      cancelledRequestId notification = some id → id ∈ given) :
    GivesUp loop.shared.broker (loop.handleMessage message freshId).shared.broker given := by
  cases message with
  | request asked =>
    simp only [handleMessage,dispatch_broker]
    exact (SameRoutes.refl _).gives
  | response response => exact .deliver _ _
  | notification notification =>
    simp only [handleMessage,withBroker,withShared,Shared.setBroker_broker,
      RequestBroker.handleNotification]
    split
    · rename_i id named
      exact .cancel (names notification id rfl named)
    · exact (SameRoutes.refl _).gives

theorem readMain_gives (idle : loop.mode = .idle) {event : Except McpError JsonRpcMessage}
    {freshId : String} : GivesUp loop.shared.broker (loop.readMain event freshId).shared.broker
      (loop.givesUp (.read event freshId)) := by
  simp only [readMain]
  split
  · rename_i message
    refine handleMessage_gives ?_
    rintro notification id rfl named
    exact withdrawn_given (by simp only [withdraws,idle,named])
  · exact (SameRoutes.refl _).gives
  · exact (SameRoutes.refl _).gives
  · split
    · rw [thenIdle_broker,writeMessage_broker]
      exact (SameRoutes.refl _).gives
    · exact (SameRoutes.refl _).gives

theorem readPump_gives (loop : ServerLoop C) (request : JsonRpcRequest) (taskId : String)
    (event : Except McpError JsonRpcMessage) (freshId : String) :
    GivesUp loop.shared.broker (loop.readPump request taskId event freshId).shared.broker given := by
  have shed (message : JsonRpcMessage) : GivesUp loop.shared.broker
      (thenPump request taskId (loop.shedOrDefer message)).shared.broker given := by
    rw [thenPump_broker]
    exact (shedOrDefer_untouched loop message).gives
  cases event with
  | error e =>
    simp only [readPump]
    split
    · exact (SameRoutes.refl _).gives
    · split
      · rw [thenPump_broker,writeMessage_broker]
        exact (SameRoutes.refl _).gives
      · exact (SameRoutes.refl _).gives
    all_goals contradiction
  | ok message =>
    cases message with
    | notification notification => exact shed _
    | response response => exact .deliver _ _
    | request arrived =>
      simp only [readPump]
      split
      · rw [thenPump_broker,writeMessage_broker]
        exact (SameRoutes.refl _).gives
      · exact shed _

theorem askLook_gives (asked : loop.Asked) {request : JsonRpcRequest} {call : ToolCall C}
    {question : Question} {continue_ : Except McpError Json → ToolProg C}
    (asking : loop.mode = .asking request call question false continue_) :
    GivesUp loop.shared.broker (loop.askLook request call question continue_).shared.broker
      (loop.givesUp .look) := by
  have ours : loop.shared.broker.wasIssuedHere question.id = true :=
    @asked_ours C loop asked none question.id (by simp only [asks,asking,LoopMode.asks])
  simp only [askLook]
  split
  · rename_i broker response found
    have kept := SameRoutes.takeParked loop.shared.broker question.id
    rw [found] at kept
    simp only [settle,goto,withShared,withBroker,afterWait_intoResult]
    exact kept.gives
  · rename_i absent
    split
    · rename_i due
      have ends : loop.exit? .look = some ⟨none,question.id,.timedOut⟩ := by
        simp only [exit?,ending?,asking,absent,due]
        rfl
      exact @afterWait_gives loop.shared none false question _ _ (exit_given ends) ours
    · exact (SameRoutes.refl _).gives

theorem readAsking_gives (asked : loop.Asked) {request : JsonRpcRequest} {call : ToolCall C}
    {question : Question} {continue_ : Except McpError Json → ToolProg C}
    (asking : loop.mode = .asking request call question true continue_)
    (event : Except McpError JsonRpcMessage) (freshId : String) :
    GivesUp loop.shared.broker (loop.readAsking request call question continue_ event).shared.broker
      (loop.givesUp (.read event freshId)) := by
  have ours : loop.shared.broker.wasIssuedHere question.id = true :=
    @asked_ours C loop asked none question.id (by simp only [asks,asking,LoopMode.asks])
  have aside {message : JsonRpcMessage} (other : ∀ response, message ≠ .response response) :
      GivesUp loop.shared.broker
        (loop.readAsking request call question continue_ (.ok message)).shared.broker
        (loop.givesUp (.read (.ok message) freshId)) := by
    cases message with
    | response response => exact (other response rfl).elim
    | _ =>
      simp only [readAsking]
      split
      · rename_i here
        refine GivesUp.abandon (withdrawn_given ?_) ours
        simp only [withdraws,asking,here,if_true]
      · exact (shedOrDeferQuietly_untouched loop _).gives
  cases event with
  | error e =>
    cases e with
    | timeout message =>
      have ends : loop.exit? (.read (.error (.timeout message)) freshId) =
          some ⟨none,question.id,.timedOut⟩ := by
        simp only [exit?,ending?,asking]
        rfl
      exact @afterWait_gives loop.shared none false question _ _ (exit_given ends) ours
    | _ => exact (SameRoutes.refl _).gives
  | ok message =>
    cases message with
    | notification notification => exact aside (by simp)
    | request arrived => exact aside (by simp)
    | response response =>
      simp only [readAsking]
      split
      · simp only [settle,goto,withShared,afterWait_intoResult]
        exact (SameRoutes.refl _).gives
      · exact .deliver _ _

theorem runTool_gives (routed : loop.shared.broker.Routed) {request : JsonRpcRequest}
    {call : ToolCall C} {prog : ToolProg C} {answer : Json}
    (running : loop.mode = .running request call prog)
    (taken : loop.runTool request call answer prog = some next) :
    GivesUp loop.shared.broker next.shared.broker (loop.givesUp (.run answer)) := by
  cases prog with
  | notify method params continue_ =>
    cases taken
    change GivesUp _ (loop.shared.write (notificationMessage method params)).1.broker _
    rw [Shared.write_broker]
    exact (SameRoutes.refl _).gives
  | request method params timeout continue_ =>
    obtain ⟨broker,id,sent,drawn,outcome⟩ := runTool_request taken
    obtain ⟨follows,issued,_⟩ := RequestBroker.nextRequestId_follows routed drawn
    have kept : SameRoutes loop.shared.broker broker := .drawn drawn
    rcases outcome with ⟨wrote,rfl⟩ | ⟨e,wrote,rfl⟩
    · have same : sent.broker = broker := broker_of_write wrote
      simp only [goto,withShared,same]
      exact kept.gives
    · have same : sent.broker = broker := broker_of_write wrote
      obtain ⟨failure,set_⟩ : ∃ failure, loop.shared.writeFailure = some failure := by
        simp only [Shared.write,Shared.setBroker] at wrote
        split at wrote
        · rename_i failure set_
          exact ⟨failure,set_⟩
        · cases wrote
      have ends : loop.exit? (.run answer) = some ⟨none,id,.writeFailed⟩ := by
        simp only [exit?,ending?,running,drawn,set_]
        rfl
      have ours := RequestBroker.wasIssuedHere_of_issued issued follows.routed.bound
      simp only [goto,withShared,Shared.setBroker_broker,same]
      exact kept.then (.abandon (exit_given ends) ours)
  | _ =>
    cases taken
    exact (SameRoutes.refl _).gives

theorem workStep_gives (asked : loop.Asked) {index : Nat} {answer : Json}
    (taken : loop.workStep index answer = some next) :
    GivesUp loop.shared.broker next.shared.broker (loop.givesUp (.work index answer)) := by
  simp only [workStep] at taken
  split at taken
  · cases taken
  · rename_i worker there
    obtain ⟨⟨shared,after⟩,worked,rfl⟩ := Option.map_eq_some_iff.mp taken
    have before := asks_of_worker there
    refine Worker.step_gives worked ?_ ?_ ?_
    · intro id ending ended
      refine @exit_given C loop (.work index answer) (some index) id ending ?_
      simp only [exit?,there,Option.bind_some,ended,Option.map_some]
    · intro id asks
      exact asked_ours asked (before.1.trans asks)
    · intro id asks free
      exact asked.unregistered (some index) id (before.1.trans asks) (before.2.trans free)

/-- Every step of the connection, by what it gives up. -/
theorem step_gives (asked : loop.Asked) (taken : loop.step label = some next) :
    GivesUp loop.shared.broker next.shared.broker (loop.givesUp label) := by
  cases step_taken taken with
  | readMain idle => exact readMain_gives idle
  | readPump => exact readPump_gives loop _ _ _ _
  | readAsking asking => exact readAsking_gives asked asking _ _
  | @replay freshId broker message idle queued =>
    have drawn := untouched_nextDeferred loop.shared.broker
    rw [queued] at drawn
    refine drawn.then (@handleMessage_gives C (loop.withBroker broker) _ message freshId ?_)
    rintro notification id rfl named
    exact withdrawn_given (by simp only [withdraws,idle,queued,named])
  | pumpLook =>
    simp only [pumpLook]
    split <;> exact (SameRoutes.refl _).gives
  | blockedLook =>
    simp only [blockedLook]
    split <;> exact (SameRoutes.refl _).gives
  | askLook asking => exact askLook_gives asked asking
  | run running ran => exact runTool_gives asked.routed running ran
  | @launch request start spawnError =>
    simp only [launchTask,TaskStart.launch]
    cases start.call.entry.tool.modelImmediateResponse with
    | error message => exact (SameRoutes.refl _).gives
    | ok text => cases spawnError <;> exact (SameRoutes.refl _).gives
  | reply =>
    rw [thenIdle_broker,writeMessage_broker]
    exact (SameRoutes.refl _).gives
  | work => exact workStep_gives asked taken
  | clock | wire => exact (SameRoutes.refl _).gives

end ServerLoop

end SmlMcps
