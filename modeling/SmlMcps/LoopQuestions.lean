import SmlMcps.BrokerLaws
import SmlMcps.Library.Runs
import SmlMcps.ServerLoop

/-! Who is waiting for which answer. The loop's own thread and the workers draw their
ids from one broker; in every state a run reaches, no two of them share one, and a
worker whose channel is open is registered under its own. -/
namespace SmlMcps

variable {C : Type}

open RequestBroker (Follows Routed Askers Carries)

/-- The id a worker has drawn and is not done with. -/
def WorkerPhase.asks : WorkerPhase C → Option RequestId
  | .allocated question _ _ | .registered question _ _ _ | .asking question _ _ _ =>
    some question.id
  | _ => none

def WorkerPhase.channelOf : WorkerPhase C → Option Nat
  | .registered _ channel _ _ | .asking _ channel _ _ => some channel
  | _ => none

def LoopMode.asks : LoopMode C → Option RequestId
  | .asking _ _ question _ _ => some question.id
  | _ => none

namespace ServerLoop

/-- The threads of a connection: `none` is the loop's own, a number is a worker's. -/
def asks (loop : ServerLoop C) : Option Nat → Option RequestId
  | none => loop.mode.asks
  | some index => loop.workers[index]?.bind fun worker => worker.phase.asks

def channelOf (loop : ServerLoop C) : Option Nat → Option Nat
  | none => none
  | some index => loop.workers[index]?.bind fun worker => worker.phase.channelOf

def Asked (loop : ServerLoop C) : Prop := Askers loop.shared.broker loop.asks loop.channelOf

end ServerLoop

/-! ## One step of a worker -/

theorem afterWait_broker (shared : Shared) (taskId : Option String) (cancelled : Bool)
    (question : Question) (outcome : Except McpError Json) :
    (shared.afterWait taskId cancelled question outcome).broker = shared.broker ∨
      (shared.afterWait taskId cancelled question outcome).broker =
        shared.broker.abandon question.id := by
  have given (reason : String) : (shared.giveUp taskId question.id reason).broker =
      shared.broker.abandon question.id := by
    unfold Shared.giveUp
    rw [Shared.tryWrite_broker,Shared.setBroker_broker]
  unfold Shared.afterWait
  split
  · exact .inr (given _)
  · split
    · exact .inr (given _)
    · exact .inl rfl
  · exact .inl rfl

theorem afterWait_follows {shared : Shared} (routed : shared.broker.Routed)
    (taskId : Option String) (cancelled : Bool) (question : Question)
    (outcome : Except McpError Json) :
    Follows shared.broker (shared.afterWait taskId cancelled question outcome).broker := by
  rcases afterWait_broker shared taskId cancelled question outcome with same | given
  · rw [same]
    exact .refl routed
  · rw [given]
    exact RequestBroker.abandon_follows routed question.id

theorem broker_of_write {shared after : Shared} {message : JsonRpcMessage}
    {sent : Except McpError Unit} (wrote : shared.write message = (after,sent)) :
    after.broker = shared.broker := by
  have same : after = (shared.write message).1 := by rw [wrote]
  rw [same,Shared.write_broker]

theorem write_follows {shared after : Shared} {message : JsonRpcMessage}
    {sent : Except McpError Unit} (routed : shared.broker.Routed)
    (wrote : shared.write message = (after,sent)) : Follows shared.broker after.broker := by
  rw [broker_of_write wrote]
  exact .refl routed

/-- What a step of a worker does to the broker and to its own question. -/
inductive WorkerTurn (worker : Worker C) (before after : RequestBroker) (next : Worker C) : Prop
  | kept (same : after = before)
      (asks : next.phase.asks = none ∨ next.phase.asks = worker.phase.asks ∧
        next.phase.channelOf = worker.phase.channelOf)
  | gaveUp (id : RequestId) (given : after = before.abandon id) (asks : next.phase.asks = none)
  | drew (id : RequestId) (drawn : before.nextRequestId = some (after,id))
      (asks : next.phase.asks = some id) (free : next.phase.channelOf = none)
  | registered (id : RequestId) (asked : worker.phase.asks = some id)
      (free : worker.phase.channelOf = none) (same : after = (before.registerWaiter id).1)
      (asks : next.phase.asks = some id)
      (held : next.phase.channelOf = some (before.registerWaiter id).2)

namespace Worker

theorem settle_turn (worker : Worker C) (shared : Shared) (question : Question)
    (next : Except McpError Json → ToolProg C) (outcome : Except McpError Json) :
    WorkerTurn worker shared.broker (worker.settle shared question next outcome).1.broker
      (worker.settle shared question next outcome).2 := by
  rcases afterWait_broker (worker.setTaskStatus shared .working) (some worker.taskId)
    (worker.isCancelled (worker.setTaskStatus shared .working)) question outcome with same | given
  · exact .kept same (.inl rfl)
  · exact .gaveUp question.id given rfl

theorem await_turn {worker : Worker C} {shared : Shared} {question : Question} {channel : Nat}
    {receiving : Bool} {next : Except McpError Json → ToolProg C}
    (asking : worker.phase = .asking question channel receiving next) :
    WorkerTurn worker shared.broker
      (worker.await shared question channel receiving next).1.broker
      (worker.await shared question channel receiving next).2 := by
  have waiting (looking : Bool) : WorkerTurn worker shared.broker shared.broker
      (worker.goto (.asking question channel looking next)) :=
    .kept rfl (.inr (by rw [asking]; exact ⟨rfl,rfl⟩))
  unfold await
  split
  · split
    · exact settle_turn worker shared question next _
    · split
      · exact settle_turn worker shared question next _
      · exact waiting true
  · split
    · exact settle_turn worker shared question next _
    · exact settle_turn worker shared question next _
    · exact waiting false

theorem runTool_turn {worker next : Worker C} {shared after : Shared} {answer : Json}
    {prog : ToolProg C} (taken : worker.runTool shared answer prog = some (after,next)) :
    WorkerTurn worker shared.broker after.broker next := by
  cases prog with
  | returned context result => cases taken; exact .kept rfl (.inl rfl)
  | panicked context message => cases taken; exact .kept rfl (.inl rfl)
  | notify method params continue_ =>
    cases taken
    exact .kept (Shared.write_broker _ _) (.inl rfl)
  | request method params timeout continue_ =>
    rcases runTool_request taken with ⟨broker,id,-,drawn,rfl,rfl⟩ | ⟨-,rfl,rfl⟩
    · exact .drew id drawn rfl rfl
    · exact .kept rfl (.inl rfl)
  | checkCancelled continue_ => cases taken; exact .kept rfl (.inl rfl)
  | observe continue_ => cases taken; exact .kept rfl (.inl rfl)

theorem announce_broker (worker : Worker C) (shared : Shared) :
    (worker.announce shared).broker = shared.broker := by
  unfold announce
  split
  · rw [Shared.tryWrite_broker,Shared.setStore_broker]
  · rfl

theorem step_turn {worker next : Worker C} {shared after : Shared} {answer : Json}
    (taken : worker.step shared answer = some (after,next)) :
    WorkerTurn worker shared.broker after.broker next := by
  cases step_taken taken with
  | gated | unwound | built => exact .kept rfl (.inl rfl)
  | running _ ran => exact runTool_turn ran
  | @allocated question _ _ allocated =>
    refine .registered question.id ?_ ?_ rfl rfl rfl
    · rw [allocated]
      rfl
    · rw [allocated]
      rfl
  | sent registered wrote =>
    have sent := broker_of_write wrote
    refine .kept sent (.inr ?_)
    rw [registered]
    exact ⟨rfl,rfl⟩
  | @unsent question _ _ _ _ _ _ wrote =>
    refine .gaveUp question.id ?_ rfl
    rw [Shared.setBroker_broker,broker_of_write wrote]
  | asking asking => exact await_turn asking
  | finishing => exact .kept rfl (.inl rfl)
  | announcing => exact .kept (worker.announce_broker shared) (.inl rfl)

end Worker

/-! ## One step of the loop's own thread -/

/-- Workers keep their phases; one that is new has no question. -/
def Attended (loop next : ServerLoop C) : Prop :=
  ∀ (index : Nat) (worker : Worker C), next.workers[index]? = some worker →
    worker.phase.asks = none ∨
      ∃ old, loop.workers[index]? = some old ∧ worker.phase = old.phase

theorem attended_same {loop next : ServerLoop C} (same : next.workers = loop.workers) :
    Attended loop next := by
  intro index worker found
  rw [same] at found
  exact .inr ⟨worker,found,rfl⟩

theorem attended_release {loop next : ServerLoop C}
    (same : next.workers = loop.releaseTaskWorkers.workers) : Attended loop next := by
  intro index worker found
  rw [same] at found
  simp only [ServerLoop.releaseTaskWorkers,List.getElem?_map,Option.map_eq_some_iff] at found
  obtain ⟨old,there,rfl⟩ := found
  exact .inr ⟨old,there,rfl⟩

/-- A step of the loop's own thread that draws no id. -/
structure LoopTurn (loop next : ServerLoop C) : Prop where
  follows : Follows loop.shared.broker next.shared.broker
  mode : next.mode.asks = none ∨ next.mode.asks = loop.mode.asks
  workers : Attended loop next

theorem LoopTurn.carries {loop next : ServerLoop C} (turn : LoopTurn loop next)
    (thread : Option Nat) : Carries loop.asks next.asks loop.channelOf next.channelOf thread := by
  cases thread with
  | none =>
    rcases turn.mode with done | same
    · exact .inl done
    · exact .inr ⟨same,rfl⟩
  | some index =>
    cases found : next.workers[index]? with
    | none =>
      left
      simp [ServerLoop.asks,found]
    | some worker =>
      rcases turn.workers index worker found with done | ⟨old,there,same⟩
      · left
        simpa [ServerLoop.asks,found] using done
      · right
        simp [ServerLoop.asks,ServerLoop.channelOf,found,there,same]

theorem LoopTurn.asked {loop next : ServerLoop C} (asked : loop.Asked)
    (turn : LoopTurn loop next) : next.Asked := asked.follow turn.follows turn.carries

namespace ServerLoop

variable {loop : ServerLoop C}

/-- A move of the loop that touches the workers no further than a write does. -/
structure Written (loop after : ServerLoop C) : Prop where
  follows : Follows loop.shared.broker after.shared.broker
  workers : Attended loop after

theorem Written.goto {after : ServerLoop C} (written : Written loop after) {mode : LoopMode C}
    (asks : mode.asks = none ∨ mode.asks = loop.mode.asks) : LoopTurn loop (after.goto mode) :=
  ⟨written.follows,asks,written.workers⟩

theorem written_shared {shared : Shared} (follows : Follows loop.shared.broker shared.broker) :
    Written loop (loop.withShared shared) := ⟨follows,attended_same rfl⟩

theorem written_writeMessage (routed : loop.shared.broker.Routed) (message : JsonRpcMessage) :
    Written loop (loop.writeMessage message).1 :=
  ⟨write_follows routed rfl,attended_release rfl⟩

theorem written_shedOrDefer (routed : loop.shared.broker.Routed) (message : JsonRpcMessage) :
    Written loop (loop.shedOrDefer message).1 := by
  have deferred := RequestBroker.defer_follows routed message
  unfold shedOrDefer
  split
  · rename_i broker queued
    rw [queued] at deferred
    exact written_shared deferred
  · split
    · exact written_writeMessage routed _
    · exact written_shared (.refl routed)

theorem written_shedOrDeferQuietly (routed : loop.shared.broker.Routed)
    (message : JsonRpcMessage) : Written loop (loop.shedOrDeferQuietly message) := by
  have deferred := RequestBroker.defer_follows routed message
  unfold shedOrDeferQuietly
  split
  · rename_i broker queued
    rw [queued] at deferred
    exact written_shared deferred
  · split
    · refine written_shared ?_
      rw [Shared.tryWrite_broker]
      exact .refl routed
    · exact written_shared (.refl routed)

theorem thenIdle_turn {written : ServerLoop C × Except McpError Unit}
    (moved : Written loop written.1) : LoopTurn loop (thenIdle written) := by
  unfold thenIdle
  split <;> exact moved.goto (.inl rfl)

theorem thenPump_turn {written : ServerLoop C × Except McpError Unit} (request : JsonRpcRequest)
    (taskId : String) (moved : Written loop written.1) :
    LoopTurn loop (thenPump request taskId written) := by
  unfold thenPump
  split <;> exact moved.goto (.inl rfl)

theorem dispatch_turn (routed : loop.shared.broker.Routed) (request : JsonRpcRequest)
    (freshId : String) : LoopTurn loop (loop.dispatch request freshId) := by
  unfold dispatch
  split
  rename_i server store next _
  cases next with
  | await taskId =>
    by_cases pump : server.canPump = true
    · simp only [pump,if_true]
      exact ⟨.refl routed,.inl rfl,attended_same rfl⟩
    · simp only [pump]
      exact ⟨.refl routed,.inl rfl,attended_same rfl⟩
  | _ => exact ⟨.refl routed,.inl rfl,attended_same rfl⟩

theorem handleNotification_follows {broker : RequestBroker} (routed : broker.Routed)
    (notification : JsonRpcNotification) :
    Follows broker (broker.handleNotification notification) := by
  unfold RequestBroker.handleNotification
  split
  · exact RequestBroker.cancel_follows routed _
  · exact .refl routed

theorem handleMessage_turn (routed : loop.shared.broker.Routed) (message : JsonRpcMessage)
    (freshId : String) : LoopTurn loop (loop.handleMessage message freshId) := by
  cases message with
  | request asked => exact dispatch_turn routed asked freshId
  | notification notification =>
    exact ⟨handleNotification_follows routed notification,.inr rfl,attended_same rfl⟩
  | response given =>
    exact ⟨RequestBroker.deliver_follows routed given,.inr rfl,attended_same rfl⟩

theorem readMain_turn (routed : loop.shared.broker.Routed)
    (event : Except McpError JsonRpcMessage) (freshId : String) :
    LoopTurn loop (loop.readMain event freshId) := by
  unfold readMain
  split
  · exact handleMessage_turn routed _ freshId
  · exact (written_shared (.refl routed)).goto (.inl rfl)
  · exact ⟨.refl routed,.inr rfl,attended_same rfl⟩
  · split
    · exact thenIdle_turn (written_writeMessage routed _)
    · exact (written_shared (.refl routed)).goto (.inl rfl)

theorem written_setStore (routed : loop.shared.broker.Routed) (store : TaskStore) :
    Written loop (loop.withShared (loop.shared.setStore store)) := written_shared (.refl routed)

theorem pumpLook_turn (routed : loop.shared.broker.Routed) (request : JsonRpcRequest)
    (taskId : String) : LoopTurn loop (loop.pumpLook request taskId) := by
  unfold pumpLook
  split <;> exact (written_setStore routed _).goto (.inl rfl)

theorem readPump_turn (routed : loop.shared.broker.Routed) (request : JsonRpcRequest)
    (taskId : String) (event : Except McpError JsonRpcMessage) (freshId : String) :
    LoopTurn loop (loop.readPump request taskId event freshId) := by
  have deferring (other : JsonRpcMessage) :
      LoopTurn loop (thenPump request taskId (loop.shedOrDefer other)) :=
    thenPump_turn request taskId (written_shedOrDefer routed other)
  have again : LoopTurn loop (loop.goto (.pumping request taskId false)) :=
    (written_shared (.refl routed)).goto (.inl rfl)
  cases event with
  | error e =>
    simp only [readPump]
    split
    · exact again
    · split
      · exact thenPump_turn request taskId (written_writeMessage routed _)
      · exact (written_shared (.refl routed)).goto (.inl rfl)
    all_goals contradiction
  | ok message =>
    cases message with
    | notification notification => exact deferring (.notification notification)
    | response given =>
      exact ⟨RequestBroker.deliver_follows routed given,.inl rfl,attended_same rfl⟩
    | request arrived =>
      simp only [readPump]
      split
      · rename_i store answer _
        have stored : (loop.withShared (loop.shared.setStore store)).shared.broker.Routed := routed
        have sent : Written loop
            ((loop.withShared (loop.shared.setStore store)).writeMessage answer).1 :=
          ⟨(written_writeMessage stored answer).follows,attended_release rfl⟩
        exact thenPump_turn request taskId sent
      · exact deferring (.request arrived)

theorem blockedLook_turn (routed : loop.shared.broker.Routed) (request : JsonRpcRequest)
    (taskId : String) (since : Nat) : LoopTurn loop (loop.blockedLook request taskId since) := by
  unfold blockedLook
  simp only
  split
  · exact (written_setStore routed _).goto (.inl rfl)
  · exact ⟨.refl routed,.inr rfl,attended_same rfl⟩

theorem settle_turn (routed : loop.shared.broker.Routed) (request : JsonRpcRequest)
    (call : ToolCall C) (question : Question) (next : Except McpError Json → ToolProg C)
    (outcome : Except McpError Json) :
    LoopTurn loop (loop.settle request call question next outcome) :=
  (written_shared (afterWait_follows routed _ _ _ _)).goto (.inl rfl)

/-- The wait of a tool that ends after the broker was asked first. -/
theorem settle_after_turn {broker : RequestBroker} (follows : Follows loop.shared.broker broker)
    (request : JsonRpcRequest) (call : ToolCall C) (question : Question)
    (next : Except McpError Json → ToolProg C) (outcome : Except McpError Json) :
    LoopTurn loop ((loop.withBroker broker).settle request call question next outcome) := by
  have routed : (loop.shared.setBroker broker).broker.Routed := follows.routed
  exact (written_shared (follows.trans (afterWait_follows routed _ _ _ _))).goto (.inl rfl)

theorem askLook_turn (routed : loop.shared.broker.Routed) {request : JsonRpcRequest}
    {call : ToolCall C} {question : Question} {reading : Bool}
    {next : Except McpError Json → ToolProg C}
    (asking : loop.mode = .asking request call question reading next) :
    LoopTurn loop (loop.askLook request call question next) := by
  have taken := RequestBroker.takeParked_follows routed question.id
  unfold askLook
  split
  · rename_i broker response found
    rw [found] at taken
    exact settle_after_turn taken _ _ _ _ _
  · split
    · exact settle_turn routed _ _ _ _ _
    · exact (written_shared (.refl routed)).goto (.inr (by rw [asking]; rfl))

theorem readAsking_turn (routed : loop.shared.broker.Routed) {request : JsonRpcRequest}
    {call : ToolCall C} {question : Question} {reading : Bool}
    {next : Except McpError Json → ToolProg C}
    (asking : loop.mode = .asking request call question reading next)
    (event : Except McpError JsonRpcMessage) :
    LoopTurn loop (loop.readAsking request call question next event) := by
  have same : (LoopMode.asking request call question false next : LoopMode C).asks =
      loop.mode.asks := by
    rw [asking]
    rfl
  have aside (other : JsonRpcMessage) : LoopTurn loop (if cancelledHere other question.id then
        (loop.withBroker (loop.shared.broker.abandon question.id)).settle request call question
          next (.error (.internal ("the client cancelled request " ++ question.id.debug)))
      else (loop.shedOrDeferQuietly other).goto (.asking request call question false next)) := by
    split
    · exact settle_after_turn (RequestBroker.abandon_follows routed _) _ _ _ _ _
    · exact (written_shedOrDeferQuietly routed other).goto (.inr same)
  cases event with
  | error e => exact settle_turn routed _ _ _ _ _
  | ok message =>
    cases message with
    | notification notification => exact aside (.notification notification)
    | request arrived => exact aside (.request arrived)
    | response given =>
      simp only [readAsking]
      split
      · exact settle_turn routed _ _ _ _ _
      · exact (written_shared (RequestBroker.deliver_follows routed given)).goto (.inr same)

theorem launchTask_turn (routed : loop.shared.broker.Routed) (request : JsonRpcRequest)
    (start : TaskStart C) (spawnError : Option String) :
    LoopTurn loop (loop.launchTask request start spawnError) := by
  unfold launchTask TaskStart.launch
  cases start.call.entry.tool.modelImmediateResponse with
  | error message => exact (written_shared (.refl routed)).goto (.inl rfl)
  | ok text =>
    cases spawnError with
    | some reason =>
      refine ⟨.refl routed,.inl rfl,attended_same ?_⟩
      exact List.append_nil _
    | none =>
      refine ⟨.refl routed,.inl rfl,?_⟩
      intro index worker found
      have there : (loop.workers ++ [start.worker loop.server loop.shared.instant])[index]? =
        some worker := found
      rw [List.getElem?_append] at there
      split at there
      · exact .inr ⟨worker,there,rfl⟩
      · have fresh := List.mem_of_getElem? there
        rw [List.mem_singleton] at fresh
        subst fresh
        exact .inl rfl

/-! ## Every step -/

/-- What a step does to the questions. The loop's own thread draws an id, or none, or a
worker takes its turn. -/
inductive LoopMove (loop next : ServerLoop C) : Prop
  | turned (turn : LoopTurn loop next)
  | drew (id : RequestId)
      (drawn : loop.shared.broker.nextRequestId = some (next.shared.broker,id))
      (asks : next.mode.asks = some id) (workers : next.workers = loop.workers)
  | worked (index : Nat) (worker after : Worker C) (there : loop.workers[index]? = some worker)
      (turn : WorkerTurn worker loop.shared.broker next.shared.broker after)
      (mode : next.mode = loop.mode) (workers : next.workers = loop.workers.set index after)

/-- A question of a tool on the loop's own thread: it draws an id, which is its own
once the request is written. -/
theorem runTool_move (routed : loop.shared.broker.Routed) {after : ServerLoop C}
    {request : JsonRpcRequest} {call : ToolCall C} {prog : ToolProg C} {answer : Json}
    (taken : loop.runTool request call answer prog = some after) : LoopMove loop after := by
  have stays {mode : LoopMode C} (free : mode.asks = none) : LoopMove loop (loop.goto mode) :=
    .turned ((written_setStore routed loop.shared.store).goto (.inl free))
  cases prog with
  | returned context result =>
    cases taken
    exact .turned ⟨.refl routed,.inl rfl,attended_same rfl⟩
  | panicked context message =>
    cases taken
    exact .turned ⟨.refl routed,.inl rfl,attended_same rfl⟩
  | notify method params next =>
    cases taken
    exact .turned ((written_shared (write_follows routed rfl)).goto (.inl rfl))
  | request method params timeout next =>
    obtain ⟨broker,id,sent,drawn,ends⟩ := runTool_request taken
    obtain ⟨follows,_⟩ := RequestBroker.nextRequestId_follows routed drawn
    have drew : (loop.shared.setBroker broker).broker.Routed := follows.routed
    rcases ends with ⟨wrote,rfl⟩ | ⟨e,wrote,rfl⟩
    · have same : sent.broker = broker := broker_of_write wrote
      refine .drew id ?_ rfl rfl
      exact same ▸ drawn
    · have written := write_follows drew wrote
      have given := RequestBroker.abandon_follows written.routed id
      exact .turned ((written_shared (follows.trans (written.trans given))).goto (.inl rfl))
  | checkCancelled next => cases taken; exact stays rfl
  | observe next => cases taken; exact stays rfl

theorem step_move (routed : loop.shared.broker.Routed) {label : LoopLabel} {next : ServerLoop C}
    (taken : loop.step label = some next) : LoopMove loop next := by
  cases step_taken taken with
  | readMain => exact .turned (readMain_turn routed _ _)
  | readPump => exact .turned (readPump_turn routed _ _ _ _)
  | readAsking asking => exact .turned (readAsking_turn routed asking _)
  | @replay freshId broker message idle queued =>
    have drawn := RequestBroker.nextDeferred_follows routed
    rw [queued] at drawn
    have middle : (loop.withBroker broker).shared.broker.Routed := drawn.routed
    have turn := handleMessage_turn middle message freshId
    exact .turned ⟨drawn.trans turn.follows,turn.mode,turn.workers⟩
  | pumpLook => exact .turned (pumpLook_turn routed _ _)
  | blockedLook => exact .turned (blockedLook_turn routed _ _ _)
  | askLook asking => exact .turned (askLook_turn routed asking)
  | run running ran => exact runTool_move routed ran
  | launch => exact .turned (launchTask_turn routed _ _ _)
  | reply => exact .turned (thenIdle_turn (written_writeMessage routed _))
  | work there worked => exact .worked _ _ _ there (Worker.step_turn worked) rfl rfl
  | clock | wire => exact .turned ⟨.refl routed,.inr rfl,attended_same rfl⟩

/-- The workers but one keep their questions, and so does the loop. -/
theorem asks_set {index : Nat} {next : Worker C} {after : ServerLoop C}
    (mode : after.mode = loop.mode) (workers : after.workers = loop.workers.set index next)
    {thread : Option Nat} (apart : thread ≠ some index) :
    after.asks thread = loop.asks thread ∧ after.channelOf thread = loop.channelOf thread := by
  cases thread with
  | none =>
    refine ⟨?_,rfl⟩
    simp only [asks,mode]
  | some position =>
    have different : index ≠ position := fun same => apart (by rw [same])
    simp [asks,channelOf,workers,List.getElem?_set_ne different]

theorem asks_set_self {index : Nat} {worker next : Worker C} {after : ServerLoop C}
    (there : loop.workers[index]? = some worker)
    (workers : after.workers = loop.workers.set index next) :
    after.asks (some index) = next.phase.asks ∧
      after.channelOf (some index) = next.phase.channelOf := by
  have inside : index < loop.workers.length := (List.getElem?_eq_some_iff.mp there).1
  simp [asks,channelOf,workers,inside]

theorem asks_of_worker {index : Nat} {worker : Worker C}
    (there : loop.workers[index]? = some worker) :
    loop.asks (some index) = worker.phase.asks ∧
      loop.channelOf (some index) = worker.phase.channelOf := by
  simp [asks,channelOf,there]

theorem worker_registers (asked : loop.Asked) {index : Nat} {worker : Worker C}
    (there : loop.workers[index]? = some worker) {id : RequestId}
    (asks : worker.phase.asks = some id) (free : worker.phase.channelOf = none) :
    RequestBroker.Registers loop.shared.broker id (loop.shared.broker.registerWaiter id).1
      (loop.shared.broker.registerWaiter id).2 := by
  have before := asks_of_worker there
  have known := asked.drawn (some index) id (before.1.trans asks)
  have unheld := asked.unregistered (some index) id (before.1.trans asks) (before.2.trans free)
  exact RequestBroker.registerWaiter_registers asked.routed known unheld

/-- A worker that draws and registers nothing goes on with its question or is done. -/
theorem carries_set {index : Nat} {worker next : Worker C} {after : ServerLoop C}
    (there : loop.workers[index]? = some worker) (mode : after.mode = loop.mode)
    (workers : after.workers = loop.workers.set index next)
    (phase : next.phase.asks = none ∨ next.phase.asks = worker.phase.asks ∧
      next.phase.channelOf = worker.phase.channelOf) (thread : Option Nat) :
    Carries loop.asks after.asks loop.channelOf after.channelOf thread := by
  by_cases here : thread = some index
  · subst here
    unfold Carries
    rw [(asks_set_self there workers).1,(asks_set_self there workers).2,(asks_of_worker there).1,
      (asks_of_worker there).2]
    exact phase
  · exact .inr (asks_set mode workers here)

theorem LoopMove.asked (asked : loop.Asked) {after : ServerLoop C} (move : LoopMove loop after) :
    after.Asked := by
  cases move with
  | turned turn => exact turn.asked asked
  | drew id drawn asks workers =>
    refine RequestBroker.Askers.draw asked none drawn asks rfl ?_
    intro other apart
    cases other with
    | none => exact (apart rfl).elim
    | some index => exact .inr (by simp [ServerLoop.asks,channelOf,workers])
  | worked index worker next there turn mode workers =>
    have now := asks_set_self there workers
    have before := asks_of_worker there
    have others : ∀ other, other ≠ some index →
        Carries loop.asks after.asks loop.channelOf after.channelOf other :=
      fun other apart => .inr (asks_set mode workers apart)
    cases turn with
    | kept same phase =>
      refine asked.follow ?_ (carries_set there mode workers phase)
      rw [same]
      exact .refl asked.routed
    | gaveUp id given done =>
      refine asked.follow ?_ (carries_set there mode workers (.inl done))
      rw [given]
      exact RequestBroker.abandon_follows asked.routed id
    | drew id drawn asking free =>
      exact asked.draw (some index) drawn (now.1.trans asking) (now.2.trans free) others
    | registered id asking free same after held =>
      have registers := worker_registers asked there asking free
      rw [← same] at registers
      exact asked.register registers (before.1.trans asking) (now.1.trans after)
        (now.2.trans held) others

theorem step_asked (loop : ServerLoop C) (label : LoopLabel) (next : ServerLoop C)
    (asked : loop.Asked) (taken : loop.step label = some next) : next.Asked :=
  LoopMove.asked asked (step_move asked.routed taken)

theorem start_asked (server : Server C) (context : C) (store : TaskStore) (now : SystemTime)
    (instant : Nat) : (start server context store now instant).Asked where
  routed := RequestBroker.routed_new
  drawn thread id asking := by cases thread <;> cases asking
  apart first second id one := by cases first <;> cases one
  unregistered thread id asking := by cases thread <;> cases asking
  registered thread id channel asking := by cases thread <;> cases asking

/-- In every state a run reaches. -/
theorem run_asked {server : Server C} {context : C} {store : TaskStore} {now : SystemTime}
    {instant : Nat} {labels : List LoopLabel} {loop : ServerLoop C}
    (run : Runs.execute step (start server context store now instant) labels = some loop) :
    loop.Asked :=
  Runs.invariant step_asked run (start_asked server context store now instant)

end ServerLoop

end SmlMcps
