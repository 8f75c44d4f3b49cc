import SmlMcps.LoopQuestions
import SmlMcps.TaskOrphans

/-! Cancellation of a question a worker has asked. The main loop acts on the notice at
once; the pump and the wait of another tool queue it behind themselves, and a worker
that is waiting goes on waiting while they read on. -/
namespace SmlMcps

variable {C : Type}

open RequestBroker (Follows)

/-- The worker at `index` waits on `channel` for the answer to `question`, and nothing
has come. -/
structure ServerLoop.Awaits (loop : ServerLoop C) (index : Nat) (question : Question)
    (channel : Nat) : Prop where
  waiting : ∃ worker receiving next, loop.workers[index]? = some worker ∧
    worker.phase = .asking question channel receiving next
  empty : loop.shared.broker.receive channel = .empty

/-- The steps that may come between two messages read by one reader. -/
def LoopLabel.between : LoopLabel → Bool
  | .look | .work _ _ | .clock _ _ | .wire _ => true
  | _ => false

/-- The loop's thread is about to read. -/
def ServerLoop.reads (loop : ServerLoop C) : Bool :=
  match loop.mode with
  | .idle => loop.shared.broker.deferred.isEmpty
  | .pumping _ _ reading => reading
  | .asking _ _ _ reading _ => reading
  | _ => false

/-- That is, where it takes what is read. -/
theorem ServerLoop.reads_iff (loop : ServerLoop C) (event : Except McpError JsonRpcMessage)
    (freshId : String) : (loop.step (.read event freshId)).isSome = loop.reads := by
  show (loop.readStep event freshId).isSome = loop.reads
  unfold readStep reads
  cases loop.mode with
  | idle =>
    simp only
    cases loop.shared.broker.deferred.isEmpty <;> rfl
  | pumping request taskId reading => cases reading <;> rfl
  | asking request call question reading next => cases reading <;> rfl
  | _ => rfl

/-- Whenever the reader is about to read again, the waiter's sender has been dropped:
its wait ends with the error that the response can no longer be delivered. -/
def ServerLoop.WokenFirst (after : ServerLoop C) (channel : Nat) : Prop :=
  ∀ labels later, (∀ label ∈ labels, label.between = true) →
    Runs.execute step after labels = some later → later.reads = true →
      later.shared.broker.receive channel = .disconnected

/-- The wait the reader is in is over whatever it looks at next: the task it awaits is
not there or has finished, the deadline of its own question has passed. -/
def ServerLoop.waitOver (loop : ServerLoop C) : Bool :=
  match loop.mode with
  | .pumping _ taskId _ => (loop.shared.store.visible taskId loop.server.requestor).all
      fun record => record.task.status.isTerminal
  | .asking _ _ question _ _ => question.due loop.shared.instant
  | _ => false

namespace ServerLoop

theorem workStep_taken {loop after : ServerLoop C} {index : Nat} {answer : Json}
    (taken : loop.workStep index answer = some after) :
    ∃ worker next shared, loop.workers[index]? = some worker ∧
      worker.step loop.shared answer = some (shared,next) ∧
      after = { loop with shared := shared, workers := loop.workers.set index next } := by
  unfold workStep at taken
  split at taken
  · cases taken
  · rename_i worker there
    obtain ⟨⟨shared,next⟩,worked,rfl⟩ := Option.map_eq_some_iff.mp taken
    exact ⟨worker,next,shared,there,worked,rfl⟩

end ServerLoop

namespace Worker

theorem step_instant {worker next : Worker C} {shared after : Shared} {answer : Json}
    (taken : worker.step shared answer = some (after,next)) : after.instant = shared.instant := by
  have settled (question : Question) (continue_ : Except McpError Json → ToolProg C)
      (outcome : Except McpError Json) :
      (worker.settle shared question continue_ outcome).1.instant = shared.instant := by
    unfold settle
    simp only [Shared.afterWait_instant]
    rfl
  cases step_taken taken with
  | gated | unwound | built | allocated | finishing => rfl
  | @running prog _ _ _ ran =>
    cases prog with
    | request method params timeout continue_ =>
      rcases runTool_request ran with ⟨broker,id,-,-,rfl,-⟩ | ⟨-,rfl,-⟩
      · rfl
      · rfl
    | notify method params continue_ =>
      cases ran
      exact Shared.write_instant _ _
    | _ => cases ran; rfl
  | @sent _ _ request _ _ _ wrote =>
    have sent := shared.write_instant (.request request)
    rw [wrote] at sent
    exact sent
  | @unsent _ _ request _ _ _ _ wrote =>
    have sent := shared.write_instant (.request request)
    rw [wrote] at sent
    exact sent
  | asking =>
    unfold await
    split
    · split
      · exact settled _ _ _
      · split
        · exact settled _ _ _
        · rfl
    · split
      · exact settled _ _ _
      · exact settled _ _ _
      · rfl
  | announcing =>
    unfold announce
    split
    · exact Shared.tryWrite_instant _ _
    · rfl

end Worker

/-! ## A tool that is reading has no answer parked -/

/-- The question whose asker is in `read`. -/
def LoopMode.readsFor : LoopMode C → Option RequestId
  | .asking _ _ question true _ => some question.id
  | _ => none

namespace ServerLoop

def Unparked (loop : ServerLoop C) : Prop :=
  ∀ id, loop.mode.readsFor = some id → (loop.shared.broker.takeParked id).2 = none

@[simp] theorem readsFor_thenIdle (written : ServerLoop C × Except McpError Unit) :
    (thenIdle written).mode.readsFor = none := by
  unfold thenIdle
  split <;> rfl

@[simp] theorem readsFor_thenPump (request : JsonRpcRequest) (taskId : String)
    (written : ServerLoop C × Except McpError Unit) :
    (thenPump request taskId written).mode.readsFor = none := by
  unfold thenPump
  split <;> rfl

theorem unparked_of_readsFor {loop : ServerLoop C} (none : loop.mode.readsFor = none) :
    loop.Unparked := by
  intro id reading
  rw [none] at reading
  cases reading

theorem readsFor_handleMessage {loop : ServerLoop C} (idle : loop.mode = .idle)
    (message : JsonRpcMessage) (freshId : String) :
    (loop.handleMessage message freshId).mode.readsFor = none := by
  have resting : loop.mode.readsFor = none := by rw [idle]; rfl
  cases message with
  | notification notification => exact resting
  | response given => exact resting
  | request arrived =>
    show (loop.dispatch arrived freshId).mode.readsFor = none
    unfold dispatch
    split
    rename_i server store next _
    cases next with
    | await taskId => by_cases pump : server.canPump = true <;> simp [pump] <;> rfl
    | _ => rfl

theorem readsFor_readMain {loop : ServerLoop C} (idle : loop.mode = .idle)
    (event : Except McpError JsonRpcMessage) (freshId : String) :
    (loop.readMain event freshId).mode.readsFor = none := by
  have resting : loop.mode.readsFor = none := by rw [idle]; rfl
  unfold readMain
  split
  · exact readsFor_handleMessage idle _ freshId
  · rfl
  · exact resting
  · split
    · simp
    · rfl

theorem readsFor_readPump (loop : ServerLoop C) (request : JsonRpcRequest) (taskId : String)
    (event : Except McpError JsonRpcMessage) (freshId : String) :
    (loop.readPump request taskId event freshId).mode.readsFor = none := by
  unfold readPump
  simp only
  split
  · rfl
  · split
    · simp
    · rfl
  · rfl
  · split <;> simp
  · simp

theorem readsFor_readAsking (loop : ServerLoop C) (request : JsonRpcRequest) (call : ToolCall C)
    (question : Question) (next : Except McpError Json → ToolProg C)
    (event : Except McpError JsonRpcMessage) :
    (loop.readAsking request call question next event).mode.readsFor = none := by
  unfold readAsking
  simp only
  split
  · rfl
  · split <;> rfl
  · split <;> rfl

theorem readsFor_runTool {loop after : ServerLoop C} {request : JsonRpcRequest}
    {call : ToolCall C} {prog : ToolProg C} {answer : Json}
    (taken : loop.runTool request call answer prog = some after) :
    after.mode.readsFor = none := by
  cases prog with
  | request method params timeout next =>
    obtain ⟨broker,id,sent,-,⟨-,rfl⟩ | ⟨e,-,rfl⟩⟩ := runTool_request taken
    · rfl
    · rfl
  | _ => cases taken; rfl

theorem readsFor_pumpLook (loop : ServerLoop C) (request : JsonRpcRequest) (taskId : String) :
    (loop.pumpLook request taskId).mode.readsFor = none := by
  unfold pumpLook
  split <;> rfl

theorem readsFor_blockedLook {loop : ServerLoop C} {request : JsonRpcRequest} {taskId : String}
    {since : Nat} (blocked : loop.mode = .blocked request taskId since) :
    (loop.blockedLook request taskId since).mode.readsFor = none := by
  unfold blockedLook
  simp only
  split
  · rfl
  · show loop.mode.readsFor = none
    rw [blocked]
    rfl

/-- A wait that goes on to read had nothing parked for it. -/
theorem unparked_askLook (loop : ServerLoop C) (request : JsonRpcRequest) (call : ToolCall C)
    (question : Question) (continue_ : Except McpError Json → ToolProg C) :
    (loop.askLook request call question continue_).Unparked := by
  unfold askLook
  split
  · exact unparked_of_readsFor rfl
  · rename_i found
    split
    · exact unparked_of_readsFor rfl
    · intro id reading
      cases reading
      show (loop.shared.broker.takeParked question.id).2 = none
      rw [found]

/-- No step of a worker parks a response. -/
theorem unparked_work {loop next : ServerLoop C} {index : Nat} {answer : Json}
    (unparked : loop.Unparked) (taken : loop.workStep index answer = some next) :
    next.Unparked := by
  obtain ⟨worker,moved,shared,_,worked,rfl⟩ := workStep_taken taken
  have fewer : shared.broker.parked.Sublist loop.shared.broker.parked := by
    cases Worker.step_turn worked with
    | kept same asks => rw [same]
    | gaveUp id given asks =>
      rw [given]
      exact List.filter_sublist
    | drew id drawn asks free =>
      unfold RequestBroker.nextRequestId at drawn
      split at drawn
      · simp only [Option.some.injEq,Prod.mk.injEq] at drawn
        rw [← drawn.1]
      · cases drawn
    | registered id asked free same asks held =>
      rw [same]
      exact .refl _
  intro id reading
  have before := unparked id reading
  show (shared.broker.takeParked id).2 = none
  rw [RequestBroker.takeParked_found,List.find?_eq_none] at before ⊢
  intro response member
  exact before response (fewer.subset member)

theorem unparked_step (loop : ServerLoop C) (label : LoopLabel) (next : ServerLoop C)
    (unparked : loop.Unparked) (taken : loop.step label = some next) : next.Unparked := by
  cases step_taken taken with
  | readMain idle => exact unparked_of_readsFor (readsFor_readMain idle _ _)
  | readPump => exact unparked_of_readsFor (readsFor_readPump loop _ _ _ _)
  | readAsking => exact unparked_of_readsFor (readsFor_readAsking loop _ _ _ _ _)
  | @replay freshId broker message idle =>
    have stays : (loop.withBroker broker).mode = .idle := idle
    exact unparked_of_readsFor (readsFor_handleMessage stays message freshId)
  | pumpLook => exact unparked_of_readsFor (readsFor_pumpLook loop _ _)
  | blockedLook blocked => exact unparked_of_readsFor (readsFor_blockedLook blocked)
  | askLook => exact unparked_askLook loop _ _ _ _
  | run running ran => exact unparked_of_readsFor (readsFor_runTool ran)
  | launch =>
    apply unparked_of_readsFor
    unfold launchTask
    split <;> rfl
  | reply => exact unparked_of_readsFor (readsFor_thenIdle _)
  | work => exact unparked_work unparked taken
  | clock | wire => exact unparked

/-! ## The main loop reads the notice -/

/-- What the invariant says of a worker that waits. -/
theorem Awaits.held {loop : ServerLoop C} {index : Nat} {question : Question} {channel : Nat}
    (awaits : loop.Awaits index question channel) (asked : loop.Asked) :
    loop.asks (some index) = some question.id ∧ loop.shared.broker.Open channel ∧
      loop.shared.broker.waiter? question.id = some channel := by
  obtain ⟨worker,receiving,next,there,asking⟩ := awaits.waiting
  have asks : loop.asks (some index) = some question.id := by
    simp [ServerLoop.asks,there,asking,WorkerPhase.asks]
  have channelOf : loop.channelOf (some index) = some channel := by
    simp [ServerLoop.channelOf,there,asking,WorkerPhase.channelOf]
  have opened := (RequestBroker.receive_empty_iff _ _).mp awaits.empty
  exact ⟨asks,opened,(asked.registered (some index) question.id channel asks channelOf).2 opened⟩

theorem cancel_drops {loop : ServerLoop C} {index : Nat} {question : Question} {channel : Nat}
    {notification : JsonRpcNotification} (asked : loop.Asked)
    (awaits : loop.Awaits index question channel)
    (names : cancelledRequestId notification = some question.id) :
    (loop.shared.broker.handleNotification notification).Dropped channel := by
  obtain ⟨asks,opened,registered⟩ := awaits.held asked
  have issued := RequestBroker.wasIssuedHere_of_issued (asked.drawn (some index) question.id asks)
    asked.routed.bound
  have lookup : AList.lookup question.id loop.shared.broker.waiters = some channel := registered
  unfold RequestBroker.Open at opened
  unfold RequestBroker.Dropped
  simp [RequestBroker.handleNotification,names,RequestBroker.cancel,issued,RequestBroker.abandon,
    RequestBroker.dropSender,lookup,RequestBroker.disconnect,opened]

theorem dropped_work {loop next : ServerLoop C} {index : Nat} {answer : Json} {channel : Nat}
    (asked : loop.Asked) (dropped : loop.shared.broker.Dropped channel)
    (taken : loop.workStep index answer = some next) : next.shared.broker.Dropped channel := by
  obtain ⟨worker,moved,shared,there,worked,rfl⟩ := workStep_taken taken
  cases Worker.step_turn worked with
  | kept same asks =>
    show shared.broker.Dropped channel
    rw [same]
    exact dropped
  | gaveUp id given asks =>
    show shared.broker.Dropped channel
    rw [given]
    exact (RequestBroker.abandon_follows asked.routed id).dropped channel dropped
  | drew id drawn asks free =>
    exact (RequestBroker.nextRequestId_follows asked.routed drawn).1.dropped channel dropped
  | registered id asking free same asks held =>
    show shared.broker.Dropped channel
    rw [same]
    exact (worker_registers asked there asking free).dropped channel dropped

/-- The main loop is between messages and the sender is gone. -/
structure Heard (channel : Nat) (loop : ServerLoop C) : Prop where
  idle : loop.mode = .idle
  dropped : loop.shared.broker.Dropped channel
  asked : loop.Asked

theorem heard_step (channel : Nat) (loop : ServerLoop C) (label : LoopLabel)
    (next : ServerLoop C) (heard : Heard channel loop) (between : label.between = true)
    (taken : loop.step label = some next) : Heard channel next := by
  have asked := step_asked loop label next heard.asked taken
  cases label with
  | look =>
    simp only [step,lookStep,heard.idle] at taken
    cases taken
  | work index answer =>
    have dropped := dropped_work heard.asked heard.dropped taken
    obtain ⟨worker,moved,shared,_,_,rfl⟩ := workStep_taken taken
    exact ⟨heard.idle,dropped,asked⟩
  | clock now elapsed =>
    cases taken
    exact ⟨heard.idle,heard.dropped,asked⟩
  | wire failure =>
    cases taken
    exact ⟨heard.idle,heard.dropped,asked⟩
  | _ => cases between

/-! ## Another reader reads the notice -/

/-- Setting a notice aside touches nothing but the queue. -/
structure SetAside (loop after : ServerLoop C) : Prop where
  server : after.server = loop.server
  store : after.shared.store = loop.shared.store
  instant : after.shared.instant = loop.shared.instant
  channels : after.shared.broker.channels = loop.shared.broker.channels
  parked : after.shared.broker.parked = loop.shared.broker.parked

theorem SetAside.receive {loop after : ServerLoop C} (aside : SetAside loop after)
    (channel : Nat) : after.shared.broker.receive channel = loop.shared.broker.receive channel := by
  unfold RequestBroker.receive
  rw [aside.channels]

theorem setAside_pump (loop : ServerLoop C) (request : JsonRpcRequest) (taskId : String)
    (notification : JsonRpcNotification) (freshId : String) :
    SetAside loop (loop.readPump request taskId (.ok (.notification notification)) freshId) ∧
      (loop.readPump request taskId (.ok (.notification notification)) freshId).mode =
        .pumping request taskId false := by
  simp only [readPump,shedOrDefer,RequestBroker.defer]
  by_cases full : maxDeferred ≤ loop.shared.broker.deferred.length
  · simp only [full,if_true]
    exact ⟨⟨rfl,rfl,rfl,rfl,rfl⟩,rfl⟩
  · simp only [full,if_false]
    exact ⟨⟨rfl,rfl,rfl,rfl,rfl⟩,rfl⟩

theorem setAside_ask {loop : ServerLoop C} (request : JsonRpcRequest) (call : ToolCall C)
    {question : Question} (next : Except McpError Json → ToolProg C)
    {notification : JsonRpcNotification}
    (elsewhere : cancelledHere (.notification notification) question.id = false) :
    SetAside loop (loop.readAsking request call question next (.ok (.notification notification))) ∧
      (loop.readAsking request call question next (.ok (.notification notification))).mode =
        .asking request call question false next := by
  simp only [readAsking,elsewhere,shedOrDeferQuietly,RequestBroker.defer]
  by_cases full : maxDeferred ≤ loop.shared.broker.deferred.length
  · simp only [full,if_true]
    exact ⟨⟨rfl,rfl,rfl,rfl,rfl⟩,rfl⟩
  · simp only [full,if_false]
    exact ⟨⟨rfl,rfl,rfl,rfl,rfl⟩,rfl⟩

theorem pump_look {loop : ServerLoop C} {request : JsonRpcRequest} {taskId : String}
    {record : TaskRecord} (pumping : loop.mode = .pumping request taskId false)
    (seen : loop.shared.store.visible taskId loop.server.requestor = some record)
    (running : record.task.status.isTerminal = false)
    (kept : record.expired loop.shared.now = false) :
    loop.lookStep = some ((loop.withShared (loop.shared.setStore
      (loop.shared.store.sweep loop.shared.now))).goto (.pumping request taskId true)) := by
  simp only [lookStep,pumping,pumpLook,TaskStore.tryResult_running seen running kept]

/-- A pump whose task is running finds it so, at some reading of the clock, and reads on. -/
theorem pump_reads_on {loop : ServerLoop C} {request : JsonRpcRequest} {taskId : String}
    {record : TaskRecord} (pumping : loop.mode = .pumping request taskId false)
    (seen : loop.shared.store.visible taskId loop.server.requestor = some record)
    (running : record.task.status.isTerminal = false) (channel : Nat) :
    ∃ later, Runs.execute step loop [.clock (record.created - 1) 0,.look] = some later ∧
      later.reads = true ∧
      later.shared.broker.receive channel = loop.shared.broker.receive channel := by
  have kept : record.expired (record.created - 1) = false := by
    have later : ∀ time : Int, ¬time ≤ time - 1 := fun time => by omega
    have before := later record.created
    unfold TaskRecord.expired
    split
    · rfl
    · simp [before]
  let earlier : ServerLoop C := loop.withShared
    { loop.shared with now := record.created - 1, instant := loop.shared.instant + 0 }
  have looked : earlier.step .look = some ((earlier.withShared (earlier.shared.setStore
      (loop.shared.store.sweep (record.created - 1)))).goto (.pumping request taskId true)) :=
    @pump_look C earlier request taskId record pumping seen running kept
  refine ⟨(earlier.withShared (earlier.shared.setStore
    (loop.shared.store.sweep (record.created - 1)))).goto (.pumping request taskId true),?_,rfl,rfl⟩
  rw [Runs.execute_cons]
  show Runs.execute step earlier [.look] = _
  rw [Runs.execute_cons,looked]
  rfl

/-- A tool whose deadline has not come reads on. -/
theorem ask_reads_on {loop : ServerLoop C} {request : JsonRpcRequest} {call : ToolCall C}
    {question : Question} {next : Except McpError Json → ToolProg C}
    (asking : loop.mode = .asking request call question false next)
    (unparked : (loop.shared.broker.takeParked question.id).2 = none)
    (early : question.due loop.shared.instant = false) (channel : Nat) :
    ∃ later, Runs.execute step loop [.look] = some later ∧ later.reads = true ∧
      later.shared.broker.receive channel = loop.shared.broker.receive channel := by
  refine ⟨loop.goto (.asking request call question true next),?_,rfl,rfl⟩
  have turn : loop.askLook request call question next =
      loop.goto (.asking request call question true next) := by
    unfold askLook
    split
    · rename_i found
      rw [found] at unparked
      cases unparked
    · rw [early]
      rfl
  simp only [Runs.execute_cons,step,lookStep,asking,turn]
  rfl

/-- The reader's wait is over: it does not read again before it has answered. -/
def Settling (loop : ServerLoop C) : Prop :=
  match loop.mode with
  | .pumping _ taskId false => ∀ record,
      loop.shared.store.visible taskId loop.server.requestor = some record →
        record.task.status.isTerminal = true
  | .asking _ _ question false _ => question.due loop.shared.instant = true
  | .replying _ _ | .running _ _ _ => True
  | _ => False

theorem Settling.not_reading {loop : ServerLoop C} (settling : loop.Settling) :
    loop.reads = false := by
  unfold Settling at settling
  unfold reads
  cases held : loop.mode with
  | pumping request taskId reading =>
    cases reading with
    | true =>
      rw [held] at settling
      exact settling.elim
    | false => rfl
  | asking request call question reading next =>
    cases reading with
    | true =>
      rw [held] at settling
      exact settling.elim
    | false => rfl
  | idle =>
    rw [held] at settling
    exact settling.elim
  | _ => rfl

theorem due_later {question : Question} {instant later : Nat} (order : instant ≤ later)
    (due : question.due instant = true) : question.due later = true := by
  unfold Question.due at due ⊢
  cases held : question.deadline with
  | none =>
    rw [held] at due
    cases due
  | some deadline =>
    rw [held] at due
    simp only [Option.any_some,decide_eq_true_eq] at due ⊢
    omega

theorem settling_look {loop next : ServerLoop C} (settling : loop.Settling)
    (taken : loop.step .look = some next) : next.Settling := by
  unfold Settling at settling
  cases step_taken taken with
  | pumpLook pumping =>
    rw [pumping] at settling
    have ended := TaskStore.tryResult_over settling loop.shared.now
    unfold pumpLook
    split
    · trivial
    · trivial
    · rename_i running
      rw [running] at ended
      exact (ended rfl).elim
  | blockedLook blocked =>
    rw [blocked] at settling
    exact settling.elim
  | askLook asking =>
    rw [asking] at settling
    unfold askLook
    split
    · trivial
    · rw [if_pos settling]
      trivial

/-- Workers finish tasks and move clocks forward; neither brings a wait back. -/
theorem settling_work {loop next : ServerLoop C} {index : Nat} {answer : Json}
    (settling : loop.Settling) (taken : loop.workStep index answer = some next) :
    next.Settling := by
  obtain ⟨worker,moved,shared,_,worked,rfl⟩ := workStep_taken taken
  have still : shared.instant = loop.shared.instant := Worker.step_instant worked
  unfold Settling at settling ⊢
  simp only
  split
  · rename_i request taskId pumping
    rw [pumping] at settling
    intro record seen
    unfold TaskStore.visible at seen
    rw [Option.filter_eq_some_iff] at seen
    obtain ⟨found,mine⟩ := seen
    obtain ⟨old,before,evolved⟩ := (Worker.step_effect worked).operation.evolves found
    have was : loop.shared.store.visible taskId loop.server.requestor = some old := by
      unfold TaskStore.visible
      rw [Option.filter_eq_some_iff]
      exact ⟨before,by simpa [TaskRecord.belongsTo,evolved.owner] using mine⟩
    have terminal := settling old was
    rw [evolved.finished terminal]
    exact terminal
  · rename_i request call question continue_ asking
    rw [asking] at settling
    rw [still]
    exact settling
  · trivial
  · trivial
  · rename_i pump ask reply run
    cases held : loop.mode with
    | pumping request taskId reading =>
      rw [held] at settling
      cases reading with
      | false => exact (pump request taskId held).elim
      | true => exact settling
    | asking request call question reading continue_ =>
      rw [held] at settling
      cases reading with
      | false => exact (ask request call question continue_ held).elim
      | true => exact settling
    | replying id outcome => exact (reply id outcome held).elim
    | running request call prog => exact (run request call prog held).elim
    | _ =>
      rw [held] at settling
      exact settling

theorem settling_clock {loop : ServerLoop C} (settling : loop.Settling) (now : SystemTime)
    (elapsed : Nat) : (loop.withShared { loop.shared with
      now := now, instant := loop.shared.instant + elapsed }).Settling := by
  unfold Settling at settling ⊢
  show match loop.mode with
    | .pumping _ taskId false => ∀ record,
        loop.shared.store.visible taskId loop.server.requestor = some record →
          record.task.status.isTerminal = true
    | .asking _ _ question false _ => question.due (loop.shared.instant + elapsed) = true
    | .replying _ _ | .running _ _ _ => True
    | _ => False
  split at settling
  · exact settling
  · exact due_later (Nat.le_add_right _ _) settling
  · trivial
  · trivial
  · exact settling.elim

theorem settling_step (loop : ServerLoop C) (label : LoopLabel) (next : ServerLoop C)
    (settling : loop.Settling) (between : label.between = true)
    (taken : loop.step label = some next) : next.Settling := by
  cases label with
  | look => exact settling_look settling taken
  | work index answer => exact settling_work settling taken
  | clock now elapsed =>
    cases taken
    exact settling_clock settling now elapsed
  | wire failure =>
    cases taken
    exact settling
  | _ => cases between

/-- What holds after a read and is kept between reads holds when the reader reads again. -/
theorem between_invariant {after later : ServerLoop C} {inv : ServerLoop C → Prop}
    (preserved : ∀ loop label next, inv loop → LoopLabel.between label = true →
      step loop label = some next → inv next)
    {labels : List LoopLabel} (between : ∀ label ∈ labels, label.between = true)
    (run : Runs.execute step after labels = some later) (holds : inv after) : inv later := by
  induction labels generalizing after with
  | nil =>
    cases run
    exact holds
  | cons label rest ih =>
    rw [Runs.execute_cons,Option.bind_eq_some_iff] at run
    obtain ⟨next,taken,reached⟩ := run
    exact ih (fun other member => between other (List.mem_cons_of_mem _ member)) reached
      (preserved after label next holds (between label List.mem_cons_self) taken)

theorem Settling.wokenFirst {after : ServerLoop C} (settling : after.Settling) (channel : Nat) :
    after.WokenFirst channel := by
  intro labels later between run reading
  have settled := between_invariant settling_step between run settling
  rw [settled.not_reading] at reading
  cases reading

end ServerLoop

/-- In every state a run reaches, a cancellation of what a worker is waiting for, read
by whichever reader, wakes the worker before that reader reads again, exactly when the
reader is the main loop, or its own wait is over and it does not read again. -/
theorem cancellation_wakes_iff (server : Server C) (context : C) (store : TaskStore)
    (now : SystemTime) (instant : Nat) (labels : List LoopLabel) (loop after : ServerLoop C)
    (run : Runs.execute ServerLoop.step (.start server context store now instant) labels =
      some loop)
    (index : Nat) (question : Question) (channel : Nat)
    (awaits : loop.Awaits index question channel) (notification : JsonRpcNotification)
    (names : cancelledRequestId notification = some question.id) (freshId : String)
    (taken : loop.step (.read (.ok (.notification notification)) freshId) = some after) :
    after.WokenFirst channel ↔ loop.mode = .idle ∨ loop.waitOver = true := by
  have asked := ServerLoop.run_asked run
  have unparked : loop.Unparked := by
    refine Runs.invariant ServerLoop.unparked_step run ?_
    intro id reading
    cases reading
  have waiting := awaits.empty
  simp only [ServerLoop.step,ServerLoop.readStep] at taken
  split at taken
  · rename_i idle
    split at taken <;> cases taken
    refine ⟨fun _ => .inl idle,fun _ => ?_⟩
    have heard : ServerLoop.Heard channel
        (loop.readMain (.ok (.notification notification)) freshId) :=
      ⟨idle,ServerLoop.cancel_drops asked awaits names,
        LoopTurn.asked asked (ServerLoop.readMain_turn asked.routed _ freshId)⟩
    intro labels later between run _
    exact RequestBroker.receive_dropped
      (ServerLoop.between_invariant (ServerLoop.heard_step channel) between run heard).dropped
  · rename_i request taskId pumping
    cases taken
    obtain ⟨aside,mode⟩ := ServerLoop.setAside_pump loop request taskId notification freshId
    cases ended : loop.waitOver with
    | true =>
      refine ⟨fun _ => .inr rfl,fun _ => ServerLoop.Settling.wokenFirst ?_ channel⟩
      unfold ServerLoop.Settling
      rw [mode,aside.store,aside.server]
      intro record seen
      simpa [ServerLoop.waitOver,pumping,seen] using ended
    | false =>
      refine ⟨fun woken => ?_,fun other => by simp [pumping] at other⟩
      obtain ⟨record,seen,running⟩ : ∃ record,
          loop.shared.store.visible taskId loop.server.requestor = some record ∧
            record.task.status.isTerminal = false := by
        simpa [ServerLoop.waitOver,pumping,Option.all_eq_false] using ended
      rw [← aside.store,← aside.server] at seen
      obtain ⟨later,reached,reading,same⟩ := ServerLoop.pump_reads_on mode seen running channel
      have dropped := woken _ later (by simp [LoopLabel.between]) reached reading
      rw [same,aside.receive,waiting] at dropped
      cases dropped
  · rename_i request call own continue_ asking
    cases taken
    have other : own.id ≠ question.id := by
      intro same
      have mine : loop.asks none = some question.id := by
        simp [ServerLoop.asks,asking,LoopMode.asks,same]
      cases asked.apart none (some index) question.id mine (awaits.held asked).1
    have elsewhere : cancelledHere (.notification notification) own.id = false := by
      simpa [cancelledHere,names] using Ne.symm other
    obtain ⟨aside,mode⟩ := ServerLoop.setAside_ask request call continue_ elsewhere
    cases ended : loop.waitOver with
    | true =>
      refine ⟨fun _ => .inr rfl,fun _ => ServerLoop.Settling.wokenFirst ?_ channel⟩
      unfold ServerLoop.Settling
      rw [mode,aside.instant]
      simpa [ServerLoop.waitOver,asking] using ended
    | false =>
      refine ⟨fun woken => ?_,fun other => by simp [asking] at other⟩
      have early : own.due loop.shared.instant = false := by
        simpa [ServerLoop.waitOver,asking] using ended
      have absent : (loop.shared.broker.takeParked own.id).2 = none :=
        unparked own.id (by rw [asking]; rfl)
      rw [RequestBroker.takeParked_found,← aside.parked,← RequestBroker.takeParked_found] at absent
      rw [← aside.instant] at early
      obtain ⟨later,reached,reading,same⟩ := ServerLoop.ask_reads_on mode absent early channel
      have dropped := woken _ later (by simp [LoopLabel.between]) reached reading
      rw [same,aside.receive,waiting] at dropped
      cases dropped
  · cases taken

/-! ### A task that asks -/

def askingTaskServer : Server Unit :=
  { (Server.new (ServerConfig.default "0.7.3" ⟨id,some⟩) : Server Unit) with
    tools := AList.insert "ask" ⟨.asking "ask" "elicitation/create",none,.none⟩ ∅
    canPump := true
    tasks := some ⟨0,.default,.ok ()⟩ }

def callAskAsTask : JsonRpcMessage := .request ⟨.number 1,"tools/call",
  some (.obj [("name",.str "ask"),("task",.obj [])])⟩

def resultOfTask : JsonRpcMessage := .request ⟨.number 2,"tasks/result",
  some (.obj [("taskId",.str "task")])⟩

def withdrawal : JsonRpcNotification :=
  ⟨"notifications/cancelled",some (.obj [("requestId",.str "sml-0")])⟩

/-- The call is answered with its task, whose worker goes as far as waiting. -/
def untilAsked : List LoopLabel :=
  [.read (.ok callAskAsTask) "task",.launch none,.reply,.work 0 .null,.work 0 .null,
    .work 0 .null,.work 0 .null,.work 0 .null]

theorem withdrawal_to_main_loop :
    ∃ loop after, Runs.execute ServerLoop.step
        (.start askingTaskServer () (.new .default) 0 0) untilAsked = some loop ∧
      loop.step (.read (.ok (.notification withdrawal)) "") = some after ∧
      (after.WokenFirst 0 ↔ loop.mode = .idle ∨ loop.waitOver = true) :=
  ⟨_,_,rfl,rfl,cancellation_wakes_iff askingTaskServer () (.new .default) 0 0 untilAsked _ _ rfl 0
    ⟨.string "sml-0",none,none⟩ 0 ⟨⟨_,_,_,rfl,rfl⟩,rfl⟩ withdrawal rfl "" rfl⟩

/-- The client asks for the task's result before it withdraws the task's question. -/
theorem withdrawal_to_pump :
    ∃ loop after, Runs.execute ServerLoop.step
        (.start askingTaskServer () (.new .default) 0 0)
        (untilAsked ++ [.read (.ok resultOfTask) "",.look]) = some loop ∧
      loop.Awaits 0 ⟨.string "sml-0",none,none⟩ 0 ∧
      cancelledRequestId withdrawal = some (.string "sml-0") ∧
      loop.step (.read (.ok (.notification withdrawal)) "") = some after ∧
      ¬after.WokenFirst 0 := by
  refine ⟨_,_,rfl,⟨⟨_,_,_,rfl,rfl⟩,rfl⟩,rfl,rfl,?_⟩
  intro woken
  have dropped := woken [.look] _ (by decide) rfl rfl
  cases dropped

end SmlMcps
