import SmlMcps.ServerLoop

/-! What one step of a thread does to what the threads of a connection share. Whichever
thread takes it, a step is a sequence of changes to the store, changes to the broker
and writes, so that what was written stays and is only added to. A worker changes
nothing of itself but its phase, and the loop's own thread nothing of the workers but
their gates. -/
namespace SmlMcps

variable {C : Type}

/-- What a thread's step may make of what is shared. -/
inductive Shared.Uses (shared : Shared) : Shared → Prop
  | refl : Uses shared shared
  | stored {after : Shared} (uses : Uses shared after) (store : TaskStore) :
      Uses shared (after.setStore store)
  | brokered {after : Shared} (uses : Uses shared after) (broker : RequestBroker) :
      Uses shared (after.setBroker broker)
  | wrote {after : Shared} (uses : Uses shared after) (message : JsonRpcMessage) :
      Uses shared (after.write message).1

namespace Shared.Uses

variable {shared after : Shared}

theorem sent {middle : Shared} {message : JsonRpcMessage} {outcome : Except McpError Unit}
    (uses : shared.Uses middle) (wrote : middle.write message = (after,outcome)) :
    shared.Uses after := by
  have same : after = (middle.write message).1 := by rw [wrote]
  rw [same]
  exact .wrote uses message

theorem trans {middle : Shared} (first : shared.Uses middle) (second : middle.Uses after) :
    shared.Uses after := by
  induction second with
  | refl => exact first
  | stored uses store earlier => exact .stored earlier store
  | brokered uses broker earlier => exact .brokered earlier broker
  | wrote uses message earlier => exact .wrote earlier message

theorem writeFailure (uses : shared.Uses after) : after.writeFailure = shared.writeFailure := by
  induction uses with
  | refl => rfl
  | stored uses store same => exact same
  | brokered uses broker same => exact same
  | wrote uses message same =>
    rw [← same]
    unfold Shared.write
    split <;> rfl

/-- What was written stays, in its place. -/
theorem written (uses : shared.Uses after) :
    ∃ more, after.written = shared.written ++ more := by
  induction uses with
  | refl => exact ⟨[],(List.append_nil _).symm⟩
  | stored uses store grown => exact grown
  | brokered uses broker grown => exact grown
  | @wrote middle uses message grown =>
    obtain ⟨more,same⟩ := grown
    cases failing : middle.writeFailure with
    | some failure => exact ⟨more,by simp [Shared.write,failing,same]⟩
    | none => exact ⟨more ++ [message],by simp [Shared.write,failing,same]⟩

theorem giveUp (uses : shared.Uses after) (taskId : Option String) (id : RequestId)
    (reason : String) : shared.Uses (after.giveUp taskId id reason) :=
  .wrote (.brokered uses _) _

theorem afterWait (uses : shared.Uses after) (taskId : Option String) (cancelled : Bool)
    (question : Question) (outcome : Except McpError Json) :
    shared.Uses (after.afterWait taskId cancelled question outcome) := by
  unfold Shared.afterWait
  split
  · exact uses.giveUp taskId question.id _
  · split
    · exact uses.giveUp taskId question.id _
    · exact uses
  · exact uses

end Shared.Uses

/-! ## Workers -/

/-- One step of a worker: it uses what is shared, and goes to another phase. -/
structure Worker.Steps (worker : Worker C) (shared after : Shared) (next : Worker C) : Prop where
  uses : shared.Uses after
  moved : next = worker.goto next.phase

namespace Worker

theorem settle_steps (worker : Worker C) (shared : Shared) (question : Question)
    (next : Except McpError Json → ToolProg C) (outcome : Except McpError Json) :
    worker.Steps shared (worker.settle shared question next outcome).1
      (worker.settle shared question next outcome).2 :=
  ⟨(Shared.Uses.stored .refl _).afterWait _ _ _ _,rfl⟩

theorem await_steps (worker : Worker C) (shared : Shared) (question : Question) (channel : Nat)
    (receiving : Bool) (next : Except McpError Json → ToolProg C) :
    worker.Steps shared (worker.await shared question channel receiving next).1
      (worker.await shared question channel receiving next).2 := by
  unfold await
  split
  · split
    · exact worker.settle_steps shared question next _
    · split
      · exact worker.settle_steps shared question next _
      · exact ⟨.refl,rfl⟩
  · split
    · exact worker.settle_steps shared question next _
    · exact worker.settle_steps shared question next _
    · exact ⟨.refl,rfl⟩

theorem runTool_steps {worker next : Worker C} {shared after : Shared} {answer : Json}
    {prog : ToolProg C} (taken : worker.runTool shared answer prog = some (after,next)) :
    worker.Steps shared after next := by
  cases prog with
  | returned context result => cases taken; exact ⟨.refl,rfl⟩
  | panicked context message => cases taken; exact ⟨.refl,rfl⟩
  | notify method params continue_ => cases taken; exact ⟨.wrote .refl _,rfl⟩
  | request method params timeout continue_ =>
    rcases runTool_request taken with ⟨broker,id,-,-,rfl,rfl⟩ | ⟨-,rfl,rfl⟩
    · exact ⟨.brokered .refl _,rfl⟩
    · exact ⟨.refl,rfl⟩
  | checkCancelled continue_ => cases taken; exact ⟨.refl,rfl⟩
  | observe continue_ => cases taken; exact ⟨.refl,rfl⟩

theorem announce_uses (worker : Worker C) (shared : Shared) :
    shared.Uses (worker.announce shared) := by
  unfold announce
  split
  · exact .wrote (.stored .refl _) _
  · exact .stored .refl _

theorem step_steps {worker next : Worker C} {shared after : Shared} {answer : Json}
    (taken : worker.step shared answer = some (after,next)) : worker.Steps shared after next := by
  cases step_taken taken with
  | gated | unwound | built => exact ⟨.refl,rfl⟩
  | running _ ran => exact runTool_steps ran
  | allocated => exact ⟨.brokered .refl _,rfl⟩
  | sent _ wrote => exact ⟨.stored (.sent .refl wrote) _,rfl⟩
  | unsent _ wrote => exact ⟨.brokered (.sent .refl wrote) _,rfl⟩
  | asking => exact worker.await_steps shared _ _ _ _
  | finishing => exact ⟨.stored .refl _,rfl⟩
  | announcing => exact ⟨worker.announce_uses shared,rfl⟩

end Worker

/-! ## The loop's own thread -/

/-- The loop's own thread takes the step, and does not start a task in it. -/
def LoopLabel.own : LoopLabel → Bool
  | .read .. | .replay .. | .look | .run .. | .reply => true
  | .launch .. | .work .. | .clock .. | .wire .. => false

namespace ServerLoop

/-- One step of the loop's own thread that starts no worker: if it opens gates, it
opens them all. -/
structure Moves (loop next : ServerLoop C) : Prop where
  uses : loop.shared.Uses next.shared
  workers : next.workers = loop.workers ∨ next.workers = loop.releaseTaskWorkers.workers

variable {loop after : ServerLoop C}

theorem Moves.goto (moves : Moves loop after) (mode : LoopMode C) : Moves loop (after.goto mode) :=
  ⟨moves.uses,moves.workers⟩

theorem moves_stay (loop : ServerLoop C) : Moves loop loop := ⟨.refl,.inl rfl⟩

theorem moves_shared {shared : Shared} (uses : loop.shared.Uses shared) :
    Moves loop (loop.withShared shared) := ⟨uses,.inl rfl⟩

theorem moves_writeMessage (loop : ServerLoop C) (message : JsonRpcMessage) :
    Moves loop (loop.writeMessage message).1 := ⟨.wrote .refl message,.inr rfl⟩

theorem moves_shedOrDefer (loop : ServerLoop C) (message : JsonRpcMessage) :
    Moves loop (loop.shedOrDefer message).1 := by
  unfold shedOrDefer
  split
  · exact moves_shared (.brokered .refl _)
  · split
    · exact moves_writeMessage loop _
    · exact moves_stay loop

theorem moves_shedOrDeferQuietly (loop : ServerLoop C) (message : JsonRpcMessage) :
    Moves loop (loop.shedOrDeferQuietly message) := by
  unfold shedOrDeferQuietly
  split
  · exact moves_shared (.brokered .refl _)
  · split
    · exact moves_shared (.wrote .refl _)
    · exact moves_stay loop

theorem Moves.thenIdle {written : ServerLoop C × Except McpError Unit}
    (moves : Moves loop written.1) : Moves loop (thenIdle written) := by
  unfold ServerLoop.thenIdle
  split <;> exact moves.goto _

theorem Moves.thenPump {written : ServerLoop C × Except McpError Unit}
    (moves : Moves loop written.1) (request : JsonRpcRequest) (taskId : String) :
    Moves loop (thenPump request taskId written) := by
  unfold ServerLoop.thenPump
  split <;> exact moves.goto _

theorem dispatch_moves (loop : ServerLoop C) (request : JsonRpcRequest) (freshId : String) :
    Moves loop (loop.dispatch request freshId) := by
  unfold dispatch
  split
  rename_i server store next _
  cases next with
  | await taskId =>
    by_cases pump : server.canPump = true
    · simp only [pump,if_true]
      exact ⟨.stored .refl _,.inl rfl⟩
    · simp only [pump]
      exact ⟨.stored .refl _,.inl rfl⟩
  | ready | execute | start => exact ⟨.stored .refl _,.inl rfl⟩

theorem handleMessage_moves (loop : ServerLoop C) (message : JsonRpcMessage) (freshId : String) :
    Moves loop (loop.handleMessage message freshId) := by
  cases message with
  | request asked => exact loop.dispatch_moves asked freshId
  | notification notification => exact moves_shared (.brokered .refl _)
  | response given => exact moves_shared (.brokered .refl _)

theorem readMain_moves (loop : ServerLoop C) (event : Except McpError JsonRpcMessage)
    (freshId : String) : Moves loop (loop.readMain event freshId) := by
  unfold readMain
  split
  · exact loop.handleMessage_moves _ freshId
  · exact (moves_stay loop).goto _
  · exact moves_stay loop
  · split
    · exact (moves_writeMessage loop _).thenIdle
    · exact (moves_stay loop).goto _

theorem readPump_moves (loop : ServerLoop C) (request : JsonRpcRequest) (taskId : String)
    (event : Except McpError JsonRpcMessage) (freshId : String) :
    Moves loop (loop.readPump request taskId event freshId) := by
  have deferring (other : JsonRpcMessage) :
      Moves loop (thenPump request taskId (loop.shedOrDefer other)) :=
    (moves_shedOrDefer loop other).thenPump request taskId
  cases event with
  | error e =>
    simp only [readPump]
    split
    · exact (moves_stay loop).goto _
    · split
      · exact (moves_writeMessage loop _).thenPump request taskId
      · exact (moves_stay loop).goto _
    all_goals contradiction
  | ok message =>
    cases message with
    | notification notification => exact deferring (.notification notification)
    | response given => exact ⟨.brokered .refl _,.inl rfl⟩
    | request arrived =>
      simp only [readPump]
      split
      · rename_i store answer _
        have sent : Moves loop
            ((loop.withShared (loop.shared.setStore store)).writeMessage answer).1 :=
          ⟨.wrote (.stored .refl _) _,.inr rfl⟩
        exact sent.thenPump request taskId
      · exact deferring (.request arrived)

theorem settle_moves (loop : ServerLoop C) (request : JsonRpcRequest) (call : ToolCall C)
    (question : Question) (next : Except McpError Json → ToolProg C)
    (outcome : Except McpError Json) : Moves loop (loop.settle request call question next outcome) :=
  ⟨Shared.Uses.afterWait .refl _ _ _ _,.inl rfl⟩

/-- The wait of a tool that ends after the broker was asked first. -/
theorem settle_after_moves (loop : ServerLoop C) (broker : RequestBroker)
    (request : JsonRpcRequest) (call : ToolCall C) (question : Question)
    (next : Except McpError Json → ToolProg C) (outcome : Except McpError Json) :
    Moves loop ((loop.withBroker broker).settle request call question next outcome) :=
  ⟨(Shared.Uses.brokered .refl broker).afterWait _ _ _ _,.inl rfl⟩

theorem readAsking_moves (loop : ServerLoop C) (request : JsonRpcRequest) (call : ToolCall C)
    (question : Question) (next : Except McpError Json → ToolProg C)
    (event : Except McpError JsonRpcMessage) :
    Moves loop (loop.readAsking request call question next event) := by
  have aside (other : JsonRpcMessage) : Moves loop (if cancelledHere other question.id then
        (loop.withBroker (loop.shared.broker.abandon question.id)).settle request call question
          next (.error (.internal ("the client cancelled request " ++ question.id.debug)))
      else (loop.shedOrDeferQuietly other).goto (.asking request call question false next)) := by
    split
    · exact settle_after_moves loop _ _ _ _ _ _
    · exact (moves_shedOrDeferQuietly loop other).goto _
  cases event with
  | error e => exact loop.settle_moves _ _ _ _ _
  | ok message =>
    cases message with
    | notification notification => exact aside (.notification notification)
    | request arrived => exact aside (.request arrived)
    | response given =>
      simp only [readAsking]
      split
      · exact loop.settle_moves _ _ _ _ _
      · exact (moves_shared (.brokered .refl _)).goto _

theorem pumpLook_moves (loop : ServerLoop C) (request : JsonRpcRequest) (taskId : String) :
    Moves loop (loop.pumpLook request taskId) := by
  unfold pumpLook
  split <;> exact (moves_shared (.stored .refl _)).goto _

theorem blockedLook_moves (loop : ServerLoop C) (request : JsonRpcRequest) (taskId : String)
    (since : Nat) : Moves loop (loop.blockedLook request taskId since) := by
  unfold blockedLook
  simp only
  split
  · exact (moves_shared (.stored .refl _)).goto _
  · exact moves_shared (.stored .refl _)

theorem askLook_moves (loop : ServerLoop C) (request : JsonRpcRequest) (call : ToolCall C)
    (question : Question) (next : Except McpError Json → ToolProg C) :
    Moves loop (loop.askLook request call question next) := by
  unfold askLook
  split
  · exact settle_after_moves loop _ _ _ _ _ _
  · split
    · exact loop.settle_moves _ _ _ _ _
    · exact (moves_stay loop).goto _

theorem runTool_moves {request : JsonRpcRequest} {call : ToolCall C} {answer : Json}
    {prog : ToolProg C} (taken : loop.runTool request call answer prog = some after) :
    Moves loop after := by
  cases prog with
  | returned context result => cases taken; exact ⟨.refl,.inl rfl⟩
  | panicked context message => cases taken; exact ⟨.refl,.inl rfl⟩
  | notify method params next => cases taken; exact ⟨.wrote .refl _,.inl rfl⟩
  | request method params timeout next =>
    obtain ⟨broker,id,sent,-,⟨wrote,rfl⟩ | ⟨e,wrote,rfl⟩⟩ := runTool_request taken
    · exact ⟨.sent (.brokered .refl _) wrote,.inl rfl⟩
    · exact ⟨.brokered (.sent (.brokered .refl _) wrote) _,.inl rfl⟩
  | checkCancelled next => cases taken; exact ⟨.refl,.inl rfl⟩
  | observe next => cases taken; exact ⟨.refl,.inl rfl⟩

theorem step_moves {next : ServerLoop C} {label : LoopLabel} (own : label.own = true)
    (taken : loop.step label = some next) : Moves loop next := by
  cases step_taken taken with
  | readMain => exact loop.readMain_moves _ _
  | readPump => exact loop.readPump_moves _ _ _ _
  | readAsking => exact loop.readAsking_moves _ _ _ _ _
  | @replay freshId broker message =>
    have handled := (loop.withBroker broker).handleMessage_moves message freshId
    exact ⟨Shared.Uses.trans (.brokered .refl broker) handled.uses,handled.workers⟩
  | pumpLook => exact loop.pumpLook_moves _ _
  | blockedLook => exact loop.blockedLook_moves _ _ _
  | askLook => exact loop.askLook_moves _ _ _ _
  | run running ran => exact runTool_moves ran
  | reply => exact (moves_writeMessage loop _).thenIdle
  | launch | work | clock | wire => cases own

end ServerLoop

end SmlMcps
