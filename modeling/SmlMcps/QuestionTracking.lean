import SmlMcps.QuestionEndings
import SmlMcps.TaskStoreLaws

/-! Requests to the client, from the id to the exit. Whatever a step gives up is what ends
in it or what the client withdraws, so a worker's channel is closed without an answer
only once the client has withdrawn the request. -/
namespace SmlMcps

variable {C : Type}

open RequestBroker (SameRoutes)

/-! ## The two kinds of exit -/

/-- What the loop's own thread leaves when its request ends. -/
inductive OwnExit (loop : ServerLoop C) (id : RequestId) (after : Shared) : QuestionEnding → Prop
  | answered (asks : loop.mode.asks = some id)
      (kept : SameRoutes loop.shared.broker after.broker) : OwnExit loop id after .answered
  | timedOut (asks : loop.mode.asks = some id) (reason : String)
      (gave : after = loop.shared.giveUp none id reason) : OwnExit loop id after .timedOut
  | clientCancelled (asks : loop.mode.asks = some id)
      (gave : after.broker = loop.shared.broker.abandon id) : OwnExit loop id after .clientCancelled
  | readFailed (asks : loop.mode.asks = some id) (same : after = loop.shared) :
      OwnExit loop id after .readFailed
  | writeFailed (drawn : RequestBroker)
      (draws : loop.shared.broker.nextRequestId = some (drawn,id))
      (gave : after.broker = drawn.abandon id) : OwnExit loop id after .writeFailed

/-- What a worker leaves when its request ends. -/
inductive WorkerExit (worker : Worker C) (shared : Shared) (id : RequestId) (after : Shared) :
    QuestionEnding → Prop
  | writeFailed (gave : after.broker = shared.broker.abandon id) :
      WorkerExit worker shared id after .writeFailed
  | gaveUp (ending : QuestionEnding) (unanswered : ending ≠ .answered) (reason : String)
      (cancelled : ending = .disconnected → worker.isCancelled shared = true)
      (found : ending ≠ .readFailed)
      (gave : after = (worker.setTaskStatus shared .working).giveUp (some worker.taskId) id reason) :
      WorkerExit worker shared id after ending
  | answered (channel : Nat) (held : worker.phase.channelOf = some channel)
      (closed : shared.broker.receive channel ≠ .empty)
      (gave : after.broker = shared.broker ∨ after.broker = shared.broker.abandon id)
      (store : after.store = (worker.setTaskStatus shared .working).store) :
      WorkerExit worker shared id after .answered
  | disconnected (channel : Nat) (held : worker.phase.channelOf = some channel)
      (gone : shared.broker.receive channel = .disconnected)
      (running : worker.isCancelled shared = false)
      (same : after = worker.setTaskStatus shared .working) :
      WorkerExit worker shared id after .disconnected

theorem afterWait_error (shared : Shared) (taskId : Option String) (cancelled : Bool)
    (question : Question) (e : McpError) :
    (∃ reason, shared.afterWait taskId cancelled question (.error e) =
        shared.giveUp taskId question.id reason) ∨
      cancelled = false ∧ shared.afterWait taskId cancelled question (.error e) = shared := by
  cases cancelled with
  | true => cases e <;> exact .inl ⟨_,rfl⟩
  | false =>
    cases e with
    | timeout message => exact .inl ⟨_,rfl⟩
    | _ => exact .inr ⟨rfl,rfl⟩

namespace TaskStore

theorem setStatus_flags (store : TaskStore) (now : SystemTime) (taskId : String)
    (status : TaskStatus) : (store.setStatus now taskId status).1.flags = store.flags := by
  simp only [setStatus]
  split
  · rfl
  · split
    · rfl
    · split <;> rfl

/-- A task that is still running is working again. -/
theorem setStatus_working {store : TaskStore} {now : SystemTime} {taskId : String}
    {record : TaskRecord}
    (found : (store.setStatus now taskId .working).1.record? taskId = some record)
    (running : record.task.status.isTerminal = false) : record.task.status = .working := by
  simp only [setStatus] at found
  split at found
  · rename_i terminal
    cases terminal
  · split at found
    · rename_i absent
      rw [absent] at found
      cases found
    · rename_i known there
      split at found
      · rw [record?_update,if_pos rfl] at found
        cases found
        rfl
      · rename_i stays
        rw [there] at found
        cases found
        cases status : record.task.status <;> simp_all [TaskStatus.canTransitionTo,
          TaskStatus.isTerminal]

end TaskStore

namespace Worker

variable {worker next : Worker C} {shared after : Shared}

theorem isCancelled_working (worker : Worker C) (shared : Shared) :
    worker.isCancelled (worker.setTaskStatus shared .working) = worker.isCancelled shared := by
  simp only [isCancelled,setTaskStatus,Shared.setStore_store,TaskStore.setStatus_flags]

theorem settle_answered {question : Question} {channel : Nat} {receiving : Bool}
    {continue_ : Except McpError Json → ToolProg C} {response : JsonRpcResponse}
    (phase : worker.phase = .asking question channel receiving continue_)
    (got : shared.broker.receive channel = .response response) :
    WorkerExit worker shared question.id
      (worker.settle shared question continue_ (RequestBroker.intoResult response)).1 .answered := by
  refine .answered channel (by rw [phase]; rfl) (by rw [got]; simp) ?_ ?_
  · exact afterWait_broker (worker.setTaskStatus shared .working) _ _ question _
  · simp only [settle,Shared.afterWait_store]

/-- A timeout and a cancelled task are given up on. -/
theorem settle_gaveUp (worker : Worker C) (shared : Shared) {question : Question} {e : McpError}
    {continue_ : Except McpError Json → ToolProg C}
    (certain : worker.isCancelled shared = true ∨ ∃ message, e = .timeout message) :
    ∃ reason, (worker.settle shared question continue_ (.error e)).1 =
      (worker.setTaskStatus shared .working).giveUp (some worker.taskId) question.id reason := by
  simp only [settle,isCancelled_working]
  rcases certain with cancelled | ⟨message,rfl⟩
  · have left := afterWait_error (worker.setTaskStatus shared .working) (some worker.taskId) true
      question e
    rw [cancelled]
    exact left.resolve_right (by simp)
  · exact ⟨_,rfl⟩

/-- What a worker's wait leaves when it ends. -/
theorem await_exit {question : Question} {channel : Nat} {receiving : Bool} {id : RequestId}
    {ending : QuestionEnding} {continue_ : Except McpError Json → ToolProg C}
    (phase : worker.phase = .asking question channel receiving continue_)
    (ended : worker.ending? shared = some (id,ending)) :
    id = question.id ∧ (worker.await shared question channel receiving continue_).2.phase.asks = none ∧
      WorkerExit worker shared id (worker.await shared question channel receiving continue_).1
        ending := by
  have held : worker.phase.channelOf = some channel := by
    rw [phase]
    rfl
  simp only [ending?,phase] at ended
  simp only [await]
  split at ended
  · rename_i looking
    rw [if_pos looking]
    split at ended
    · rename_i cancelled
      cases ended
      rw [if_pos cancelled]
      obtain ⟨reason,gave⟩ := settle_gaveUp worker shared (.inl cancelled)
      exact ⟨rfl,rfl,.gaveUp _ (by simp) reason (by simp) (by simp) gave⟩
    · rename_i going
      rw [if_neg going]
      split at ended
      · rename_i due
        cases ended
        rw [if_pos due]
        obtain ⟨reason,gave⟩ := settle_gaveUp worker shared (.inr ⟨_,rfl⟩)
        exact ⟨rfl,rfl,.gaveUp _ (by simp) reason (by simp) (by simp) gave⟩
      · cases ended
  · rename_i receiving
    rw [if_neg receiving]
    cases got : shared.broker.receive channel with
    | response response =>
      rw [got] at ended
      cases ended
      exact ⟨rfl,rfl,settle_answered phase got⟩
    | disconnected =>
      rw [got] at ended
      cases ended
      refine ⟨rfl,rfl,?_⟩
      cases cancelled : worker.isCancelled shared with
      | true =>
        obtain ⟨reason,gave⟩ := settle_gaveUp worker shared (.inl cancelled)
        exact .gaveUp _ (by simp) reason (fun _ => cancelled) (by simp) gave
      | false =>
        refine .disconnected channel held got cancelled ?_
        simp only [settle,isCancelled_working,cancelled]
        rfl
    | empty =>
      rw [got] at ended
      cases ended

theorem step_exit {answer : Json} {id : RequestId} {ending : QuestionEnding}
    (taken : worker.step shared answer = some (after,next))
    (ended : worker.ending? shared = some (id,ending)) :
    worker.phase.asks = some id ∧ next.phase.asks = none ∧
      WorkerExit worker shared id after ending := by
  cases phase : worker.phase with
  | registered question channel request continue_ =>
    simp only [ending?,phase,Option.map_eq_some_iff] at ended
    obtain ⟨failure,fails,same⟩ := ended
    cases same
    simp only [step,phase,Shared.write,fails] at taken
    cases taken
    exact ⟨rfl,rfl,.writeFailed rfl⟩
  | asking question channel receiving continue_ =>
    obtain ⟨rfl,done,left⟩ := await_exit phase ended
    simp only [step,phase,Option.some.injEq] at taken
    rw [taken] at done left
    exact ⟨rfl,done,left⟩
  | _ =>
    simp only [ending?,phase] at ended
    cases ended

end Worker

namespace ServerLoop

variable {loop next : ServerLoop C} {label : LoopLabel} {exit : QuestionExit}

/-- How the step that ends a request ends it, and for whom. -/
inductive Ends (loop next : ServerLoop C) : QuestionExit → Prop
  | own {id : RequestId} {ending : QuestionEnding} (done : next.mode.asks = none)
      (left : OwnExit loop id next.shared ending) : Ends loop next ⟨none,id,ending⟩
  | worker {index : Nat} {worker after : Worker C} {id : RequestId} {ending : QuestionEnding}
      (there : loop.workers[index]? = some worker) (asks : worker.phase.asks = some id)
      (done : after.phase.asks = none) (workers : next.workers = loop.workers.set index after)
      (left : WorkerExit worker loop.shared id next.shared ending) :
      Ends loop next ⟨some index,id,ending⟩

theorem askLook_ends {request : JsonRpcRequest} {call : ToolCall C} {question : Question}
    {continue_ : Except McpError Json → ToolProg C}
    (asking : loop.mode = .asking request call question false continue_)
    (ends : loop.exit? .look = some exit) :
    Ends loop (loop.askLook request call question continue_) exit := by
  have asks : loop.mode.asks = some question.id := by
    rw [asking]
    rfl
  simp only [exit?,ending?,asking] at ends
  simp only [askLook]
  split
  · rename_i broker response found
    rw [found] at ends
    cases ends
    have kept := SameRoutes.takeParked loop.shared.broker question.id
    rw [found] at kept
    refine .own rfl (.answered asks ?_)
    simp only [settle,goto,withShared,withBroker,afterWait_intoResult]
    exact kept
  · rename_i absent
    rw [absent] at ends
    simp only [Option.isSome_none,Bool.false_eq_true,if_false] at ends
    split at ends
    · rename_i due
      cases ends
      rw [if_pos due]
      exact .own rfl (.timedOut asks _ rfl)
    · cases ends

theorem readAsking_ends {request : JsonRpcRequest} {call : ToolCall C} {question : Question}
    {continue_ : Except McpError Json → ToolProg C} {event : Except McpError JsonRpcMessage}
    {freshId : String} (asking : loop.mode = .asking request call question true continue_)
    (ends : loop.exit? (.read event freshId) = some exit) :
    Ends loop (loop.readAsking request call question continue_ event) exit := by
  have asks : loop.mode.asks = some question.id := by
    rw [asking]
    rfl
  simp only [exit?,ending?,asking] at ends
  cases event with
  | error e =>
    cases e with
    | timeout message =>
      cases ends
      exact .own rfl (.timedOut asks _ rfl)
    | _ =>
      cases ends
      exact .own rfl (.readFailed asks rfl)
  | ok message =>
    cases message with
    | response response =>
      simp only [readAsking]
      split
      · rename_i here
        simp only [here,if_true] at ends
        cases ends
        refine .own rfl (.answered asks ?_)
        simp only [settle,goto,withShared,afterWait_intoResult]
        exact .refl _
      · rename_i elsewhere
        simp only [elsewhere,if_false] at ends
        cases ends
    | _ =>
      simp only [readAsking]
      split
      · rename_i here
        simp only [here,if_true] at ends
        cases ends
        exact .own rfl (.clientCancelled asks rfl)
      · rename_i elsewhere
        simp only [elsewhere] at ends
        cases ends

theorem runTool_ends {request : JsonRpcRequest} {call : ToolCall C} {prog : ToolProg C}
    {answer : Json} (running : loop.mode = .running request call prog)
    (taken : loop.runTool request call answer prog = some next)
    (ends : loop.exit? (.run answer) = some exit) : Ends loop next exit := by
  simp only [exit?,ending?,running] at ends
  cases prog with
  | request method params timeout continue_ =>
    simp only at ends
    simp only [runTool] at taken
    split at taken
    · cases taken
    · rename_i broker id drawn
      simp only [drawn] at ends
      split at ends
      · rename_i failure here fails
        cases here
        cases ends
        simp only [Shared.write,Shared.setBroker,fails] at taken
        cases taken
        exact .own rfl (.writeFailed broker drawn rfl)
      · cases ends
  | _ => cases ends

/-- Every exit is one of these. -/
theorem step_ends (taken : loop.step label = some next) (ends : loop.exit? label = some exit) :
    Ends loop next exit := by
  cases step_taken taken with
  | readAsking asking => exact readAsking_ends asking ends
  | askLook asking => exact askLook_ends asking ends
  | run running ran => exact runTool_ends running ran ends
  | work there worked =>
    simp only [exit?,there,Option.bind_some,Option.map_eq_some_iff] at ends
    obtain ⟨⟨id,ending⟩,ended,rfl⟩ := ends
    obtain ⟨asks,done,left⟩ := Worker.step_exit worked ended
    exact .worker there asks done rfl left
  -- nobody asks in another mode
  | readMain mode | readPump mode | pumpLook mode | blockedLook mode =>
    simp [exit?,ending?,mode] at ends
  | replay | launch | reply | clock | wire => simp [exit?,ending?] at ends

/-! ## Who asked -/

/-- The thread asked under the id, or drew it in this very step. -/
theorem Ends.asked (ends : Ends loop next exit) : loop.asks exit.thread = some exit.id ∨
    ∃ drawn, loop.shared.broker.nextRequestId = some (drawn,exit.id) := by
  cases ends with
  | own done left =>
    cases left with
    | writeFailed drawn draws gave => exact .inr ⟨drawn,draws⟩
    | answered asks | timedOut asks | clientCancelled asks | readFailed asks => exact .inl asks
  | worker there asks done workers left => exact .inl ((asks_of_worker there).1.trans asks)

theorem Ends.done (ends : Ends loop next exit) : next.asks exit.thread = none := by
  cases ends with
  | own done left => exact done
  | worker there asks done workers left => exact (asks_set_self there workers).1.trans done

/-- The thread of an exit is the only one that asks under its id, and is done. -/
theorem Ends.over_ (ends : Ends loop next exit) (asked : loop.Asked) {thread : Option Nat}
    (before : loop.asks thread = some exit.id) : next.asks thread = none := by
  rcases ends.asked with mine | ⟨drawn,draws⟩
  · rw [asked.apart thread exit.thread exit.id before mine]
    exact ends.done
  · have fresh := (RequestBroker.nextRequestId_follows asked.routed draws).2.2.1
    exact (fresh (asked.drawn thread exit.id before)).elim

/-- A question on a channel is one from before, or has just been registered. -/
theorem LoopMove.held (asked : loop.Asked) (move : LoopMove loop next) {thread : Option Nat}
    {id : RequestId} {channel : Nat} (asking : next.asks thread = some id)
    (held : next.channelOf thread = some channel) :
    (loop.asks thread = some id ∧ loop.channelOf thread = some channel ∧
      ∀ other, next.shared.broker.waiter? id = some other →
        loop.shared.broker.waiter? id = some other) ∨
    (next.shared.broker.Open channel ∧ next.shared.broker.waiter? id = some channel) := by
  cases move with
  | turned turn =>
    obtain ⟨before,same⟩ := (turn.carries thread).asked asking
    exact .inl ⟨before,same ▸ held,fun other => turn.follows.fewer id other⟩
  | drew fresh drawn asks workers =>
    cases thread with
    | none => cases held
    | some index =>
      have follows := (RequestBroker.nextRequestId_follows asked.routed drawn).1
      simp only [ServerLoop.asks,channelOf,workers] at asking held
      exact .inl ⟨asking,held,fun other => follows.fewer id other⟩
  | worked index worker after there turn mode workers =>
    have now := asks_set_self there workers
    have before := asks_of_worker there
    by_cases here : thread = some index
    · subst here
      rw [now.1] at asking
      rw [now.2] at held
      cases turn with
      | kept same phase =>
        rcases phase with done | ⟨asks,channels⟩
        · rw [done] at asking
          cases asking
        · refine .inl ⟨before.1.trans (asks.symm.trans asking),
            before.2.trans (channels.symm.trans held),?_⟩
          rw [same]
          exact fun _ waits => waits
      | gaveUp given gave done =>
        rw [done] at asking
        cases asking
      | drew drawn draws asks free =>
        rw [free] at held
        cases held
      | registered own was free same asks holds =>
        have registers := worker_registers asked there was free
        rw [← same] at registers
        rw [asks] at asking
        rw [holds] at held
        cases asking
        cases held
        have waits := (registers.found id).trans (if_pos rfl)
        exact .inr ⟨registers.routed.live id _ waits,waits⟩
    · obtain ⟨asksSame,channelsSame⟩ := asks_set mode workers here
      rw [asksSame] at asking
      rw [channelsSame] at held
      refine .inl ⟨asking,held,?_⟩
      cases turn with
      | kept same phase =>
        rw [same]
        exact fun _ waits => waits
      | gaveUp given gave done =>
        rw [gave]
        exact fun other => (RequestBroker.abandon_follows asked.routed given).fewer id other
      | drew drawn draws asks free =>
        exact fun other =>
          (RequestBroker.nextRequestId_follows asked.routed draws).1.fewer id other
      | registered own was free same asks holds =>
        have registers := worker_registers asked there was free
        rw [← same] at registers
        intro other waits
        rw [registers.found,if_neg] at waits
        · exact waits
        · rintro rfl
          exact here (asked.apart thread (some index) id asking (before.1.trans was))

/-! ## The invariant -/

/-- A worker's channel is its id's only one, and closed without an answer only once the
client has withdrawn the request. Nothing the loop's own thread asks has been given up. -/
structure Tracked (state : ServerLoop C × List RequestId) : Prop where
  asked : state.1.Asked
  sole : ∀ thread id channel other, state.1.asks thread = some id →
    state.1.channelOf thread = some channel →
    state.1.shared.broker.waiter? id = some other → other = channel
  closed : ∀ thread id channel, state.1.asks thread = some id →
    state.1.channelOf thread = some channel →
    state.1.shared.broker.receive channel = .disconnected → id ∈ state.2
  ours : ∀ id ∈ state.1.shared.broker.abandoned, state.1.shared.broker.wasIssuedHere id = true
  wanted : ∀ id, state.1.mode.asks = some id → id ∉ state.1.shared.broker.abandoned

theorem start_tracked (server : Server C) (context : C) (store : TaskStore) (now : SystemTime)
    (instant : Nat) : Tracked (start server context store now instant,[]) where
  asked := start_asked server context store now instant
  sole thread _ _ _ asking := by cases thread <;> cases asking
  closed thread _ _ asking := by cases thread <;> cases asking
  ours _ known := by cases known
  wanted _ asking := by cases asking

theorem grown_of_issued {before after : RequestBroker}
    (issued : ∀ id, before.Issued id → after.Issued id) : before.nextId ≤ after.nextId := by
  cases next : before.nextId with
  | zero => exact Nat.zero_le _
  | succ number =>
    have last : before.Issued (RequestBroker.issued number) :=
      ⟨number,next ▸ Nat.lt_succ_self number,rfl⟩
    obtain ⟨other,below,same⟩ := issued _ last
    rw [RequestBroker.issued_injective same]
    exact below

theorem wasIssuedHere_mono {before after : RequestBroker} (grown : before.nextId ≤ after.nextId)
    {id : RequestId} (ours : before.wasIssuedHere id = true) : after.wasIssuedHere id = true := by
  simp only [RequestBroker.wasIssuedHere] at ours ⊢
  split at ours
  · split at ours
    · split at ours
      · simp only [decide_eq_true_eq] at ours ⊢
        exact Nat.lt_of_lt_of_le ours grown
      · cases ours
    · cases ours
  · cases ours

/-- An id that is about to be drawn is not recognized yet. -/
theorem fresh_not_ours {before drawn : RequestBroker} {id : RequestId}
    (draws : before.nextRequestId = some (drawn,id)) : before.wasIssuedHere id = false := by
  simp only [RequestBroker.nextRequestId] at draws
  split at draws
  · rename_i room
    cases draws
    have small : before.nextId < 2^64 := Nat.lt_of_succ_lt room
    have chars := RequestBroker.issued_toList before.nextId
    simp only [RequestBroker.wasIssuedHere,RequestBroker.issued]
    simp only [chars,parseUnsigned_toDigits small]
    exact decide_eq_false (Nat.lt_irrefl _)
  · cases draws

theorem LoopMove.issued (asked : loop.Asked) (move : LoopMove loop next) (id : RequestId)
    (known : loop.shared.broker.Issued id) : next.shared.broker.Issued id := by
  cases move with
  | turned turn => exact turn.follows.issued id known
  | drew fresh drawn asks workers =>
    exact (RequestBroker.nextRequestId_follows asked.routed drawn).1.issued id known
  | worked index worker after there turn mode workers =>
    cases turn with
    | kept same phase => exact same ▸ known
    | gaveUp given gave done =>
      rw [gave]
      exact (RequestBroker.abandon_follows asked.routed given).issued id known
    | drew drawn draws asks free =>
      exact (RequestBroker.nextRequestId_follows asked.routed draws).1.issued id known
    | registered own was free same asks holds =>
      rw [same]
      exact (worker_registers asked there was free).issued id known

/-- The loop's own thread goes on with its question, or has drawn a new one. -/
theorem LoopMove.mode (move : LoopMove loop next) {id : RequestId}
    (asking : next.mode.asks = some id) : loop.mode.asks = some id ∨
      loop.shared.broker.nextRequestId = some (next.shared.broker,id) := by
  cases move with
  | turned turn =>
    rcases turn.mode with done | same
    · rw [done] at asking
      cases asking
    · exact .inl (same.symm.trans asking)
  | drew fresh drawn asks workers =>
    rw [asks] at asking
    cases asking
    exact .inr drawn
  | worked index worker after there turn mode workers =>
    rw [mode] at asking
    exact .inl asking

/-- A notice that an asking thread acts on is its own, and ends its wait. -/
theorem withdraws_exit {own id : RequestId} (asks : loop.mode.asks = some own)
    (names : loop.withdraws label = some id) :
    loop.exit? label = some ⟨none,id,.clientCancelled⟩ := by
  cases mode : loop.mode with
  | asking request call question reading continue_ =>
    simp only [withdraws,mode] at names
    split at names
    · rename_i idle
      cases idle
    · rename_i message _ _ _ _ _ same
      cases same
      split at names
      · rename_i here
        cases names
        simp only [exit?,ending?,mode]
        cases message with
        | notification notification => simp [here]
        | _ => cases here
      · cases names
    · rename_i idle
      cases idle
    · cases names
  | _ =>
    rw [mode] at asks
    cases asks

theorem step_tracked (state : ServerLoop C × List RequestId) (label : LoopLabel)
    (after : ServerLoop C × List RequestId) (tracked : Tracked state)
    (taken : Runs.observed step recordWithdrawn state label = some after) : Tracked after := by
  obtain ⟨loop,withdrawn⟩ := state
  obtain ⟨next,history⟩ := after
  obtain ⟨stepped,recorded⟩ := Runs.observed_step taken
  have stepped : loop.step label = some next := stepped
  have recorded : history = (loop.withdraws label).toList ++ withdrawn := recorded
  have asked : loop.Asked := tracked.asked
  have move := step_move asked.routed stepped
  have gives := step_gives asked stepped
  -- what a thread still asks does not end in this step
  have ongoing {thread : Option Nat} {id : RequestId} (before : loop.asks thread = some id)
      (later : next.asks thread = some id) (given : id ∈ loop.givesUp label) :
      loop.withdraws label = some id := by
    simp only [givesUp,List.mem_append,Option.mem_toList,Option.map_eq_some_iff] at given
    rcases given with names | ⟨exit,ends,rfl⟩
    · exact names
    · have gone := (step_ends stepped ends).over_ asked before
      rw [gone] at later
      cases later
  refine ⟨step_asked loop label next asked stepped,?_,?_,?_,?_⟩
  · intro thread id channel other asking held waits
    rcases move.held asked asking held with ⟨before,channels,fewer⟩ | ⟨_,mine⟩
    · exact tracked.sole thread id channel other before channels (fewer other waits)
    · exact Option.some.inj (waits.symm.trans mine)
  · intro thread id channel asking held gone
    rw [recorded,List.mem_append]
    rcases move.held asked asking held with ⟨before,channels,_⟩ | ⟨opened,_⟩
    · rcases gives.closed channel gone with already | ⟨lost,given,waits⟩
      · exact .inr (tracked.closed thread id channel before channels already)
      · -- the sender that was dropped was this thread's
        have opened := asked.routed.live lost channel waits
        have mine := (asked.registered thread id channel before channels).2 opened
        cases asked.routed.single lost id channel waits mine
        exact .inl (Option.mem_toList.mpr (ongoing before asking given))
    · rw [(RequestBroker.receive_empty_iff _ _).mpr opened] at gone
      cases gone
  · intro id known
    rcases gives.abandoned id known with old | ⟨_,ours⟩
    · exact wasIssuedHere_mono (grown_of_issued (move.issued asked)) (tracked.ours id old)
    · exact ours
  · intro id asking known
    rcases move.mode asking with before | drawn
    · rcases gives.abandoned id known with old | ⟨given,_⟩
      · exact tracked.wanted id before old
      · have names := @ongoing none id before asking given
        have gone := (step_ends stepped (withdraws_exit before names)).done
        rw [show next.asks none = some id from asking] at gone
        cases gone
    · have same := (SameRoutes.drawn drawn).abandoned
      have ours := tracked.ours id (same ▸ known)
      rw [fresh_not_ours drawn] at ours
      cases ours

end ServerLoop

end SmlMcps
