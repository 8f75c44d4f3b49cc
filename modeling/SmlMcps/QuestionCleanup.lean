import SmlMcps.LoopCancellation
import SmlMcps.LoopOrder
import SmlMcps.QuestionTracking

/-! What an ended request leaves behind. Every way out but two gives the request up or has
had its answer: a wait that ends with a read error just ends, and a worker that finds its
channel closed trusts the cancellation that closed it. -/
namespace SmlMcps

variable {C : Type}

/-! ## Cleaned up -/

def Shared.Tells (before after : Shared) (id : RequestId) : Prop :=
  ∃ message, after.written = before.written ++ [message] ∧ cancelledHere message id = true

/-- What an ended request owes: no waiter, no place for a late answer, a word to the
client, and a task that is working again. -/
structure CleanedUp (loop next : ServerLoop C) (withdrawn : List RequestId)
    (exit : QuestionExit) : Prop where
  unregistered : next.shared.broker.waiter? exit.id = none
  discarded : exit.ending ≠ .answered → next.shared.broker.Discards exit.id
  told : exit.ending ≠ .answered → exit.ending ≠ .writeFailed → exit.id ∉ withdrawn →
    loop.shared.writeFailure = none → loop.shared.Tells next.shared exit.id
  working : exit.ending ≠ .writeFailed → ∀ (index : Nat) worker record,
    exit.thread = some index → loop.workers[index]? = some worker →
    next.shared.store.record? worker.taskId = some record →
    record.task.status.isTerminal = false → record.task.status = .working

def ServerLoop.taskCancelled (loop : ServerLoop C) (thread : Option Nat) : Bool :=
  match thread with
  | none => false
  | some index => loop.workers[index]?.any fun worker => worker.isCancelled loop.shared

/-- The wait does not end with a read error, and a worker that finds its channel closed
has been cancelled, or the broker has heard nothing since the client's cancellation that
it could have forgotten it for. -/
def QuestionExit.Tidy (loop : ServerLoop C) (exit : QuestionExit) : Prop :=
  match exit.ending with
  | .readFailed => False
  | .disconnected => loop.taskCancelled exit.thread = true ∨
      loop.shared.broker.abandoned.getLast? = some exit.id
  | _ => True

instance QuestionExit.Tidy.instDecidable (loop : ServerLoop C) :
    (exit : QuestionExit) → Decidable (exit.Tidy loop)
  | ⟨_,_,.readFailed⟩ => inferInstanceAs (Decidable False)
  | ⟨thread,id,.disconnected⟩ => inferInstanceAs (Decidable
      (loop.taskCancelled thread = true ∨ loop.shared.broker.abandoned.getLast? = some id))
  | ⟨_,_,.answered⟩ | ⟨_,_,.timedOut⟩ | ⟨_,_,.taskCancelled⟩ | ⟨_,_,.clientCancelled⟩
  | ⟨_,_,.writeFailed⟩ => inferInstanceAs (Decidable True)

theorem abandon_discards (broker : RequestBroker) (id : RequestId) :
    (broker.abandon id).waiter? id = none ∧ (broker.abandon id).Discards id := by
  have unheld : (broker.abandon id).waiter? id = none :=
    (KeyedTable.lookup_erase_eq id id _).trans (if_pos rfl)
  obtain ⟨before,last⟩ := RequestBroker.abandon_last broker id
  refine ⟨unheld,RequestBroker.discards_of_last unheld ?_⟩
  rw [last,List.getLast?_concat]

theorem tagWithTask_lookup (taskId : Option String) (fields : JsonMap) {key : String}
    (other : key ≠ "_meta") : ∃ tagged, tagWithTask taskId (some (.obj fields)) =
      some (.obj tagged) ∧ JsonMap.lookup key tagged = JsonMap.lookup key fields := by
  cases taskId with
  | none => exact ⟨fields,rfl,rfl⟩
  | some taskId =>
    simp only [tagWithTask,Option.getD_some]
    split
    · exact ⟨_,rfl,JsonMap.lookup_insert_other _ _ _ _ other⟩
    · exact ⟨fields,rfl,rfl⟩

theorem giveUp_tells {shared : Shared} (writable : shared.writeFailure = none)
    (taskId : Option String) {broker : RequestBroker} {id : RequestId} (issued : broker.Issued id)
    (reason : String) : shared.Tells (shared.giveUp taskId id reason) id := by
  obtain ⟨number,_,rfl⟩ := issued
  have found : JsonMap.lookup "requestId" (JsonMap.ofMembers
      [("requestId",some (RequestBroker.issued number).toJson),("reason",some (.str reason))]) =
        some (RequestBroker.issued number).toJson := by
    rw [JsonMap.lookup_ofMembers (by simp)]
    rfl
  obtain ⟨tagged,tag,kept⟩ := @tagWithTask_lookup taskId (JsonMap.ofMembers
    [("requestId",some (RequestBroker.issued number).toJson),("reason",some (.str reason))])
    "requestId" (by decide)
  refine ⟨notificationMessage cancelledNotification (some (.obj tagged)),?_,?_⟩
  · simp only [Shared.giveUp,Shared.tryWrite,Shared.write,Shared.setBroker,writable,tag]
  · rw [found] at kept
    simp only [cancelledHere,notificationMessage,cancelledRequestId,if_true,beq_iff_eq]
    simp [kept]
    rfl

namespace ServerLoop

variable {loop next : ServerLoop C} {exit : QuestionExit} {withdrawn history : List RequestId}

theorem Tracked.unheld (tracked : Tracked (loop,withdrawn)) {index : Nat} {worker : Worker C}
    {id : RequestId} {channel : Nat} (there : loop.workers[index]? = some worker)
    (asks : worker.phase.asks = some id) (held : worker.phase.channelOf = some channel)
    (closed : loop.shared.broker.receive channel ≠ .empty) :
    loop.shared.broker.waiter? id = none := by
  have before := asks_of_worker there
  cases waits : loop.shared.broker.waiter? id with
  | none => rfl
  | some other =>
    have same := tracked.sole (some index) id channel other (before.1.trans asks)
      (before.2.trans held) waits
    have opened := tracked.asked.routed.live id other waits
    rw [same] at opened
    exact (closed ((RequestBroker.receive_empty_iff _ _).mpr opened)).elim

theorem own_cleaned_iff (tracked : Tracked (loop,withdrawn)) {id : RequestId}
    {ending : QuestionEnding} (left : OwnExit loop id next.shared ending)
    (names : ending = .clientCancelled → id ∈ history) :
    CleanedUp loop next history ⟨none,id,ending⟩ ↔ QuestionExit.Tidy loop ⟨none,id,ending⟩ := by
  have asked : loop.Asked := tracked.asked
  have unheld (asks : loop.mode.asks = some id) : loop.shared.broker.waiter? id = none :=
    asked.unregistered none id asks rfl
  -- no task asked
  have outside (ended : QuestionEnding) : ended ≠ .writeFailed →
      ∀ (index : Nat) worker record, (none : Option Nat) = some index →
        loop.workers[index]? = some worker →
        next.shared.store.record? worker.taskId = some record →
        record.task.status.isTerminal = false → record.task.status = .working :=
    fun _ _ _ _ same => by cases same
  cases left with
  | answered asks kept =>
    have free := (congrArg (AList.lookup id) kept.waiters).trans (unheld asks)
    exact ⟨fun _ => trivial,fun _ => ⟨free,fun unanswered => (unanswered rfl).elim,
      fun unanswered => (unanswered rfl).elim,outside _⟩⟩
  | timedOut asks reason gave =>
    obtain ⟨free,discards⟩ := abandon_discards loop.shared.broker id
    rw [← giveUp_broker loop.shared none id reason,← gave] at free discards
    refine ⟨fun _ => trivial,fun _ => ⟨free,fun _ => discards,?_,outside _⟩⟩
    intro _ _ _ writable
    rw [gave]
    exact giveUp_tells writable none (asked.drawn none id asks) reason
  | clientCancelled asks gave =>
    obtain ⟨free,discards⟩ := abandon_discards loop.shared.broker id
    rw [← gave] at free discards
    refine ⟨fun _ => trivial,fun _ => ⟨free,fun _ => discards,?_,outside _⟩⟩
    intro _ _ unknown
    exact (unknown (names rfl)).elim
  | readFailed asks same =>
    refine ⟨fun cleaned => ?_,False.elim⟩
    -- the request is still wanted, as far as the broker knows
    have discards := cleaned.discarded (by simp)
    rw [same] at discards
    have last := RequestBroker.last_of_discards (asked.drawn none id asks) asked.routed.bound
      (unheld asks) discards
    exact tracked.wanted id asks (List.mem_of_getLast? last)
  | writeFailed drawn draws gave =>
    obtain ⟨free,discards⟩ := abandon_discards drawn id
    rw [← gave] at free discards
    exact ⟨fun _ => trivial,
      fun _ => ⟨free,fun _ => discards,fun _ sent => (sent rfl).elim,outside _⟩⟩

theorem worker_cleaned_iff (tracked : Tracked (loop,withdrawn)) {index : Nat} {worker : Worker C}
    {id : RequestId} {ending : QuestionEnding} (there : loop.workers[index]? = some worker)
    (asks : worker.phase.asks = some id)
    (left : WorkerExit worker loop.shared id next.shared ending)
    (more : ∀ known ∈ withdrawn, known ∈ history) :
    CleanedUp loop next history ⟨some index,id,ending⟩ ↔
      QuestionExit.Tidy loop ⟨some index,id,ending⟩ := by
  have asked : loop.Asked := tracked.asked
  have before := asks_of_worker there
  have issued := asked.drawn (some index) id (before.1.trans asks)
  have cancelled : loop.taskCancelled (some index) = worker.isCancelled loop.shared := by
    simp only [taskCancelled,there,Option.any_some]
  have working (store : next.shared.store = (worker.setTaskStatus loop.shared .working).store) :
      ∀ (position : Nat) known record, some index = some position →
        loop.workers[position]? = some known →
        next.shared.store.record? known.taskId = some record →
        record.task.status.isTerminal = false → record.task.status = .working := by
    intro position known record same found filed
    cases same
    rw [there] at found
    cases found
    rw [store] at filed
    exact TaskStore.setStatus_working filed
  cases left with
  | writeFailed gave =>
    obtain ⟨free,discards⟩ := abandon_discards loop.shared.broker id
    rw [← gave] at free discards
    exact ⟨fun _ => trivial,
      fun _ => ⟨free,fun _ => discards,fun _ sent => (sent rfl).elim,fun sent => (sent rfl).elim⟩⟩
  | gaveUp _ unanswered reason lost found gave =>
    obtain ⟨free,discards⟩ := abandon_discards loop.shared.broker id
    have broker : next.shared.broker = loop.shared.broker.abandon id := by
      rw [gave,giveUp_broker]
      rfl
    rw [← broker] at free discards
    have store : next.shared.store = (worker.setTaskStatus loop.shared .working).store := by
      rw [gave,Shared.giveUp_store]
    have tidy : QuestionExit.Tidy loop ⟨some index,id,ending⟩ := by
      cases ending with
      | disconnected => exact .inl (cancelled.trans (lost rfl))
      | readFailed => exact (found rfl).elim
      | _ => trivial
    refine ⟨fun _ => tidy,fun _ => ⟨free,fun _ => discards,?_,fun _ => working store⟩⟩
    intro _ _ _ writable
    have told := @giveUp_tells (worker.setTaskStatus loop.shared .working) writable
      (some worker.taskId) _ id issued reason
    rw [← gave] at told
    exact told
  | answered channel held closed gave store =>
    have unheld := tracked.unheld there asks held closed
    refine ⟨fun _ => trivial,fun _ => ⟨?_,fun unanswered => (unanswered rfl).elim,
      fun unanswered => (unanswered rfl).elim,fun _ => working store⟩⟩
    rcases gave with same | abandoned
    · rw [same]
      exact unheld
    · rw [abandoned]
      exact (abandon_discards loop.shared.broker id).1
  | disconnected channel held gone running same =>
    have unheld := tracked.unheld there asks held (by simp [gone])
    have broker : next.shared.broker = loop.shared.broker := by
      rw [same]
      rfl
    have store : next.shared.store = (worker.setTaskStatus loop.shared .working).store := by
      rw [same]
    have kept := RequestBroker.discards_iff issued asked.routed.bound unheld
    rw [← broker] at kept
    constructor
    · intro cleaned
      exact .inr (broker ▸ kept.mp (cleaned.discarded (by simp)))
    · rintro (ended | last)
      · rw [cancelled,running] at ended
        cases ended
      · refine ⟨broker ▸ unheld,fun _ => kept.mpr (broker ▸ last),?_,fun _ => working store⟩
        intro _ _ unknown
        have known := tracked.closed (some index) id channel (before.1.trans asks)
          (before.2.trans held) gone
        exact (unknown (more id known)).elim

/-- The client's cancellation that an asker reads itself is one it has just acted on. -/
theorem withdraws_own {label : LoopLabel} {id : RequestId}
    (ends : loop.exit? label = some ⟨none,id,.clientCancelled⟩) :
    loop.withdraws label = some id := by
  cases label with
  | read event freshId =>
    cases mode : loop.mode with
    | asking request call question reading continue_ =>
      cases reading with
      | false => simp [exit?,ending?,mode] at ends
      | true =>
        cases event with
        | error e => cases e <;> simp [exit?,ending?,mode] at ends
        | ok message =>
          cases message with
          | response response =>
            simp only [exit?,ending?,mode] at ends
            split at ends <;> simp at ends
          | _ =>
            simp only [exit?,ending?,mode] at ends
            simp only [withdraws,mode]
            split at ends
            · rename_i here
              simp only [Option.map_some,Option.some.injEq] at ends
              cases ends
              rw [if_pos here]
            · cases ends
    | _ => simp [exit?,ending?,mode] at ends
  | look =>
    cases mode : loop.mode with
    | asking request call question reading continue_ =>
      cases reading with
      | true => simp [exit?,ending?,mode] at ends
      | false =>
        simp only [exit?,ending?,mode] at ends
        split at ends
        · simp at ends
        · split at ends <;> simp at ends
    | _ => simp [exit?,ending?,mode] at ends
  | run answer =>
    cases mode : loop.mode with
    | running request call prog =>
      cases prog with
      | request method params timeout continue_ =>
        simp only [exit?,ending?,mode] at ends
        split at ends <;> simp at ends
      | _ => simp [exit?,ending?,mode] at ends
    | _ => simp [exit?,ending?,mode] at ends
  | work index answer =>
    simp only [exit?,Option.map_eq_some_iff] at ends
    obtain ⟨_,_,same⟩ := ends
    cases same
  | _ => simp [exit?,ending?] at ends

theorem own_asks_until {label : LoopLabel} {id : RequestId} (asks : loop.mode.asks = some id)
    (taken : loop.step label = some next) : next.mode.asks = some id ∨
      ∃ ending, loop.exit? label = some ⟨none,id,ending⟩ := by
  cases mode : loop.mode with
  | asking request call question reading continue_ =>
    rw [mode] at asks
    cases asks
    have still : loop.mode.asks = some question.id := by
      rw [mode]
      rfl
    cases label with
    | read event freshId =>
      cases reading with
      | false => simp [step,readStep,mode] at taken
      | true =>
        simp only [step,readStep,mode,Option.some.injEq] at taken
        simp only [exit?,ending?,mode]
        subst taken
        cases event with
        | error e => cases e <;> exact .inr ⟨_,rfl⟩
        | ok message =>
          cases message with
          | response response =>
            simp only [readAsking]
            split
            · exact .inr ⟨_,rfl⟩
            · exact .inl rfl
          | _ =>
            simp only [readAsking]
            split
            · exact .inr ⟨_,rfl⟩
            · exact .inl rfl
    | look =>
      cases reading with
      | true => simp [step,lookStep,mode] at taken
      | false =>
        simp only [step,lookStep,mode,Option.some.injEq] at taken
        simp only [exit?,ending?,mode]
        subst taken
        simp only [askLook]
        split
        · rename_i found
          rw [found]
          exact .inr ⟨_,rfl⟩
        · rename_i absent
          rw [absent]
          split
          · exact .inr ⟨_,rfl⟩
          · exact .inl rfl
    | work index answer =>
      obtain ⟨worker,after,shared,_,_,rfl⟩ := workStep_taken taken
      exact .inl still
    | clock now elapsed =>
      cases taken
      exact .inl still
    | wire failure =>
      cases taken
      exact .inl still
    | _ => simp [step,mode] at taken
  | _ =>
    rw [mode] at asks
    cases asks

end ServerLoop

theorem Worker.asks_until {worker next : Worker C} {shared after : Shared} {answer : Json}
    {id : RequestId} (asks : worker.phase.asks = some id)
    (taken : worker.step shared answer = some (after,next)) :
    next.phase.asks = some id ∨ ∃ ending, worker.ending? shared = some (id,ending) := by
  cases step_taken taken with
  | allocated phase =>
    rw [phase] at asks
    exact .inl asks
  | sent phase =>
    rw [phase] at asks
    exact .inl asks
  | unsent phase wrote =>
    rw [phase] at asks
    cases asks
    simp only [Shared.write] at wrote
    simp only [ending?,phase]
    cases fails : shared.writeFailure with
    | some failure => exact .inr ⟨_,rfl⟩
    | none =>
      rw [fails] at wrote
      cases wrote
  | @asking question channel _ _ phase =>
    rw [phase] at asks
    cases asks
    simp only [ending?,phase,await]
    split
    · split
      · exact .inr ⟨_,rfl⟩
      · split
        · exact .inr ⟨_,rfl⟩
        · exact .inl rfl
    · cases shared.broker.receive channel with
      | empty => exact .inl rfl
      | _ => exact .inr ⟨_,rfl⟩
  | gated phase | unwound phase | built phase | running phase | finishing phase
  | announcing phase =>
    rw [phase] at asks
    cases asks

/-- In every state a run reaches, a request that ends is cleaned up after exactly if its
end is tidy. -/
theorem request_cleaned_up_iff (server : Server C) (context : C) (store : TaskStore)
    (now : SystemTime) (instant : Nat) {labels : List LoopLabel} {loop next : ServerLoop C}
    {withdrawn : List RequestId}
    (run : Runs.execute (Runs.observed ServerLoop.step ServerLoop.recordWithdrawn)
      (.start server context store now instant,[]) labels = some (loop,withdrawn))
    {label : LoopLabel} (taken : loop.step label = some next) {exit : QuestionExit}
    (ends : loop.exit? label = some exit) :
    CleanedUp loop next (loop.recordWithdrawn label next withdrawn) exit ↔ exit.Tidy loop := by
  have tracked : ServerLoop.Tracked (loop,withdrawn) :=
    Runs.invariant ServerLoop.step_tracked run
      (ServerLoop.start_tracked server context store now instant)
  cases ServerLoop.step_ends taken ends with
  | own done left =>
    refine ServerLoop.own_cleaned_iff tracked left ?_
    rintro rfl
    exact List.mem_append_left _ (Option.mem_toList.mpr (ServerLoop.withdraws_own ends))
  | worker there asks done workers left =>
    exact ServerLoop.worker_cleaned_iff tracked there asks left
      fun known member => List.mem_append_right _ member

/-- The client withdraws the question of a task, whose worker then finds its channel closed. -/
theorem withdrawal_cleaned_up :
    ∃ loop next withdrawn,
      Runs.execute (Runs.observed ServerLoop.step ServerLoop.recordWithdrawn)
        (.start askingTaskServer () (.new .default) 0 0,[])
        (untilAsked ++ [.read (.ok (.notification withdrawal)) "",.work 0 .null]) =
          some (loop,withdrawn) ∧
      loop.exit? (.work 0 .null) = some ⟨some 0,.string "sml-0",.disconnected⟩ ∧
      loop.step (.work 0 .null) = some next ∧
      CleanedUp loop next (loop.recordWithdrawn (.work 0 .null) next withdrawn)
        ⟨some 0,.string "sml-0",.disconnected⟩ := by
  refine ⟨_,_,_,rfl,rfl,rfl,?_⟩
  exact (@request_cleaned_up_iff Unit askingTaskServer () (.new .default) 0 0
    (untilAsked ++ [.read (.ok (.notification withdrawal)) "",.work 0 .null]) _ _ _ rfl _ rfl _
    rfl).mpr (.inr rfl)

def untilReading : List LoopLabel := [.read (.ok callAsk) "",.run .null,.look]

/-- A line nobody could read ends the wait; the client is not told, and its answer to
the request is parked. -/
theorem malformed_line_left_behind :
    ∃ loop next withdrawn,
      Runs.execute (Runs.observed ServerLoop.step ServerLoop.recordWithdrawn)
        (.start askingServer () (.new .default) 0 0,[]) untilReading = some (loop,withdrawn) ∧
      loop.exit? (.read (.error (.json "expected value")) "") =
        some ⟨none,.string "sml-0",.readFailed⟩ ∧
      loop.step (.read (.error (.json "expected value")) "") = some next ∧
      next.shared.written = loop.shared.written ∧ next.shared.writeFailure = none ∧
      (next.shared.broker.deliver ⟨.string "sml-0",some .null,none⟩).parked =
        [⟨.string "sml-0",some .null,none⟩] ∧
      ¬CleanedUp loop next
        (loop.recordWithdrawn (.read (.error (.json "expected value")) "") next withdrawn)
        ⟨none,.string "sml-0",.readFailed⟩ := by
  refine ⟨_,_,_,rfl,rfl,rfl,rfl,rfl,by decide,?_⟩
  intro cleaned
  obtain ⟨message,told,_⟩ := cleaned.told (by simp) (by simp) (by decide) rfl
  have longer := congrArg List.length told
  rw [List.length_append] at longer
  exact Nat.succ_ne_self _ longer.symm

end SmlMcps
