import SmlMcps.Library.Runs
import SmlMcps.LoopAnswers
import SmlMcps.LoopCancellation
import SmlMcps.LoopThreads

/-! Which message about a task comes first. The worker of a task starts before the
client has been told that there is a task, and waits at its gate; any write of the
loop's thread opens every gate. Between the start of a worker and the next write the
loop's thread has nothing to write but the answer that announces the task. -/
namespace SmlMcps

variable {C : Type}

/-! ## Who wrote what -/

/-- The author of what a step writes: a worker, or the loop's own thread. -/
def LoopLabel.author : LoopLabel → Option Nat
  | .work index _ => some index
  | _ => none

/-- What has been written, by whom, and the request and task each worker was started
for. -/
structure History (C : Type) where
  log : List (Option Nat × JsonRpcMessage)
  started : List (RequestId × TaskStart C)

namespace History

def empty : History C := ⟨[],[]⟩

def record (loop : ServerLoop C) (label : LoopLabel) (next : ServerLoop C)
    (history : History C) : History C where
  log := history.log ++ (next.shared.written.drop loop.shared.written.length).map
    fun message => (label.author,message)
  started := match loop.mode with
    | .launching request start =>
      if loop.workers.length < next.workers.length then history.started ++ [(request.id,start)]
      else history.started
    | _ => history.started

end History

/-- The answer to a task-augmented call: the result that tells the client of its task. -/
def Announces (id : RequestId) (start : TaskStart C) (message : JsonRpcMessage) : Prop :=
  ∃ immediate, start.call.entry.tool.modelImmediateResponse = .ok immediate ∧
    message = Server.respond id (.ok (createTaskResult start.task immediate))

/-- The loop's thread wrote the announcement before position `position` of the log. -/
def History.AnnouncedBefore (history : History C) (position index : Nat) : Prop :=
  ∃ id start answer, history.started[index]? = some (id,start) ∧ Announces id start answer ∧
    ∃ earlier < position, history.log[earlier]? = some (none,answer)

/-- Writes succeed, and no worker gives up on its gate. -/
def ServerLoop.patient (loop : ServerLoop C) : LoopLabel → Bool
  | .wire failure => failure.isNone
  | .work index _ => (loop.workers[index]?).all fun worker =>
      worker.gateOpen || loop.shared.instant - worker.startedAt < gatePatience
  | _ => true

/-- A worker behind a closed gate has done nothing, and its announcement is what the
loop's thread is about to write; once a gate is open the announcement is written. -/
structure Announced (state : ServerLoop C × History C) : Prop where
  taking : state.1.shared.writeFailure = none
  written : state.2.log.map Prod.snd = state.1.shared.written
  started : state.2.started.map Prod.snd = state.1.workers.map Worker.start
  waiting : ∀ (index : Nat) (worker : Worker C), state.1.workers[index]? = some worker → worker.gateOpen = false →
    worker.phase = .gated ∧ ∃ id outcome, state.1.mode = .replying id outcome ∧
      state.2.started[index]? = some (id,worker.start) ∧
      Announces id worker.start (Server.respond id outcome)
  opened : ∀ (index : Nat) (worker : Worker C), state.1.workers[index]? = some worker → worker.gateOpen = true →
    state.2.AnnouncedBefore state.2.log.length index
  ordered : ∀ (position index : Nat) message, state.2.log[position]? = some (some index,message) →
    state.2.AnnouncedBefore position index

namespace History

variable {history : History C} {loop next : ServerLoop C} {label : LoopLabel}

theorem AnnouncedBefore.later {position later index : Nat}
    (before : history.AnnouncedBefore position index) (order : position ≤ later) :
    history.AnnouncedBefore later index := by
  obtain ⟨id,start,answer,started,announces,earlier,less,there⟩ := before
  exact ⟨id,start,answer,started,announces,earlier,by omega,there⟩

theorem AnnouncedBefore.record {position index : Nat}
    (before : history.AnnouncedBefore position index) :
    (record loop label next history).AnnouncedBefore position index := by
  obtain ⟨id,start,answer,started,announces,earlier,less,there⟩ := before
  refine ⟨id,start,answer,?_,announces,earlier,less,?_⟩
  · unfold History.record
    simp only
    split
    · split
      · rw [List.getElem?_append_left (List.getElem?_eq_some_iff.mp started).1]
        exact started
      · exact started
    · exact started
  · unfold History.record
    rw [List.getElem?_append_left (List.getElem?_eq_some_iff.mp there).1]
    exact there

theorem AnnouncedBefore.recorded {index : Nat}
    (before : history.AnnouncedBefore history.log.length index) :
    (History.record loop label next history).AnnouncedBefore
      (History.record loop label next history).log.length index := by
  refine before.record.later ?_
  simp only [History.record,List.length_append]
  omega

theorem record_written {more : List JsonRpcMessage}
    (grown : next.shared.written = loop.shared.written ++ more) :
    (record loop label next history).log =
      history.log ++ more.map fun message => (label.author,message) := by
  unfold record
  rw [grown,List.drop_left]

theorem record_started (same : next.workers.length = loop.workers.length) :
    (record loop label next history).started = history.started := by
  unfold record
  simp only
  split
  · rw [if_neg (by omega)]
  · rfl

end History

/-! ## One step -/

variable {loop next : ServerLoop C} {history : History C} {label : LoopLabel}

namespace Announced

/-- What a step adds to the log, when every worker it is about has been announced. -/
theorem ordered_record (announced : Announced (loop,history)) {more : List JsonRpcMessage}
    (grown : next.shared.written = loop.shared.written ++ more)
    (told : ∀ index, label.author = some index →
      history.AnnouncedBefore history.log.length index)
    (position index : Nat) (message : JsonRpcMessage)
    (found : (History.record loop label next history).log[position]? =
      some (some index,message)) :
    (History.record loop label next history).AnnouncedBefore position index := by
  apply History.AnnouncedBefore.record
  rw [History.record_written grown] at found
  by_cases old : position < history.log.length
  · rw [List.getElem?_append_left old] at found
    exact announced.ordered position index message found
  · rw [List.getElem?_append_right (by omega),List.getElem?_map] at found
    obtain ⟨_,_,same⟩ := Option.map_eq_some_iff.mp found
    exact (told index (congrArg Prod.fst same)).later (by omega)

theorem written_record (announced : Announced (loop,history)) {more : List JsonRpcMessage}
    (grown : next.shared.written = loop.shared.written ++ more) :
    (History.record loop label next history).log.map Prod.snd = next.shared.written := by
  rw [History.record_written grown,grown,List.map_append,announced.written,List.map_map]
  simp [Function.comp_def]

/-- While the loop's thread is not about to answer, every gate is open. -/
theorem all_open (announced : Announced (loop,history))
    (busy : ∀ id outcome, loop.mode ≠ .replying id outcome) :
    ∀ worker ∈ loop.workers, worker.gateOpen = true := by
  intro worker member
  obtain ⟨index,there⟩ := List.mem_iff_getElem?.mp member
  by_contra closed
  obtain ⟨_,id,outcome,replying,_⟩ :=
    announced.waiting index worker there (Bool.eq_false_iff.mpr closed)
  exact busy id outcome replying

/-- Releasing the workers leaves each as it was, behind an open gate. -/
theorem released {index : Nat} {worker : Worker C}
    (found : loop.releaseTaskWorkers.workers[index]? = some worker) :
    ∃ old, loop.workers[index]? = some old ∧ worker = { old with gateOpen := true } := by
  simp only [ServerLoop.releaseTaskWorkers,List.getElem?_map,Option.map_eq_some_iff] at found
  obtain ⟨old,there,same⟩ := found
  exact ⟨old,there,same.symm⟩

theorem moves_workers (moves : ServerLoop.Moves loop next) :
    next.workers.map Worker.start = loop.workers.map Worker.start := by
  rcases moves.workers with same | same
  · rw [same]
  · rw [same]
    simp [ServerLoop.releaseTaskWorkers,Function.comp_def]

theorem moves_length (moves : ServerLoop.Moves loop next) :
    next.workers.length = loop.workers.length := by
  have same := congrArg List.length (moves_workers moves)
  simpa using same

/-- A step of the loop's thread at a moment when every gate is open. -/
theorem moves (announced : Announced (loop,history)) (own : label.own = true)
    (opened : ∀ worker ∈ loop.workers, worker.gateOpen = true)
    (moves : ServerLoop.Moves loop next) :
    Announced (next,History.record loop label next history) := by
  obtain ⟨more,grown⟩ := moves.uses.written
  have author : label.author = none := by cases label <;> first | rfl | cases own
  have started := @History.record_started _ history _ _ label (moves_length moves)
  have still : ∀ (index : Nat) (worker : Worker C), next.workers[index]? = some worker →
      worker.gateOpen = true := by
    intro index worker found
    rcases moves.workers with same | same
    · rw [same] at found
      exact opened worker (List.mem_of_getElem? found)
    · rw [same] at found
      obtain ⟨old,_,rfl⟩ := released found
      rfl
  refine ⟨moves.uses.writeFailure.trans announced.taking,announced.written_record grown,
    ?_,?_,?_,announced.ordered_record grown ?_⟩
  · rw [started,announced.started,moves_workers moves]
  · intro index worker found closed
    rw [still index worker found] at closed
    cases closed
  · intro index worker found _
    have bound := (List.getElem?_eq_some_iff.mp found).1
    rw [moves_length moves] at bound
    have before := announced.opened index _ (List.getElem?_eq_getElem bound)
      (opened _ (List.getElem_mem bound))
    exact before.recorded
  · intro index written
    rw [author] at written
    cases written

/-- The answer the loop's thread was about to write is written, and all gates open. -/
theorem reply (announced : Announced (loop,history)) {id : RequestId}
    {outcome : Except McpError Json} (replying : loop.mode = .replying id outcome)
    (next : ServerLoop C)
    (answered : ServerLoop.thenIdle (loop.writeMessage (Server.respond id outcome)) = next) :
    Announced (next,History.record loop .reply next history) := by
  obtain ⟨after,sent,wrote,_⟩ := ServerLoop.writeMessage_ok announced.taking
    (Server.respond id outcome)
  have released_ : after.workers = loop.releaseTaskWorkers.workers := by
    have same : after = (loop.writeMessage (Server.respond id outcome)).1 := by rw [sent]
    rw [same]
    rfl
  have moves : ServerLoop.Moves loop next := by
    rw [← answered]
    exact (ServerLoop.moves_writeMessage loop _).thenIdle
  have idle : next = after.goto .idle := by
    rw [← answered,sent]
    rfl
  have grown : next.shared.written = loop.shared.written ++ [Server.respond id outcome] := by
    rw [idle]
    show after.shared.written = _
    rw [wrote]
  have log := @History.record_written _ history _ _ LoopLabel.reply _ grown
  have started := @History.record_started _ history _ _ LoopLabel.reply (moves_length moves)
  refine ⟨moves.uses.writeFailure.trans announced.taking,announced.written_record grown,
    ?_,?_,?_,announced.ordered_record grown ?_⟩
  · rw [started,announced.started,moves_workers moves]
  · intro index worker found closed
    rw [idle] at found
    have there : after.workers[index]? = some worker := found
    rw [released_] at there
    obtain ⟨old,_,rfl⟩ := released there
    cases closed
  · intro index worker found _
    rw [idle] at found
    have there : after.workers[index]? = some worker := found
    rw [released_] at there
    obtain ⟨old,before,rfl⟩ := released there
    by_cases open_ : old.gateOpen = true
    · exact (announced.opened index old before open_).recorded
    · -- The answer just written is the one that announces this worker's task.
      obtain ⟨_,told,result,mode,known,announces⟩ :=
        announced.waiting index old before (Bool.eq_false_iff.mpr open_)
      rw [replying] at mode
      cases mode
      refine ⟨id,old.start,_,?_,announces,history.log.length,by simp [log],?_⟩
      · rw [started]
        exact known
      · rw [log,List.getElem?_append_right (Nat.le_refl _)]
        simp [LoopLabel.author]
  · intro index written
    cases written

/-- A step that writes nothing, leaves the workers as they are, and does not take the
loop's thread away from an announcement it is about to make. -/
theorem silent (announced : Announced (loop,history))
    (kept : (∀ worker ∈ loop.workers, worker.gateOpen = true) ∨ next.mode = loop.mode)
    (author : label.author = none) (same : next.workers = loop.workers)
    (written : next.shared.written = loop.shared.written)
    (taking : next.shared.writeFailure = none) :
    Announced (next,History.record loop label next history) := by
  have grown : next.shared.written = loop.shared.written ++ [] := by
    rw [written,List.append_nil]
  have started := @History.record_started _ history loop next label (by rw [same])
  refine ⟨taking,announced.written_record grown,?_,?_,?_,announced.ordered_record grown ?_⟩
  · rw [started,announced.started,same]
  · intro index worker found closed
    rw [same] at found
    rcases kept with opened | mode
    · rw [opened worker (List.mem_of_getElem? found)] at closed
      cases closed
    · rw [started,mode]
      exact announced.waiting index worker found closed
  · intro index worker found open_
    rw [same] at found
    exact (announced.opened index worker found open_).recorded
  · intro index written
    rw [author] at written
    cases written

/-- A worker starts behind its gate, and the loop's thread is about to announce it. -/
theorem spawn (announced : Announced (loop,history)) {request : JsonRpcRequest}
    {start : TaskStart C} {worker : Worker C} {immediate : Option String}
    (launching : loop.mode = .launching request start)
    (response : start.call.entry.tool.modelImmediateResponse = .ok immediate)
    (fresh : worker.start = start ∧ worker.phase = .gated ∧ worker.gateOpen = false)
    (spawnError : Option String) (shared : next.shared = loop.shared)
    (workers : next.workers = loop.workers ++ [worker])
    (mode : next.mode = .replying request.id (.ok (createTaskResult start.task immediate))) :
    Announced (next,History.record loop (.launch spawnError) next history) := by
  obtain ⟨rfl,gated,behind⟩ := fresh
  have opened := announced.all_open (by simp [launching])
  have grown : next.shared.written = loop.shared.written ++ [] := by
    rw [shared,List.append_nil]
  have lengths : history.started.length = loop.workers.length := by
    simpa using congrArg List.length announced.started
  have started : (History.record loop (.launch spawnError) next history).started =
      history.started ++ [(request.id,worker.start)] := by
    simp [History.record,launching,workers]
  refine ⟨?_,announced.written_record grown,?_,?_,?_,announced.ordered_record grown ?_⟩
  · rw [shared]
    exact announced.taking
  · rw [started,workers,List.map_append,List.map_append,announced.started]
    rfl
  · intro index other found closed
    rw [workers,List.getElem?_append] at found
    split at found
    · rw [opened other (List.mem_of_getElem? found)] at closed
      cases closed
    · have last := (List.getElem?_eq_some_iff.mp found).1
      have same := List.mem_of_getElem? found
      rw [List.mem_singleton] at same
      subst same
      simp only [List.length_singleton] at last
      have here : index = history.started.length := by omega
      refine ⟨gated,request.id,_,mode,?_,immediate,response,rfl⟩
      rw [started,here]
      simp
  · intro index other found open_
    rw [workers,List.getElem?_append] at found
    split at found
    · exact (announced.opened index other found open_).recorded
    · have same := List.mem_of_getElem? found
      rw [List.mem_singleton] at same
      rw [same,behind] at open_
      cases open_
  · intro index written
    cases written

theorem launch (announced : Announced (loop,history)) {request : JsonRpcRequest}
    {start : TaskStart C} (launching : loop.mode = .launching request start)
    (spawnError : Option String) :
    Announced (loop.launchTask request start spawnError,
      History.record loop (.launch spawnError) (loop.launchTask request start spawnError)
        history) := by
  have opened := announced.all_open (by simp [launching])
  unfold ServerLoop.launchTask TaskStart.launch
  cases immediate : start.call.entry.tool.modelImmediateResponse with
  | error message => exact announced.silent (.inl opened) rfl rfl rfl announced.taking
  | ok text =>
    cases spawnError with
    | some reason =>
      exact announced.silent (.inl opened) rfl (List.append_nil _) rfl announced.taking
    | none => exact announced.spawn launching immediate ⟨rfl,rfl,rfl⟩ none rfl rfl rfl

theorem gate_open (announced : Announced (loop,history)) {index : Nat} {answer : Json}
    {worker moved : Worker C} {shared : Shared}
    (patient : loop.patient (.work index answer) = true)
    (there : loop.workers[index]? = some worker)
    (worked : worker.step loop.shared answer = some (shared,moved)) : worker.gateOpen = true := by
  by_contra closed
  obtain ⟨gated,_⟩ := announced.waiting index worker there (Bool.eq_false_iff.mpr closed)
  simp only [ServerLoop.patient,there,Option.all_some,Bool.or_eq_true,closed,false_or,
    decide_eq_true_eq] at patient
  simp only [Worker.step,gated,Bool.eq_false_iff.mpr closed,Bool.false_or,
    decide_eq_true_eq] at worked
  rw [if_neg (by omega)] at worked
  cases worked

/-- A worker that takes a step has been announced, since it is past its gate. -/
theorem work (announced : Announced (loop,history)) {index : Nat} {answer : Json}
    (patient : loop.patient (.work index answer) = true)
    (taken : loop.workStep index answer = some next) :
    Announced (next,History.record loop (.work index answer) next history) := by
  unfold ServerLoop.workStep at taken
  split at taken
  · cases taken
  · rename_i worker there
    obtain ⟨⟨shared,moved⟩,worked,same⟩ := Option.map_eq_some_iff.mp taken
    have steps := Worker.step_steps worked
    have open_ := announced.gate_open patient there worked
    have workers : next.workers = loop.workers.set index moved := by rw [← same]
    have mode : next.mode = loop.mode := by rw [← same]
    have shares : next.shared = shared := by rw [← same]
    obtain ⟨more,grown⟩ := steps.uses.written
    rw [← shares] at grown
    have lengths : next.workers.length = loop.workers.length := by rw [workers,List.length_set]
    have started := @History.record_started _ history loop next (.work index answer) lengths
    have bound := (List.getElem?_eq_some_iff.mp there).1
    have start : moved.start = worker.start := by rw [steps.moved]; rfl
    have gate : moved.gateOpen = worker.gateOpen := by rw [steps.moved]; rfl
    -- Every worker is one from before, on the same task and behind the same gate.
    have before : ∀ (position : Nat) (other : Worker C), next.workers[position]? = some other →
        ∃ old, loop.workers[position]? = some old ∧ other.start = old.start ∧
          other.gateOpen = old.gateOpen ∧ (old.gateOpen = false → other = old) := by
      intro position other found
      rw [workers] at found
      by_cases here : position = index
      · subst here
        rw [List.getElem?_set_self bound] at found
        cases found
        refine ⟨worker,there,start,gate,?_⟩
        rw [open_]
        simp
      · rw [List.getElem?_set_ne (Ne.symm here)] at found
        exact ⟨other,found,rfl,rfl,fun _ => rfl⟩
    refine ⟨?_,announced.written_record grown,?_,?_,?_,announced.ordered_record grown ?_⟩
    · rw [shares,steps.uses.writeFailure]
      exact announced.taking
    · rw [started,announced.started,workers,List.map_set,start]
      have kept : loop.workers.set index worker = loop.workers := by
        rw [← (List.getElem?_eq_some_iff.mp there).2,List.set_getElem_self]
      rw [← List.map_set,kept]
    · intro position other found closed
      obtain ⟨old,was,_,samegate,unmoved⟩ := before position other found
      rw [samegate] at closed
      rw [unmoved closed,started,mode]
      exact announced.waiting position old was closed
    · intro position other found now
      obtain ⟨old,was,_,samegate,_⟩ := before position other found
      rw [samegate] at now
      exact (announced.opened position old was now).recorded
    · intro written authored
      cases authored
      exact announced.opened index worker there open_

end Announced

theorem not_replying_of_step (own : label.own = true) (other : label ≠ .reply)
    (taken : loop.step label = some next) :
    ∀ id outcome, loop.mode ≠ .replying id outcome := by
  intro id outcome replying
  cases label with
  | read => simp [ServerLoop.step,ServerLoop.readStep,replying] at taken
  | replay => simp [ServerLoop.step,replying] at taken
  | look => simp [ServerLoop.step,ServerLoop.lookStep,replying] at taken
  | run => simp [ServerLoop.step,replying] at taken
  | reply => exact other rfl
  | launch | work | clock | wire => cases own

theorem announced_step (state : ServerLoop C × History C) (label : LoopLabel)
    (next : ServerLoop C × History C) (announced : Announced state)
    (patient : state.1.patient label = true)
    (taken : Runs.observed ServerLoop.step History.record state label = some next) :
    Announced next := by
  obtain ⟨loop,history⟩ := state
  obtain ⟨reached,recorded⟩ := next
  obtain ⟨stepped,same⟩ := Runs.observed_step taken
  simp only at stepped same
  subst same
  cases ServerLoop.step_taken stepped with
  | clock => exact announced.silent (.inr rfl) rfl rfl rfl announced.taking
  | wire =>
    exact announced.silent (.inr rfl) rfl rfl rfl (Option.isNone_iff_eq_none.mp patient)
  | work => exact announced.work patient stepped
  | launch launching => exact announced.launch launching _
  | reply replying => exact announced.reply replying _ rfl
  | readMain | readPump | readAsking | replay | pumpLook | blockedLook | askLook | run =>
    have opened := announced.all_open (not_replying_of_step rfl (by simp) stepped)
    exact announced.moves rfl opened (ServerLoop.step_moves rfl stepped)

theorem announced_start (server : Server C) (context : C) (store : TaskStore) (now : SystemTime)
    (instant : Nat) : Announced (ServerLoop.start server context store now instant,History.empty) where
  taking := rfl
  written := rfl
  started := rfl
  waiting index worker found := by cases found
  opened index worker found := by cases found
  ordered position index message found := by cases found

/-! ## Every run -/

/-- Whatever the client sends and however the workers interleave with the loop, the
message that announces a task is written before every message of its worker, as long as
writes succeed and no worker gives up on its gate. -/
theorem task_announced_first (server : Server C) (context : C) (store : TaskStore)
    (now : SystemTime) (instant : Nat) (labels : List LoopLabel) (loop : ServerLoop C)
    (history : History C)
    (run : Runs.execute (Runs.observed ServerLoop.step History.record)
      (ServerLoop.start server context store now instant,.empty) labels = some (loop,history))
    (patient : Runs.Guarded (Runs.observed ServerLoop.step History.record)
      (fun state label => state.1.patient label = true)
      (ServerLoop.start server context store now instant,.empty) labels) :
    history.log.map Prod.snd = loop.shared.written ∧
      history.started.map Prod.snd = loop.workers.map Worker.start ∧
      ∀ (position index : Nat) message, history.log[position]? = some (some index,message) →
        history.AnnouncedBefore position index := by
  have announced := Runs.guarded_invariant announced_step patient run
    (announced_start server context store now instant)
  exact ⟨announced.written,announced.started,announced.ordered⟩

/-- A task whose tool asks the client: its question comes second. -/
theorem untilAsked_announced_first :
    ∃ loop history, Runs.execute (Runs.observed ServerLoop.step History.record)
        (ServerLoop.start askingTaskServer () (.new .default) 0 0,.empty) untilAsked =
          some (loop,history) ∧
      history.log.map Prod.fst = [none,some 0] ∧ history.AnnouncedBefore 1 0 :=
  ⟨_,_,rfl,rfl,(task_announced_first askingTaskServer () (.new .default) 0 0 untilAsked _ _ rfl
    (by decide +kernel)).2.2 1 0 _ rfl⟩

end SmlMcps
