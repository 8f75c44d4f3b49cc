import SmlMcps.Library.Runs
import SmlMcps.TaskEquivalence

/-! Tasks and the threads behind them. Any number of requests start tasks on one store,
and their launches and workers interleave with each other and with every other use of
the store. A running record has a launch or a worker to its name, in the runs where
neither the context factory nor the immediate response panics: those two run between
the creation of the record and its outcome, outside the panic guard. -/
namespace SmlMcps

variable {C : Type}

/-- The life of one `start_tool_task` after its record was created. -/
inductive Launch (C : Type) where
  | opened (server : Server C) (start : TaskStart C)
  | spawned (worker : Worker C)
  | failed (start : TaskStart C)
  | unwound (start : TaskStart C) (message : String)

structure TaskWorld (C : Type) where
  store : TaskStore
  launches : List (Launch C)

/-- `around` is everything else a thread sees in a step, which others may change at
will: the broker, the wire and the clocks. Its store is the world's. -/
inductive TaskLabel (C : Type) where
  | call (server : Server C) (now : SystemTime) (freshId : String) (call : ToolCall C)
      (params : TaskParams)
  | launch (index : Nat) (around : Shared) (spawnError : Option String)
  | openGate (index : Nat)
  | work (index : Nat) (around : Shared) (answer : Json)
  | other (op : StoreOp)

namespace TaskWorld

def stepCall (world : TaskWorld C) (server : Server C) (now : SystemTime) (freshId : String)
    (call : ToolCall C) (params : TaskParams) : TaskWorld C :=
  match server.startToolTask world.store now freshId call params with
  | (after,.start start) => ⟨after,world.launches ++ [.opened server start]⟩
  | (after,_) => ⟨after,world.launches⟩

def stepLaunch (world : TaskWorld C) (index : Nat) (server : Server C) (start : TaskStart C)
    (around : Shared) (spawnError : Option String) : TaskWorld C :=
  match start.launch server (around.setStore world.store) spawnError with
  | .error message => ⟨world.store,world.launches.set index (.unwound start message)⟩
  | .ok (after,some worker,_) => ⟨after.store,world.launches.set index (.spawned worker)⟩
  | .ok (after,none,_) => ⟨after.store,world.launches.set index (.failed start)⟩

def step (world : TaskWorld C) (label : TaskLabel C) : Option (TaskWorld C) :=
  match label with
  | .call server now freshId call params => some (world.stepCall server now freshId call params)
  | .launch index around spawnError =>
    match world.launches[index]? with
    | some (.opened server start) => some (world.stepLaunch index server start around spawnError)
    | _ => none
  | .openGate index =>
    match world.launches[index]? with
    | some (.spawned worker) => some { world with
        launches := world.launches.set index (.spawned { worker with gateOpen := true }) }
    | _ => none
  | .work index around answer =>
    match world.launches[index]? with
    | some (.spawned worker) =>
      (worker.step (around.setStore world.store) answer).map fun next =>
        ⟨next.1.store,world.launches.set index (.spawned next.2)⟩
    | _ => none
  | .other op => if op.creates = none then some { world with store := world.store.perform op }
    else none

def empty (config : TaskConfig) : TaskWorld C := ⟨.new config,[]⟩

end TaskWorld

/-! ## Who answers for a record -/

/-- The worker has not filed an outcome yet, and will. -/
def WorkerPhase.Pending : WorkerPhase C → Prop
  | .announcing | .ended | .unwound _ => False
  | _ => True

/-- The thread still exists. -/
def WorkerPhase.Alive : WorkerPhase C → Prop
  | .ended | .unwound _ => False
  | _ => True

def Launch.Pending (launch : Launch C) (taskId : String) : Prop :=
  match launch with
  | .opened _ start => start.task.taskId = taskId
  | .spawned worker => worker.taskId = taskId ∧ worker.phase.Pending
  | _ => False

/-- A launch in progress, or a worker whose thread has not ended, has the task. -/
def Launch.Alive (launch : Launch C) (taskId : String) : Prop :=
  match launch with
  | .opened _ start => start.task.taskId = taskId
  | .spawned worker => worker.taskId = taskId ∧ worker.phase.Alive
  | _ => False

theorem Launch.Pending.alive {launch : Launch C} {taskId : String}
    (pending : launch.Pending taskId) : launch.Alive taskId := by
  cases launch with
  | spawned worker =>
    obtain ⟨same,phase⟩ := pending
    refine ⟨same,?_⟩
    cases held : worker.phase <;> simp_all [WorkerPhase.Pending,WorkerPhase.Alive]
  | opened => exact pending
  | failed => exact pending
  | unwound => exact pending

/-- A record that is finished with an outcome, or that somebody is alive for. -/
def TaskWorld.NoOrphan (world : TaskWorld C) : Prop :=
  ∀ taskId record, world.store.record? taskId = some record →
    (record.task.status.isTerminal = true ∧ record.outcome.isSome = true) ∨
    ∃ launch ∈ world.launches, launch.Alive taskId

/-- The two pieces of user code outside the guard, the immediate response in the launch
and the context factory in a worker past its gate, do not panic under a running record. -/
def callbacksReturn (world : TaskWorld C) (label : TaskLabel C) : Bool :=
  match label with
  | .launch index _ _ =>
    match world.launches[index]? with
    | some (.opened _ start) => start.call.entry.tool.modelImmediateResponse.toBool ||
        !world.store.isRunning start.task.taskId
    | _ => true
  | .work index _ _ =>
    match world.launches[index]? with
    | some (.spawned worker) =>
      match worker.phase with
      | .building => worker.start.factory.toBool || !world.store.isRunning worker.taskId
      | _ => true
    | _ => true
  | _ => true

theorem terminal_of_not_running {store : TaskStore} {taskId : String}
    (stopped : store.isRunning taskId = false) {record : TaskRecord}
    (found : store.record? taskId = some record) : record.task.status.isTerminal = true := by
  simpa [TaskStore.isRunning,found] using stopped

/-! ## One step of a worker -/

theorem Shared.write_fst_store {shared after : Shared} {message : JsonRpcMessage}
    {sent : Except McpError Unit} (wrote : shared.write message = (after,sent)) :
    after.store = shared.store := by
  have same : after = (shared.write message).1 := by rw [wrote]
  rw [same,Shared.write_store]

/-- The store after a step of a worker: untouched, or one operation further that
creates nothing. -/
def OneOperation (before after : TaskStore) : Prop :=
  after = before ∨ ∃ op : StoreOp, op.creates = none ∧ after = before.perform op

theorem OneOperation.evolves {before after : TaskStore} (operation : OneOperation before after)
    {taskId : String} {record : TaskRecord} (found : after.record? taskId = some record) :
    ∃ old, before.record? taskId = some old ∧ Evolves old record := by
  rcases operation with rfl | ⟨op,creates,rfl⟩
  · exact ⟨record,found,.refl record⟩
  · rcases TaskStore.perform_evolves found with old | ⟨created,_⟩
    · exact old
    · rw [creates] at created
      cases created

/-- What one step of a worker may do: it stays pending unless it files its outcome or
its context factory panics, and an outcome it is about to file is a terminal one. -/
structure WorkerEffect (worker : Worker C) (shared after : Shared) (next : Worker C) : Prop where
  start : next.start = worker.start
  operation : OneOperation shared.store after.store
  pending : worker.phase.Pending → next.phase.Pending ∨
    (∃ status outcome, worker.phase = .finishing status outcome ∧
      after.store = shared.store.finish shared.now worker.taskId status outcome) ∨
    (worker.phase = .building ∧ worker.start.factory.toBool = false ∧ after.store = shared.store)
  closing : ∀ status outcome, next.phase = .finishing status outcome → status.isTerminal = true

namespace Worker

theorem setTaskStatus_operation (worker : Worker C) (shared : Shared) (status : TaskStatus) :
    OneOperation shared.store (worker.setTaskStatus shared status).store :=
  .inr ⟨.setStatus shared.now worker.taskId status,rfl,rfl⟩

theorem settle_effect (worker : Worker C) (shared : Shared) (question : Question)
    (next : Except McpError Json → ToolProg C) (outcome : Except McpError Json) :
    WorkerEffect worker shared (worker.settle shared question next outcome).1
      (worker.settle shared question next outcome).2 where
  start := rfl
  operation := by
    simp only [settle,Shared.afterWait_store]
    exact worker.setTaskStatus_operation shared .working
  pending _ := .inl trivial
  closing _ _ held := by cases held

/-- A step that only moves the worker to a pending phase other than the last. -/
theorem goto_effect (worker : Worker C) (shared after : Shared) (phase : WorkerPhase C)
    (same : after.store = shared.store) (pending : phase.Pending)
    (closing : ∀ status outcome, phase = .finishing status outcome → status.isTerminal = true) :
    WorkerEffect worker shared after (worker.goto phase) where
  start := rfl
  operation := .inl same
  pending _ := .inl pending
  closing := closing

theorem await_effect (worker : Worker C) (shared : Shared) (question : Question) (channel : Nat)
    (receiving : Bool) (next : Except McpError Json → ToolProg C) :
    WorkerEffect worker shared (worker.await shared question channel receiving next).1
      (worker.await shared question channel receiving next).2 := by
  have waiting (looking : Bool) : WorkerEffect worker shared shared
      (worker.goto (.asking question channel looking next)) :=
    worker.goto_effect shared shared _ rfl trivial fun _ _ held => by cases held
  unfold await
  split
  · split
    · exact worker.settle_effect shared question next _
    · split
      · exact worker.settle_effect shared question next _
      · exact waiting true
  · split
    · exact worker.settle_effect shared question next _
    · exact worker.settle_effect shared question next _
    · exact waiting false

theorem finishing_effect (worker : Worker C) (shared : Shared) (executed : Executed) :
    WorkerEffect worker shared shared
      (worker.goto (.finishing (worker.start.call.workerOutcome executed).1
        (worker.start.call.workerOutcome executed).2)) := by
  refine worker.goto_effect shared shared _ rfl trivial ?_
  intro status outcome held
  cases held
  exact workerOutcome_terminal worker.start.call executed

theorem runTool_effect {worker next : Worker C} {shared after : Shared} {answer : Json}
    {prog : ToolProg C} (taken : worker.runTool shared answer prog = some (after,next)) :
    WorkerEffect worker shared after next := by
  cases prog with
  | returned context result =>
    cases taken
    exact worker.finishing_effect shared (.returned result)
  | panicked context message =>
    cases taken
    exact worker.finishing_effect shared (.panicked message)
  | notify method params continue_ =>
    cases taken
    exact worker.goto_effect shared _ _ (Shared.write_store _ _) trivial
      fun _ _ held => by cases held
  | request method params timeout continue_ =>
    rcases runTool_request taken with ⟨broker,id,-,-,rfl,rfl⟩ | ⟨-,rfl,rfl⟩
    · exact worker.goto_effect shared _ _ rfl trivial fun _ _ held => by cases held
    · exact worker.goto_effect after after _ rfl trivial fun _ _ held => by cases held
  | checkCancelled continue_ =>
    cases taken
    exact worker.goto_effect shared shared _ rfl trivial fun _ _ held => by cases held
  | observe continue_ =>
    cases taken
    exact worker.goto_effect shared shared _ rfl trivial fun _ _ held => by cases held

theorem announce_operation (worker : Worker C) (shared : Shared) :
    OneOperation shared.store (worker.announce shared).store := by
  refine .inr ⟨.get shared.now worker.taskId worker.start.owner,rfl,?_⟩
  unfold announce TaskStore.perform
  split
  · rename_i after task looked
    simp [looked]
  · rename_i after e looked
    simp [looked]

theorem step_effect {worker next : Worker C} {shared after : Shared} {answer : Json}
    (taken : worker.step shared answer = some (after,next)) :
    WorkerEffect worker shared after next := by
  cases step_taken taken with
  | gated | built =>
    exact worker.goto_effect shared shared _ rfl trivial fun _ _ held => by cases held
  | unwound building panics =>
    have failed : worker.start.factory.toBool = false := by rw [panics]; rfl
    exact ⟨rfl,.inl rfl,fun _ => .inr (.inr ⟨building,failed,rfl⟩),fun _ _ held => by cases held⟩
  | running _ ran => exact runTool_effect ran
  | allocated => exact worker.goto_effect shared _ _ rfl trivial fun _ _ held => by cases held
  | sent _ wrote =>
    refine ⟨rfl,?_,fun _ => .inl trivial,fun _ _ held => by cases held⟩
    rw [← Shared.write_fst_store wrote]
    exact worker.setTaskStatus_operation _ .inputRequired
  | unsent _ wrote =>
    exact worker.goto_effect shared _ _
      ((Shared.setBroker_store _ _).trans (Shared.write_fst_store wrote)) trivial
      fun _ _ held => by cases held
  | asking => exact worker.await_effect shared _ _ _ _
  | @finishing status outcome finishing =>
    exact ⟨rfl,.inr ⟨.finish shared.now worker.taskId status outcome,rfl,rfl⟩,
      fun _ => .inr (.inl ⟨status,outcome,finishing,rfl⟩),fun _ _ held => by cases held⟩
  | announcing announcing =>
    refine ⟨rfl,worker.announce_operation shared,fun pending => ?_,fun _ _ held => by cases held⟩
    rw [announcing] at pending
    exact pending.elim

end Worker

/-! ## The invariant -/

structure TaskWorld.Carried (world : TaskWorld C) : Prop where
  stored : ∀ taskId record, world.store.record? taskId = some record →
    record.task.status.isTerminal = true → record.outcome.isSome = true
  pending : ∀ taskId record, world.store.record? taskId = some record →
    record.task.status.isTerminal = false → ∃ launch ∈ world.launches, launch.Pending taskId
  closing : ∀ worker, .spawned worker ∈ world.launches →
    ∀ status outcome, worker.phase = .finishing status outcome → status.isTerminal = true

theorem TaskWorld.Carried.noOrphan {world : TaskWorld C} (carried : world.Carried) :
    world.NoOrphan := by
  intro taskId record found
  cases terminal : record.task.status.isTerminal with
  | true => exact .inl ⟨rfl,carried.stored taskId record found terminal⟩
  | false =>
    obtain ⟨launch,member,pending⟩ := carried.pending taskId record found terminal
    exact .inr ⟨launch,member,pending.alive⟩

theorem carried_empty (config : TaskConfig) : (TaskWorld.empty config : TaskWorld C).Carried where
  stored _ _ found := by cases found
  pending _ _ found := by cases found
  closing _ member := by cases member

/-- Records evolve, and whoever stops being pending leaves no running record behind. -/
theorem TaskWorld.Carried.evolve {world : TaskWorld C} {store : TaskStore}
    {launches : List (Launch C)} (carried : world.Carried)
    (evolves : ∀ taskId record, store.record? taskId = some record →
      ∃ old, world.store.record? taskId = some old ∧ Evolves old record)
    (handed : ∀ taskId, ∀ launch ∈ world.launches, launch.Pending taskId →
      (∃ heir ∈ launches, heir.Pending taskId) ∨
      ∀ record, store.record? taskId = some record → record.task.status.isTerminal = true)
    (closing : ∀ worker, .spawned worker ∈ launches →
      ∀ status outcome, worker.phase = .finishing status outcome → status.isTerminal = true) :
    TaskWorld.Carried ⟨store,launches⟩ where
  stored taskId record found terminal := by
    obtain ⟨old,before,evolved⟩ := evolves taskId record found
    cases finished : old.task.status.isTerminal with
    | true =>
      have same := evolved.finished finished
      subst same
      exact carried.stored taskId record before terminal
    | false => exact evolved.outcome finished terminal
  pending taskId record found running := by
    obtain ⟨old,before,evolved⟩ := evolves taskId record found
    have alive : old.task.status.isTerminal = false := by
      cases finished : old.task.status.isTerminal with
      | false => rfl
      | true =>
        rw [evolved.finished finished] at running
        rw [running] at finished
        cases finished
    obtain ⟨launch,member,holds⟩ := carried.pending taskId old before alive
    rcases handed taskId launch member holds with heir | ended
    · exact heir
    · rw [ended record found] at running
      cases running
  closing := closing

/-- Replacing one launch keeps the others; the replaced one hands over or has ended. -/
theorem pending_set {launches : List (Launch C)} {index : Nat} {old new : Launch C}
    {taskId : String} {ended : Prop} (there : launches[index]? = some old)
    (handed : old.Pending taskId → new.Pending taskId ∨ ended) {launch : Launch C}
    (member : launch ∈ launches) (pending : launch.Pending taskId) :
    (∃ heir ∈ launches.set index new, heir.Pending taskId) ∨ ended := by
  obtain ⟨position,found⟩ := List.mem_iff_getElem?.mp member
  by_cases here : position = index
  · subst here
    rw [there] at found
    cases found
    rcases handed pending with heir | gone
    · have bound : position < launches.length := (List.getElem?_eq_some_iff.mp there).1
      exact .inl ⟨new,List.mem_set bound new,heir⟩
    · exact .inr gone
  · refine .inl ⟨launch,?_,pending⟩
    rw [List.mem_iff_getElem?]
    exact ⟨position,by rw [List.getElem?_set_ne (Ne.symm here),found]⟩

theorem closing_set {launches : List (Launch C)} {index : Nat} {new : Launch C}
    (closing : ∀ worker, .spawned worker ∈ launches →
      ∀ status outcome, worker.phase = .finishing status outcome → status.isTerminal = true)
    (fresh : ∀ worker, new = .spawned worker →
      ∀ status outcome, worker.phase = .finishing status outcome → status.isTerminal = true) :
    ∀ worker, .spawned worker ∈ launches.set index new →
      ∀ status outcome, worker.phase = .finishing status outcome → status.isTerminal = true := by
  intro worker member
  rcases List.mem_or_eq_of_mem_set member with old | same
  · exact closing worker old
  · exact fresh worker same.symm

/-! ## One step of the world -/

/-- A record after a task was asked for is an old one, or that of the start handed back. -/
theorem record?_startToolTask {server : Server C} {store after : TaskStore} {now : SystemTime}
    {freshId taskId : String} {call : ToolCall C} {params : TaskParams} {dispatch : Dispatch C}
    {record : TaskRecord}
    (asked : server.startToolTask store now freshId call params = (after,dispatch))
    (found : after.record? taskId = some record) :
    store.record? taskId = some record ∨
      record.task.status.isTerminal = false ∧
        ∃ start, dispatch = .start start ∧ start.task.taskId = taskId := by
  unfold Server.startToolTask at asked
  split at asked
  · cases asked
    exact .inl found
  · simp only at asked
    split at asked
    · rename_i failed
      cases asked
      exact .inl (TaskStore.record?_create_error failed found)
    · rename_i created
      cases asked
      have sameId := (TaskStore.create_ok created).1
      have stored : (store.create now freshId params.ttl server.taskContext.ownerKey).1.record?
          taskId = some record := by
        rw [created]
        exact found
      rcases TaskStore.record?_create_some stored with old | ⟨same,rfl⟩
      · exact .inl old
      · exact .inr ⟨rfl,_,rfl,sameId.trans same.symm⟩

theorem carried_startToolTask {world : TaskWorld C} (carried : world.Carried)
    {server : Server C} {now : SystemTime} {freshId : String} {call : ToolCall C}
    {params : TaskParams} {after : TaskStore} {dispatch : Dispatch C}
    (asked : server.startToolTask world.store now freshId call params = (after,dispatch))
    {launches : List (Launch C)} (kept : ∀ launch ∈ world.launches, launch ∈ launches)
    (opened : ∀ start, dispatch = .start start → .opened server start ∈ launches)
    (workers : ∀ worker, .spawned worker ∈ launches → .spawned worker ∈ world.launches) :
    TaskWorld.Carried ⟨after,launches⟩ where
  stored taskId record found terminal := by
    rcases record?_startToolTask asked found with old | ⟨running,_⟩
    · exact carried.stored taskId record old terminal
    · rw [running] at terminal
      cases terminal
  pending taskId record found running := by
    rcases record?_startToolTask asked found with old | ⟨_,start,same,named⟩
    · obtain ⟨launch,member,pending⟩ := carried.pending taskId record old running
      exact ⟨launch,kept launch member,pending⟩
    · exact ⟨.opened server start,opened start same,named⟩
  closing worker member := carried.closing worker (workers worker member)

theorem carried_call {world : TaskWorld C} (carried : world.Carried) (server : Server C)
    (now : SystemTime) (freshId : String) (call : ToolCall C) (params : TaskParams) :
    (world.stepCall server now freshId call params).Carried := by
  unfold TaskWorld.stepCall
  split
  · rename_i after start asked
    refine carried_startToolTask carried asked ?_ ?_ ?_
    · intro launch member
      exact List.mem_append_left _ member
    · intro other same
      cases same
      exact List.mem_append_right _ (List.mem_singleton.mpr rfl)
    · intro worker member
      rcases List.mem_append.mp member with old | fresh
      · exact old
      · cases List.mem_singleton.mp fresh
  · rename_i after dispatch other asked
    refine carried_startToolTask carried asked (fun _ member => member) ?_ fun _ member => member
    intro start same
    exact absurd same (other start)

theorem terminal_of_finish {store : TaskStore} {now : SystemTime} {taskId : String}
    {status : TaskStatus} {outcome : TaskOutcome} (ended : status.isTerminal = true)
    {record : TaskRecord}
    (found : (store.finish now taskId status outcome).record? taskId = some record) :
    record.task.status.isTerminal = true := by
  have operation : OneOperation store (store.finish now taskId status outcome) :=
    .inr ⟨.finish now taskId status outcome,rfl,rfl⟩
  obtain ⟨old,known,evolved⟩ := operation.evolves found
  cases finished : old.task.status.isTerminal with
  | true =>
    rw [evolved.finished finished]
    exact finished
  | false =>
    rw [TaskStore.finish_running now status outcome known finished] at found
    cases found
    exact ended

theorem carried_launch {world : TaskWorld C} (carried : world.Carried) {index : Nat}
    {server : Server C} {start : TaskStart C}
    (there : world.launches[index]? = some (.opened server start))
    (returns : start.call.entry.tool.modelImmediateResponse.toBool = true ∨
      world.store.isRunning start.task.taskId = false)
    (around : Shared) (spawnError : Option String) :
    (world.stepLaunch index server start around spawnError).Carried := by
  unfold TaskWorld.stepLaunch TaskStart.launch
  cases immediate : start.call.entry.tool.modelImmediateResponse with
  | error message =>
    have stopped : world.store.isRunning start.task.taskId = false := by
      rcases returns with fine | stopped
      · rw [immediate] at fine
        cases fine
      · exact stopped
    refine carried.evolve (fun _ record found => ⟨record,found,.refl record⟩) ?_ ?_
    · intro taskId launch member pending
      refine pending_set there (fun same => .inr ?_) member pending
      subst same
      intro record found
      exact terminal_of_not_running stopped found
    · refine closing_set carried.closing ?_
      intro worker same
      cases same
  | ok text =>
    cases spawnError with
    | none =>
      refine carried.evolve (fun _ record found => ⟨record,found,.refl record⟩) ?_ ?_
      · intro taskId launch member pending
        exact pending_set there (fun same => .inl ⟨same,trivial⟩) member pending
      · refine closing_set carried.closing ?_
        intro worker same status outcome held
        cases same
        cases held
    | some reason =>
      have operation : OneOperation world.store (world.store.finish around.now start.task.taskId
          .failed (.error (.internalError ("failed to spawn task worker: " ++ reason)))) :=
        .inr ⟨.finish around.now start.task.taskId .failed
          (.error (.internalError ("failed to spawn task worker: " ++ reason))),rfl,rfl⟩
      refine carried.evolve (fun _ _ found => operation.evolves found) ?_ ?_
      · intro taskId launch member pending
        refine pending_set there (fun same => .inr ?_) member pending
        subst same
        intro record found
        exact terminal_of_finish rfl found
      · refine closing_set carried.closing ?_
        intro worker same
        cases same

theorem carried_work {world : TaskWorld C} (carried : world.Carried) {index : Nat}
    {worker next : Worker C} (there : world.launches[index]? = some (.spawned worker))
    {around after : Shared} {answer : Json}
    (taken : worker.step (around.setStore world.store) answer = some (after,next))
    (returns : worker.phase = .building →
      worker.start.factory.toBool = true ∨ world.store.isRunning worker.taskId = false) :
    TaskWorld.Carried ⟨after.store,world.launches.set index (.spawned next)⟩ := by
  have effect := Worker.step_effect taken
  have member : Launch.spawned worker ∈ world.launches := List.mem_iff_getElem?.mpr ⟨index,there⟩
  have sameTask : next.taskId = worker.taskId := by
    unfold Worker.taskId
    rw [effect.start]
  refine carried.evolve (fun _ _ found => effect.operation.evolves found) ?_ ?_
  · intro taskId launch held pending
    refine pending_set there ?_ held pending
    rintro ⟨same,waiting⟩
    rcases effect.pending waiting with still | ⟨status,outcome,finishing,filed⟩ |
      ⟨building,panics,kept⟩
    · exact .inl ⟨sameTask.trans same,still⟩
    · right
      intro record found
      subst same
      rw [filed] at found
      exact terminal_of_finish (carried.closing worker member status outcome finishing) found
    · rcases returns building with fine | stopped
      · rw [fine] at panics
        cases panics
      · right
        intro record found
        subst same
        rw [kept] at found
        exact terminal_of_not_running stopped found
  · refine closing_set carried.closing ?_
    intro other same
    cases same
    exact effect.closing

/-- Opening a gate changes nothing that is tracked. -/
theorem carried_openGate {world : TaskWorld C} (carried : world.Carried) {index : Nat}
    {worker : Worker C} (there : world.launches[index]? = some (.spawned worker)) :
    TaskWorld.Carried ⟨world.store,
      world.launches.set index (.spawned { worker with gateOpen := true })⟩ := by
  have member : Launch.spawned worker ∈ world.launches := List.mem_iff_getElem?.mpr ⟨index,there⟩
  refine carried.evolve (fun _ record found => ⟨record,found,.refl record⟩) ?_ ?_
  · intro taskId launch held pending
    exact pending_set there (fun same => .inl same) held pending
  · refine closing_set carried.closing ?_
    intro other same
    cases same
    exact carried.closing worker member

theorem carried_step (world : TaskWorld C) (label : TaskLabel C) (next : TaskWorld C)
    (carried : world.Carried) (returns : callbacksReturn world label = true)
    (taken : world.step label = some next) : next.Carried := by
  cases label with
  | call server now freshId call params =>
    cases taken
    exact carried_call carried server now freshId call params
  | launch index around spawnError =>
    simp only [TaskWorld.step] at taken
    split at taken
    · rename_i server start there
      simp only [callbacksReturn,there,Bool.or_eq_true,Bool.not_eq_true'] at returns
      cases taken
      exact carried_launch carried there returns around spawnError
    · cases taken
  | openGate index =>
    simp only [TaskWorld.step] at taken
    split at taken
    · rename_i worker there
      cases taken
      exact carried_openGate carried there
    · cases taken
  | work index around answer =>
    simp only [TaskWorld.step] at taken
    split at taken
    · rename_i worker there
      obtain ⟨⟨after,moved⟩,stepped,rfl⟩ := Option.map_eq_some_iff.mp taken
      refine carried_work carried there stepped ?_
      intro building
      simpa [callbacksReturn,there,building] using returns
    · cases taken
  | other op =>
    simp only [TaskWorld.step] at taken
    split at taken
    · rename_i creates
      cases taken
      refine carried.evolve ?_ (fun _ launch member pending => .inl ⟨launch,member,pending⟩)
        carried.closing
      intro taskId record found
      exact OneOperation.evolves (.inr ⟨op,creates,rfl⟩) found
    · cases taken

/-! ## Every run -/

/-- In a run where neither panics under a running record, every record in the store is finished with an
outcome or has somebody alive for it: no tool, spawn failure, cancellation or expiry
leaves a task that nobody is running. -/
theorem no_task_orphaned (config : TaskConfig) (labels : List (TaskLabel C))
    (world : TaskWorld C)
    (run : Runs.execute TaskWorld.step (.empty config) labels = some world)
    (guarded : Runs.Guarded TaskWorld.step (fun world label => callbacksReturn world label = true)
      (.empty config) labels) : world.NoOrphan :=
  (Runs.guarded_invariant carried_step guarded run (carried_empty config)).noOrphan

/-! ### One task -/

/-- Whatever surrounds a step: an empty broker and a wire that takes everything. -/
def quiet : Shared := ⟨.new .default,.new,[],none,0,0⟩

/-- A task from its request to the end of its worker, in eight steps. -/
def wholeTask (server : Server Unit) : List (TaskLabel Unit) :=
  [.call server 0 "task" (jobCall (.ok greeting)) ⟨none⟩,.launch 0 quiet none,.openGate 0,
    .work 0 quiet .null,.work 0 quiet .null,.work 0 quiet .null,.work 0 quiet .null,
    .work 0 quiet .null]

theorem wholeTask_not_orphaned :
    ∃ world, Runs.execute TaskWorld.step (.empty .default) (wholeTask taskServer) = some world ∧
      world.NoOrphan :=
  ⟨_,rfl,no_task_orphaned .default (wholeTask taskServer) _ rfl (by decide +kernel)⟩

def panickingServer : Server Unit :=
  { taskServer with tasks := some ⟨0,.default,.error "no database"⟩ }

/-- The worker unwinds in its second step and leaves a working record behind. -/
theorem panickingFactory_orphans :
    ∃ world, Runs.execute TaskWorld.step (.empty .default)
      ((wholeTask panickingServer).take 5) = some world ∧ ¬world.NoOrphan := by
  refine ⟨_,rfl,?_⟩
  intro fine
  rcases fine "task" _ rfl with ⟨terminal,_⟩ | ⟨launch,member,alive⟩
  · cases terminal
  · cases List.mem_singleton.mp member
    exact alive.2

end SmlMcps
