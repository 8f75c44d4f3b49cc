import SmlMcps.TaskCapacity
import SmlMcps.TaskOrphans

/-! How many workers one requestor can keep busy. The store counts records that are
still running, and a record leaves that count while its worker goes on: it is cancelled,
its lifetime elapses, or it is removed. -/
namespace SmlMcps

variable {C : Type}

/-- The worker is inside its tool. -/
def WorkerPhase.executing : WorkerPhase C → Bool
  | .running _ | .allocated .. | .registered .. | .asking .. => true
  | _ => false

/-- The tool has yet to start, or to come back. -/
def WorkerPhase.unfinished : WorkerPhase C → Bool
  | .gated | .building => true
  | phase => phase.executing

namespace Launch

def start : Launch C → TaskStart C
  | .opened _ start => start
  | .spawned worker => worker.start
  | .failed start => start
  | .unwound start _ => start

def taskId (launch : Launch C) : String := launch.start.task.taskId

def executing (owner : Requestor) : Launch C → Bool
  | .spawned worker => worker.start.owner == owner && worker.phase.executing
  | _ => false

def busy (owner : Requestor) : Launch C → Bool
  | .opened _ start => start.owner == owner
  | .spawned worker => worker.start.owner == owner && worker.phase.unfinished
  | _ => false

theorem busy_of_executing {owner : Requestor} {launch : Launch C}
    (executing : launch.executing owner = true) : launch.busy owner = true := by
  cases launch with
  | spawned worker =>
    simp only [Launch.executing,Bool.and_eq_true] at executing
    obtain ⟨mine,inside⟩ := executing
    simp only [busy,mine,Bool.true_and]
    cases held : worker.phase <;> simp_all [WorkerPhase.executing,WorkerPhase.unfinished]
  | opened | failed | unwound => cases executing

end Launch

/-- The record under an identifier is one the store counts against the owner. -/
def TaskStore.counts (store : TaskStore) (owner : Requestor) (taskId : String) : Bool :=
  (store.record? taskId).any (counted owner taskId)

namespace TaskWorld

/-- The owner's worker threads inside their tool. -/
def executing (world : TaskWorld C) (owner : Requestor) : Nat :=
  world.launches.countP (Launch.executing owner)

def busy (world : TaskWorld C) (owner : Requestor) : Nat :=
  world.launches.countP (Launch.busy owner)

/-- The owner's busy launches that `store` no longer counts. -/
def missed (world : TaskWorld C) (store : TaskStore) (owner : Requestor) : Nat :=
  world.launches.countP fun launch => launch.busy owner && !store.counts owner launch.taskId

/-- A step under an identifier no launch has. -/
def freshStep (world : TaskWorld C) (label : TaskLabel C) : Option (TaskWorld C) :=
  match label with
  | .call _ _ freshId _ _ =>
    if freshId ∈ world.launches.map Launch.taskId then none else world.step label
  | _ => world.step label

/-- A creation that goes through would go through if the workers were counted. -/
def sparesWorkers (world : TaskWorld C) : TaskLabel C → Bool
  | .call server now _ _ _ =>
    let swept := world.store.sweep now
    let owner := server.taskContext.ownerKey
    !(server.tasks.isSome && swept.admits owner) ||
      swept.running owner + world.missed swept owner < swept.config.maxConcurrent
  | _ => true

structure Bounded (limits : TaskConfig) (world : TaskWorld C) : Prop where
  config : world.store.config = limits
  distinct : (world.launches.map Launch.taskId).Nodup
  busy : ∀ owner, world.busy owner ≤ limits.maxConcurrent

theorem executing_le_busy (world : TaskWorld C) (owner : Requestor) :
    world.executing owner ≤ world.busy owner := by
  apply List.countP_mono_left
  intro launch _ executing
  exact Launch.busy_of_executing executing

/-- The busy launches are those the store counts and those it misses, and the store's
own count is no less than the first. -/
theorem busy_le {world : TaskWorld C} (distinct : (world.launches.map Launch.taskId).Nodup)
    (store : TaskStore) (owner : Requestor) :
    world.busy owner ≤ store.running owner + world.missed store owner := by
  have parts : world.busy owner = world.launches.countP (fun launch =>
      launch.busy owner && store.counts owner launch.taskId) + world.missed store owner := by
    unfold TaskWorld.busy missed
    induction world.launches with
    | nil => rfl
    | cons launch rest ih =>
      simp only [List.countP_cons,ih]
      cases launch.busy owner <;> cases store.counts owner launch.taskId <;> simp <;> omega
  have counted : world.launches.countP (fun launch =>
      launch.busy owner && store.counts owner launch.taskId) ≤ store.running owner := by
    rw [TaskStore.running_eq_count,List.countP_eq_length_filter,← List.length_map Launch.taskId]
    apply KeyedTable.length_le_count
    · exact distinct.sublist (List.filter_sublist.map _)
    · intro taskId member
      obtain ⟨launch,kept,rfl⟩ := List.mem_map.mp member
      have both := (List.mem_filter.mp kept).2
      simp only [Bool.and_eq_true,TaskStore.counts,Option.any_eq_true] at both
      exact both.2
  omega

/-! ## One step -/

/-- A launch moved on: the same task, and not busy if it was not before. -/
structure Succeeds (old new : Launch C) : Prop where
  start : new.start = old.start
  busy : ∀ owner, new.busy owner = true → old.busy owner = true

theorem bounded_set {limits : TaskConfig} {world : TaskWorld C} (bounded : world.Bounded limits)
    {index : Nat} {old new : Launch C} (there : world.launches[index]? = some old)
    (succeeds : Succeeds old new) {store : TaskStore} (config : store.config = world.store.config) :
    Bounded limits ⟨store,world.launches.set index new⟩ where
  config := config.trans bounded.config
  distinct := by
    obtain ⟨bound,same⟩ := List.getElem?_eq_some_iff.mp there
    have unchanged : (world.launches.set index new).map Launch.taskId =
        world.launches.map Launch.taskId := by
      rw [List.map_set]
      have task : new.taskId = old.taskId := by
        simp only [Launch.taskId,succeeds.start]
      rw [task,← List.map_set,← same,List.set_getElem_self]
    rw [unchanged]
    exact bounded.distinct
  busy owner := by
    obtain ⟨bound,same⟩ := List.getElem?_eq_some_iff.mp there
    refine Nat.le_trans ?_ (bounded.busy owner)
    unfold TaskWorld.busy
    simp only [List.countP_set bound,same]
    have counts : (if old.busy owner = true then 1 else 0) ≤
        world.launches.countP (Launch.busy owner) := by
      have := @List.boole_getElem_le_countP _ (Launch.busy owner) _ _ bound
      rwa [same] at this
    have fewer := succeeds.busy owner
    by_cases still : new.busy owner = true
    · simp only [still,fewer still,if_true] at counts ⊢
      omega
    · rw [if_neg still]
      omega

end TaskWorld

theorem Worker.step_unfinished {worker next : Worker C} {shared after : Shared} {answer : Json}
    (taken : worker.step shared answer = some (after,next))
    (unfinished : next.phase.unfinished = true) : worker.phase.unfinished = true := by
  cases step_taken taken with
  | finishing | announcing => cases unfinished
  | gated held | unwound held | built held | running held | allocated held | sent held
  | unsent held | asking held =>
    rw [held]
    rfl

theorem OneOperation.config {before after : TaskStore} (operation : OneOperation before after) :
    after.config = before.config := by
  rcases operation with rfl | ⟨op,_,rfl⟩
  · rfl
  · exact TaskStore.perform_config before op

namespace TaskWorld

/-- A creation that goes through was admitted, and opens one launch. -/
theorem startToolTask_admits {server : Server C} {store after : TaskStore} {now : SystemTime}
    {freshId : String} {call : ToolCall C} {params : TaskParams} {start : TaskStart C}
    (asked : server.startToolTask store now freshId call params = (after,.start start)) :
    server.tasks.isSome = true ∧
      (store.sweep now).admits server.taskContext.ownerKey = true ∧
      start.task.taskId = freshId ∧ start.owner = server.taskContext.ownerKey ∧
      after.config = store.config := by
  unfold Server.startToolTask at asked
  split at asked
  · cases asked
  · rename_i runtime enabled
    simp only at asked
    have spec := store.create_spec now freshId params.ttl server.taskContext.ownerKey
    have config := store.perform_config (.create now freshId params.ttl server.taskContext.ownerKey)
    simp only [TaskStore.perform] at config
    revert asked spec config
    generalize store.create now freshId params.ttl server.taskContext.ownerKey = result
    intro asked spec config
    cases spec with
    | crowded e limit => cases asked
    | full roomy e below room => cases asked
    | opened roomy below room =>
      cases asked
      refine ⟨by rw [enabled]; rfl,?_,rfl,rfl,config⟩
      have free : (store.sweep now).running server.taskContext.ownerKey <
        (store.sweep now).config.maxConcurrent := below
      simp [TaskStore.admits,free,room,Except.toBool]

theorem startToolTask_config (server : Server C) (store : TaskStore) (now : SystemTime)
    (freshId : String) (call : ToolCall C) (params : TaskParams) :
    (server.startToolTask store now freshId call params).1.config = store.config := by
  unfold Server.startToolTask
  split
  · rfl
  · have config := store.perform_config (.create now freshId params.ttl server.taskContext.ownerKey)
    simp only [TaskStore.perform] at config
    simp only
    split
    · rename_i created
      rw [created] at config
      exact config
    · rename_i created
      rw [created] at config
      exact config

theorem bounded_call {limits : TaskConfig} {world : TaskWorld C} (bounded : world.Bounded limits)
    {server : Server C} {now : SystemTime} {freshId : String} {call : ToolCall C}
    {params : TaskParams} (fresh : freshId ∉ world.launches.map Launch.taskId)
    (spares : world.sparesWorkers (.call server now freshId call params) = true) :
    (world.stepCall server now freshId call params).Bounded limits := by
  have config := startToolTask_config server world.store now freshId call params
  unfold stepCall
  split
  · rename_i after start asked
    rw [asked] at config
    obtain ⟨enabled,admitted,named,owned,_⟩ := startToolTask_admits asked
    simp only [sparesWorkers,enabled,admitted,Bool.and_self,Bool.not_true,Bool.false_or,
      decide_eq_true_eq] at spares
    refine ⟨config.trans bounded.config,?_,?_⟩
    · rw [List.map_append,List.nodup_append]
      refine ⟨bounded.distinct,by simp,?_⟩
      intro taskId old other new same
      have opened : other = freshId := (List.mem_singleton.mp new).trans named
      rw [← same.trans opened] at fresh
      exact fresh old
    · intro owner
      have before := bounded.busy owner
      simp only [TaskWorld.busy,List.countP_append,List.countP_singleton] at before ⊢
      by_cases mine : start.owner = owner
      · -- The new launch is the owner's: the store's count had room for those it misses.
        have room := busy_le bounded.distinct (world.store.sweep now) owner
        have limit : (world.store.sweep now).config = limits := bounded.config
        rw [owned] at mine
        rw [mine,limit] at spares
        simp only [TaskWorld.busy] at room
        split <;> omega
      · simp only [Launch.busy,mine,beq_iff_eq,if_false]
        exact before
  · rename_i after dispatch other asked
    rw [asked] at config
    exact ⟨config.trans bounded.config,bounded.distinct,bounded.busy⟩

theorem launch_succeeds {world : TaskWorld C} {index : Nat} {server : Server C}
    {start : TaskStart C} (around : Shared) (spawnError : Option String) :
    ∃ new store, world.stepLaunch index server start around spawnError =
        ⟨store,world.launches.set index new⟩ ∧
      Succeeds (.opened server start) new ∧ OneOperation world.store store := by
  unfold stepLaunch TaskStart.launch
  cases start.call.entry.tool.modelImmediateResponse with
  | error message =>
    refine ⟨_,_,rfl,⟨rfl,?_⟩,.inl rfl⟩
    intro owner busy
    cases busy
  | ok immediate =>
    cases spawnError with
    | none =>
      refine ⟨_,_,rfl,⟨rfl,?_⟩,.inl rfl⟩
      intro owner busy
      simp only [Launch.busy,Bool.and_eq_true] at busy
      exact busy.1
    | some reason =>
      refine ⟨_,_,rfl,⟨rfl,?_⟩,.inr ⟨.finish around.now start.task.taskId .failed _,rfl,rfl⟩⟩
      intro owner busy
      cases busy

theorem work_succeeds {worker next : Worker C} {shared after : Shared} {answer : Json}
    (taken : worker.step shared answer = some (after,next)) :
    Succeeds (.spawned worker) (.spawned next) := by
  have effect := Worker.step_effect taken
  refine ⟨effect.start,?_⟩
  intro owner busy
  simp only [Launch.busy,effect.start,Bool.and_eq_true] at busy ⊢
  exact ⟨busy.1,Worker.step_unfinished taken busy.2⟩

theorem freshStep_step {world next : TaskWorld C} {label : TaskLabel C}
    (taken : world.freshStep label = some next) : world.step label = some next := by
  unfold freshStep at taken
  split at taken
  · split at taken
    · cases taken
    · exact taken
  · exact taken

theorem bounded_step {limits : TaskConfig} (world : TaskWorld C) (label : TaskLabel C)
    (next : TaskWorld C) (bounded : world.Bounded limits)
    (spares : world.sparesWorkers label = true) (taken : world.freshStep label = some next) :
    next.Bounded limits := by
  have stepped := freshStep_step taken
  cases label with
  | call server now freshId call params =>
    simp only [freshStep] at taken
    split at taken
    · cases taken
    · rename_i fresh
      cases stepped
      exact bounded_call bounded fresh spares
  | launch index around spawnError =>
    simp only [TaskWorld.step] at stepped
    split at stepped
    · rename_i server start there
      obtain ⟨new,store,same,succeeds,operation⟩ :=
        @launch_succeeds _ world index server start around spawnError
      rw [Option.some.injEq,same] at stepped
      subst stepped
      exact bounded_set bounded there succeeds operation.config
    · cases stepped
  | openGate index =>
    simp only [TaskWorld.step] at stepped
    split at stepped
    · rename_i worker there
      cases stepped
      have opened : Succeeds (.spawned worker) (.spawned { worker with gateOpen := true }) :=
        ⟨rfl,fun _ busy => busy⟩
      exact bounded_set bounded there opened rfl
    · cases stepped
  | work index around answer =>
    simp only [TaskWorld.step] at stepped
    split at stepped
    · rename_i worker there
      obtain ⟨⟨after,moved⟩,ran,rfl⟩ := Option.map_eq_some_iff.mp stepped
      exact bounded_set bounded there (work_succeeds ran) (Worker.step_effect ran).operation.config
    · cases stepped
  | other op =>
    simp only [TaskWorld.step] at stepped
    split at stepped
    · cases stepped
      exact ⟨(TaskStore.perform_config world.store op).trans bounded.config,bounded.distinct,
        bounded.busy⟩
    · cases stepped

end TaskWorld

/-! ## Every run -/

/-- In a run whose creations leave room for the workers the store has lost sight of, a
requestor never has more workers inside their tools than the limit. -/
theorem workers_bounded (limits : TaskConfig) (labels : List (TaskLabel C)) (world : TaskWorld C)
    (run : Runs.execute TaskWorld.freshStep (.empty limits) labels = some world)
    (spared : Runs.Guarded TaskWorld.freshStep
      (fun world label => world.sparesWorkers label = true) (.empty limits) labels)
    (owner : Requestor) : world.executing owner ≤ limits.maxConcurrent := by
  have bounded := Runs.guarded_invariant TaskWorld.bounded_step spared run
    ⟨rfl,List.nodup_nil,fun _ => Nat.zero_le _⟩
  exact Nat.le_trans (world.executing_le_busy owner) (bounded.busy owner)

/-- One worker at a time, and lifetimes as the client asks. -/
def oneAtATime : TaskConfig := ⟨300000,3600000,1000,1,1024⟩

/-- A task from its request into its tool. -/
def intoTool (index : Nat) (taskId : String) (ttl : Option Nat) : List (TaskLabel Unit) :=
  [.call taskServer 0 taskId (jobCall (.ok greeting)) ⟨ttl⟩,.launch index quiet none,
    .openGate index,.work index quiet .null,.work index quiet .null]

/-- A second task, after the first has come back. -/
theorem oneAfterAnother_bounded :
    ∃ world, Runs.execute TaskWorld.freshStep (.empty oneAtATime) (intoTool 0 "first" none ++
        [.work 0 quiet .null,.work 0 quiet .null] ++ intoTool 1 "second" none) = some world ∧
      world.executing none ≤ 1 :=
  ⟨_,rfl,workers_bounded oneAtATime (intoTool 0 "first" none ++
    [.work 0 quiet .null,.work 0 quiet .null] ++ intoTool 1 "second" none) _ rfl
    (by decide +kernel) none⟩

/-- A task that asks for no lifetime is forgotten while its worker goes on. -/
theorem expiredTask_unbounded :
    ∃ world, Runs.execute TaskWorld.freshStep (.empty oneAtATime)
        (intoTool 0 "first" (some 0) ++ intoTool 1 "second" (some 0)) = some world ∧
      ¬world.executing none ≤ oneAtATime.maxConcurrent :=
  ⟨_,rfl,by decide +kernel⟩

end SmlMcps
