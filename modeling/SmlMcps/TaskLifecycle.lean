import SmlMcps.Library.Runs
import SmlMcps.TaskStoreLaws

/-! The life of a task record over whole runs of its store. Workers and clients take
the store's lock for each operation, so what they do together is one sequence of
operations, in any order and at any clock readings. A creation draws a random
identifier; identifiers are taken to be distinct. -/
namespace SmlMcps

/-- A store with the identifiers drawn so far. -/
structure StoreRun where
  store : TaskStore
  drawn : List String

namespace StoreRun

def empty (config : TaskConfig) : StoreRun := ⟨.new config,[]⟩

def step (run : StoreRun) (op : StoreOp) : Option StoreRun :=
  match op.creates with
  | none => some ⟨run.store.perform op,run.drawn⟩
  | some taskId =>
    if taskId ∈ run.drawn then none else some ⟨run.store.perform op,taskId :: run.drawn⟩

end StoreRun

/-- What an operation never changes of a record. -/
structure SameTask (before after : TaskRecord) : Prop where
  taskId : after.task.taskId = before.task.taskId
  createdAt : after.task.createdAt = before.task.createdAt
  ttl : after.task.ttl = before.task.ttl
  created : after.created = before.created
  cancelled : after.cancelled = before.cancelled
  owner : after.owner = before.owner

theorem SameTask.refl (record : TaskRecord) : SameTask record record := ⟨rfl,rfl,rfl,rfl,rfl,rfl⟩

theorem Origin.sameTask {store : TaskStore} {op : StoreOp} {taskId : String}
    {record : TaskRecord} (origin : Origin store op taskId record) :
    (∃ old, store.record? taskId = some old ∧ SameTask old record) ∨
      ∃ now requestedTtl owner, op = .create now taskId requestedTtl owner ∧
        record = store.freshRecord now taskId requestedTtl owner := by
  cases origin with
  | kept known => exact .inl ⟨record,known,.refl record⟩
  | created now requestedTtl owner asked => exact .inr ⟨now,requestedTtl,owner,asked,rfl⟩
  | moved before now status known => exact .inl ⟨before,known,rfl,rfl,rfl,rfl,rfl,rfl⟩
  | noted before now message known => exact .inl ⟨before,known,rfl,rfl,rfl,rfl,rfl,rfl⟩
  | finished before now status outcome known => exact .inl ⟨before,known,rfl,rfl,rfl,rfl,rfl,rfl⟩
  | cancelled before now known => exact .inl ⟨before,known,rfl,rfl,rfl,rfl,rfl,rfl⟩

namespace TaskStore

/-- What every operation leaves of a store besides its records. -/
structure Kept (before after : TaskStore) : Prop where
  config : after.config = before.config
  flags : before.flags.length ≤ after.flags.length

theorem kept_create (store : TaskStore) (now : SystemTime) (taskId : String)
    (requestedTtl : Option Nat) (owner : Option String) :
    Kept store (store.create now taskId requestedTtl owner).1 := by
  have spec := store.create_spec now taskId requestedTtl owner
  revert spec
  generalize store.create now taskId requestedTtl owner = result
  intro spec
  cases spec with
  | crowded => exact ⟨rfl,Nat.le_refl _⟩
  | full roomy e below room =>
    have same : roomy = (store.sweep now).makeRoom.1 := by rw [room]
    rw [same]
    exact ⟨rfl,Nat.le_refl _⟩
  | opened roomy below room =>
    have same : roomy = (store.sweep now).makeRoom.1 := by rw [room]
    rw [same]
    refine ⟨rfl,?_⟩
    rw [List.length_append]
    exact Nat.le_add_right _ _

theorem perform_kept (store : TaskStore) (op : StoreOp) : Kept store (store.perform op) := by
  cases op with
  | create now taskId requestedTtl owner => exact kept_create store now taskId requestedTtl owner
  | get now taskId requestor => rw [perform,get_store]; exact ⟨rfl,Nat.le_refl _⟩
  | setStatus now taskId status =>
    simp only [perform,setStatus]
    split
    · exact ⟨rfl,Nat.le_refl _⟩
    · split
      · exact ⟨rfl,Nat.le_refl _⟩
      · split <;> exact ⟨rfl,Nat.le_refl _⟩
  | setStatusMessage now taskId message =>
    simp only [perform,setStatusMessage]
    split
    · exact ⟨rfl,Nat.le_refl _⟩
    · split <;> exact ⟨rfl,Nat.le_refl _⟩
  | finish now taskId status outcome =>
    simp only [perform,finish]
    split
    · exact ⟨rfl,Nat.le_refl _⟩
    · split <;> exact ⟨rfl,Nat.le_refl _⟩
  | cancel now taskId requestor =>
    simp only [perform,cancel]
    split
    · exact ⟨rfl,Nat.le_refl _⟩
    · split
      · exact ⟨rfl,Nat.le_refl _⟩
      · refine ⟨rfl,?_⟩
        rw [List.length_set]
        exact Nat.le_refl _
  | tryResult now taskId requestor => rw [perform,tryResult_store]; exact ⟨rfl,Nat.le_refl _⟩
  | awaitResult now taskId requestor expired =>
    rw [perform,awaitResultOnce_store]
    exact ⟨rfl,Nat.le_refl _⟩
  | list | isEmpty | running => exact ⟨rfl,Nat.le_refl _⟩

theorem perform_config (store : TaskStore) (op : StoreOp) :
    (store.perform op).config = store.config := (store.perform_kept op).config

end TaskStore

namespace StoreRun

/-- One step: the operation on the store, under an identifier not drawn before. -/
structure Stepped (run next : StoreRun) (op : StoreOp) : Prop where
  store : next.store = run.store.perform op
  fresh : ∀ taskId, op.creates = some taskId → taskId ∉ run.drawn
  kept : ∀ taskId ∈ run.drawn, taskId ∈ next.drawn
  drawn : ∀ taskId, op.creates = some taskId → taskId ∈ next.drawn

theorem stepped {run next : StoreRun} {op : StoreOp} (taken : run.step op = some next) :
    Stepped run next op := by
  unfold step at taken
  split at taken
  · rename_i none
    cases taken
    exact ⟨rfl,by simp [none],fun _ member => member,by simp [none]⟩
  · rename_i taskId asked
    split at taken
    · cases taken
    · rename_i new
      cases taken
      refine ⟨rfl,?_,fun _ member => List.mem_cons_of_mem _ member,?_⟩
      · intro other creates
        rw [asked] at creates
        cases creates
        exact new
      · intro other creates
        rw [asked] at creates
        cases creates
        exact List.mem_cons_self

/-- Every record is filed under its own identifier, which was drawn. -/
structure Filed (run : StoreRun) : Prop where
  drawn : ∀ taskId record, run.store.record? taskId = some record → taskId ∈ run.drawn
  keyed : ∀ taskId record, run.store.record? taskId = some record → record.task.taskId = taskId

theorem filed_empty (config : TaskConfig) : (empty config).Filed where
  drawn taskId record found := by cases found
  keyed taskId record found := by cases found

theorem filed_step (run : StoreRun) (op : StoreOp) (next : StoreRun) (filed : run.Filed)
    (taken : run.step op = some next) : next.Filed where
  drawn taskId record found := by
    have effect := stepped taken
    rw [effect.store] at found
    rcases (TaskStore.perform_origin found).sameTask with ⟨old,known,_⟩ | ⟨_,_,_,rfl,_⟩
    · exact effect.kept taskId (filed.drawn taskId old known)
    · exact effect.drawn taskId rfl
  keyed taskId record found := by
    rw [(stepped taken).store] at found
    rcases (TaskStore.perform_origin found).sameTask with ⟨old,known,same⟩ | ⟨_,_,_,_,rfl⟩
    · rw [same.taskId]
      exact filed.keyed taskId old known
    · rfl

theorem filed_of_run {config : TaskConfig} {ops : List StoreOp} {run : StoreRun}
    (reached : Runs.execute step (.empty config) ops = some run) : run.Filed :=
  Runs.invariant filed_step reached (filed_empty config)

/-- A creation files its record under an identifier nobody has. -/
theorem Filed.absent {run next : StoreRun} {op : StoreOp} (filed : run.Filed)
    (taken : run.step op = some next) {taskId : String} (creates : op.creates = some taskId) :
    run.store.record? taskId = none := by
  by_contra present
  obtain ⟨record,known⟩ := Option.ne_none_iff_exists'.mp present
  exact (stepped taken).fresh taskId creates (filed.drawn taskId record known)

/-- In a run a record that is there before and after a step was not created by it. -/
theorem Filed.continues {run next : StoreRun} {op : StoreOp} (filed : run.Filed)
    (taken : run.step op = some next) {taskId : String} {old record : TaskRecord}
    (known : run.store.record? taskId = some old)
    (found : next.store.record? taskId = some record) :
    op.creates ≠ some taskId ∧ Evolves old record ∧ SameTask old record := by
  have effect := stepped taken
  have fresh : op.creates ≠ some taskId := fun creates =>
    effect.fresh taskId creates (filed.drawn taskId old known)
  rw [effect.store] at found
  have origin := TaskStore.perform_origin found
  refine ⟨fresh,?_,?_⟩
  · rcases origin.evolves with ⟨before,there,evolves⟩ | ⟨created,_⟩
    · rw [known] at there
      cases there
      exact evolves
    · exact absurd created fresh
  · rcases origin.sameTask with ⟨before,there,same⟩ | ⟨_,_,_,rfl,_⟩
    · rw [known] at there
      cases there
      exact same
    · exact absurd rfl fresh

end StoreRun

/-! ## A finished task stays as it finished -/

/-- The outcome an operation files for a task. -/
def StoreOp.files (taskId : String) : StoreOp → Option TaskOutcome
  | .finish _ filed _ outcome => if filed = taskId then some outcome else none
  | .cancel _ filed _ =>
    if filed = taskId then some (.error (.new (-32603) "Task was cancelled")) else none
  | _ => none

/-- The operation that makes a record terminal files its outcome. -/
theorem Origin.files {store : TaskStore} {op : StoreOp} {taskId : String} {record : TaskRecord}
    (origin : Origin store op taskId record)
    (running : ∀ old, store.record? taskId = some old → old.task.status.isTerminal = false)
    (terminal : record.task.status.isTerminal = true) :
    ∃ outcome, op.files taskId = some outcome ∧ record.outcome = some outcome := by
  cases origin with
  | kept known =>
    rw [running record known] at terminal
    cases terminal
  | created now requestedTtl owner asked => cases terminal
  | moved before now status known asked stays legal =>
    have open_ : status.isTerminal = true := terminal
    rw [stays] at open_
    cases open_
  | noted before now message known asked still =>
    have closed : before.task.status.isTerminal = true := terminal
    rw [still] at closed
    cases closed
  | finished before now status outcome known asked still =>
    exact ⟨outcome,by simp [asked,StoreOp.files],rfl⟩
  | cancelled before now known asked still =>
    exact ⟨_,by simp [asked,StoreOp.files],rfl⟩

namespace StoreRun

/-- The task is over: nothing but its finished record can be found under its name. -/
structure Over (taskId : String) (ended : TaskRecord) (run : StoreRun) : Prop where
  drawn : taskId ∈ run.drawn
  same : ∀ record, run.store.record? taskId = some record → record = ended

theorem over_step {taskId : String} {ended : TaskRecord}
    (terminal : ended.task.status.isTerminal = true) (run : StoreRun) (op : StoreOp)
    (next : StoreRun) (over_ : Over taskId ended run) (taken : run.step op = some next) :
    Over taskId ended next where
  drawn := (stepped taken).kept taskId over_.drawn
  same record found := by
    rw [(stepped taken).store] at found
    rcases (TaskStore.perform_origin found).evolves with ⟨old,known,evolves⟩ | ⟨created,_⟩
    · have same := over_.same old known
      subst same
      exact evolves.finished terminal
    · exact absurd over_.drawn ((stepped taken).fresh taskId created)

end StoreRun

/-- One look of the blocking wait at a finished record gives its outcome, whatever
patience is left. -/
theorem TaskStore.awaitResultOnce_finished {store : TaskStore} {now : SystemTime}
    {taskId : String} {record : TaskRecord} {outcome : TaskOutcome}
    (known : (store.sweep now).record? taskId = some record)
    (terminal : record.task.status.isTerminal = true) (stored : record.outcome = some outcome)
    (expired : Bool) :
    (store.awaitResultOnce now taskId record.owner expired).2 = some (.ok outcome) := by
  have looked := tryResult_finished known terminal stored
  unfold awaitResultOnce
  split
  · rename_i answered
    rw [answered] at looked
    cases looked
  · rename_i answered
    rw [answered] at looked
    cases looked
    rfl
  · rename_i answered
    rw [answered] at looked
    cases looked

/-- Whatever happens in the store after a task became terminal, its record stays as it
was until it is removed, and its owner gets the outcome filed when it ended. -/
theorem finished_task_stays (config : TaskConfig) (earlier later : List StoreOp) (op : StoreOp)
    (before after final : StoreRun) (taskId : String) (ended : TaskRecord)
    (reached : Runs.execute StoreRun.step (.empty config) earlier = some before)
    (taken : before.step op = some after)
    (running : ∀ old, before.store.record? taskId = some old →
      old.task.status.isTerminal = false)
    (filed : after.store.record? taskId = some ended)
    (terminal : ended.task.status.isTerminal = true)
    (run : Runs.execute StoreRun.step after later = some final) :
    ∃ outcome, op.files taskId = some outcome ∧
      (∀ record, final.store.record? taskId = some record → record = ended) ∧
      ∀ now, ((final.store.sweep now).record? taskId).isSome = true →
        (final.store.tryResult now taskId ended.owner).2 = .ok (some outcome) ∧
        ∀ expired, (final.store.awaitResultOnce now taskId ended.owner expired).2 =
          some (.ok outcome) := by
  have known := filed
  rw [(StoreRun.stepped taken).store] at known
  obtain ⟨outcome,files,stored⟩ := (TaskStore.perform_origin known).files running terminal
  have starting := StoreRun.filed_step before op after (StoreRun.filed_of_run reached) taken
  have begun : StoreRun.Over taskId ended after := by
    refine ⟨starting.drawn taskId ended filed,?_⟩
    intro record found
    rw [filed] at found
    exact (Option.some.inj found).symm
  have over_ := Runs.invariant (StoreRun.over_step terminal) run begun
  refine ⟨outcome,files,over_.same,?_⟩
  intro now present
  obtain ⟨record,there⟩ := Option.isSome_iff_exists.mp present
  have same := over_.same record (TaskStore.record?_sweep_some there).1
  subst same
  exact ⟨TaskStore.tryResult_finished there terminal stored,
    TaskStore.awaitResultOnce_finished there terminal stored⟩

/-- A cancellation wins: the worker's completion and its notes come too late. -/
def cancelledEarly : List StoreOp :=
  [.finish 20 "task" .completed (.value (.str "done")),.setStatusMessage 30 "task" "halfway",
    .setStatus 30 "task" .inputRequired,.list 40 none]

theorem cancelledEarly_stays :
    ∃ final, Runs.execute StoreRun.step ⟨((TaskStore.new .default).create 0 "task" none none).1.perform
        (.cancel 10 "task" none),["task"]⟩ cancelledEarly = some final ∧
      (final.store.tryResult 50 "task" none).2 =
        .ok (some (.error (.new (-32603) "Task was cancelled"))) := by
  refine ⟨_,rfl,?_⟩
  obtain ⟨outcome,files,_,later⟩ := finished_task_stays .default [.create 0 "task" none none]
    cancelledEarly (.cancel 10 "task" none) _ _ _ "task" _ rfl rfl
    (fun old known => by cases known; rfl) rfl rfl rfl
  cases files
  exact (later 50 (by decide)).1

/-! ## Statuses and outcomes -/

theorem TaskStatus.canTransitionTo_of_ne {current next : TaskStatus}
    (running : current.isTerminal = false) (moved : current ≠ next) :
    current.canTransitionTo next = true := by
  cases current <;> cases next <;> simp_all [isTerminal,canTransitionTo]

/-- Between two stores every record that changed its status did so along the table. -/
def LegalMoves (before after : TaskStore) : Prop :=
  ∀ taskId old new, before.record? taskId = some old → after.record? taskId = some new →
    old.task.status ≠ new.task.status →
    old.task.status.canTransitionTo new.task.status = true

/-- A record has an outcome exactly when it is finished, so that a look at a task finds
its outcome as soon as there is one, and never misses one. -/
structure TaskStore.Settled (store : TaskStore) : Prop where
  outcome : ∀ taskId record, store.record? taskId = some record →
    (record.outcome.isSome = true ↔ record.task.status.isTerminal = true)
  looked : ∀ now taskId requestor record,
    (store.sweep now).visible taskId requestor = some record →
    (store.tryResult now taskId requestor).2 = .ok record.outcome

theorem TaskStore.settled_of_outcome {store : TaskStore}
    (outcome : ∀ taskId record, store.record? taskId = some record →
      (record.outcome.isSome = true ↔ record.task.status.isTerminal = true)) : store.Settled where
  outcome := outcome
  looked now taskId requestor record seen := by
    have known := (visible_some (visible_sweep_some.mp seen).1).1
    have agree := outcome taskId record known
    simp only [tryResult,seen,outcomeOf]
    cases held : record.outcome with
    | none =>
      have running : ¬record.task.status.isTerminal = true := by
        rw [← agree,held]
        simp
      rw [if_neg running]
    | some stored =>
      have terminal := agree.mp (by rw [held]; rfl)
      rw [if_pos terminal]

namespace StoreRun

/-- The operation does not finish a running task with a status that is not terminal. -/
def closes (run : StoreRun) : StoreOp → Bool
  | .finish _ taskId status _ => status.isTerminal || !run.store.isRunning taskId
  | _ => true

theorem legal_step {run next : StoreRun} {op : StoreOp} (filed : run.Filed)
    (taken : run.step op = some next) : LegalMoves run.store next.store := by
  intro taskId old new known found moved
  have fresh := (filed.continues taken known found).1
  rw [(stepped taken).store] at found
  cases TaskStore.perform_origin found with
  | kept there =>
    rw [known] at there
    cases there
    exact absurd rfl moved
  | created now requestedTtl owner asked =>
    rw [asked] at fresh
    exact absurd rfl fresh
  | moved before now status there asked stays legal =>
    rw [known] at there
    cases there
    exact legal
  | noted before now message there asked running =>
    rw [known] at there
    cases there
    exact absurd rfl moved
  | finished before now status outcome there asked running =>
    rw [known] at there
    cases there
    exact TaskStatus.canTransitionTo_of_ne running moved
  | cancelled before now there asked running =>
    rw [known] at there
    cases there
    exact TaskStatus.canTransitionTo_of_ne running moved

theorem settled_step {run next : StoreRun} {op : StoreOp} (settled : run.store.Settled)
    (closes : run.closes op = true) (taken : run.step op = some next) : next.store.Settled := by
  apply TaskStore.settled_of_outcome
  intro taskId record found
  rw [(stepped taken).store] at found
  cases TaskStore.perform_origin found with
  | kept known => exact settled.outcome taskId record known
  | created now requestedTtl owner asked => simp [TaskStore.freshRecord,TaskStatus.isTerminal]
  | moved before now status known asked stays legal =>
    have running := TaskStatus.not_terminal_of_canTransitionTo legal
    have agree := settled.outcome taskId before known
    rw [running] at agree
    simp only [stays]
    exact agree
  | noted before now message known asked running => exact settled.outcome taskId before known
  | finished before now status outcome known asked running =>
    have terminal : status.isTerminal = true := by
      simpa [StoreRun.closes,asked,TaskStore.isRunning,known,running] using closes
    simp [TaskStore.finishRecord,terminal]
  | cancelled before now known asked running =>
    simp [TaskStore.cancelledRecord,TaskStatus.isTerminal]

/-- A running task finished with a status that is not terminal is left running with an
outcome. -/
theorem unsettled_step {run : StoreRun} {op : StoreOp} (leaves : run.closes op = false) :
    ∃ next, run.step op = some next ∧ ¬next.store.Settled := by
  cases op with
  | finish now taskId status outcome =>
    simp only [StoreRun.closes,TaskStore.isRunning,Bool.or_eq_false_iff,Bool.not_eq_false',
      Option.any_eq_true] at leaves
    obtain ⟨stays,record,known,running⟩ := leaves
    have filed := TaskStore.finish_running now status outcome known (by simpa using running)
    refine ⟨_,rfl,?_⟩
    intro settled
    have terminal : status.isTerminal = true := (settled.outcome taskId _ filed).mp rfl
    rw [stays] at terminal
    cases terminal
  | create | get | list | setStatus | setStatusMessage | cancel | tryResult | awaitResult |
    isEmpty | running => cases leaves

/-- What a run has to keep: outcomes match statuses in every store it passes through,
and every step moves statuses along the table. -/
def KeepsStateMachine (run : StoreRun) (ops : List StoreOp) : Prop :=
  Runs.Throughout step (fun run => run.store.Settled) run ops ∧
    Runs.Guarded step (fun run op => ∀ next, run.step op = some next →
      LegalMoves run.store next.store) run ops

theorem legal_run {run : StoreRun} (filed : run.Filed) (ops : List StoreOp) :
    Runs.Guarded step (fun run op => ∀ next, run.step op = some next →
      LegalMoves run.store next.store) run ops := by
  induction ops generalizing run with
  | nil => trivial
  | cons op rest ih =>
    refine ⟨fun next taken => legal_step filed taken,?_⟩
    intro next taken
    exact ih (filed_step run op next filed taken)

theorem settled_run_iff {run : StoreRun} (settled : run.store.Settled) (ops : List StoreOp) :
    Runs.Throughout step (fun run => run.store.Settled) run ops ↔
      Runs.Guarded step (fun run op => run.closes op = true) run ops := by
  induction ops generalizing run with
  | nil => exact iff_of_true settled trivial
  | cons op rest ih =>
    constructor
    · rintro ⟨_,later⟩
      have closes : run.closes op = true := by
        by_contra leaves
        obtain ⟨next,taken,unsettled⟩ := unsettled_step (Bool.eq_false_iff.mpr leaves)
        exact unsettled (later next taken).start
      refine ⟨closes,?_⟩
      intro next taken
      exact (ih (settled_step settled closes taken)).mp (later next taken)
    · rintro ⟨closes,later⟩
      refine ⟨settled,?_⟩
      intro next taken
      exact (ih (settled_step settled closes taken)).mpr (later next taken)

end StoreRun

theorem TaskStore.settled_new (config : TaskConfig) : (TaskStore.new config).Settled := by
  apply settled_of_outcome
  intro taskId record found
  cases found

/-- A run of the store keeps the state machine exactly when no step of it finishes a
running task with a status that is not terminal. -/
theorem state_machine_kept_iff (config : TaskConfig) (ops : List StoreOp) :
    StoreRun.KeepsStateMachine (.empty config) ops ↔
      Runs.Guarded StoreRun.step (fun run op => run.closes op = true) (.empty config) ops := by
  have settled := @StoreRun.settled_run_iff (.empty config) (TaskStore.settled_new config) ops
  constructor
  · intro kept
    exact settled.mp kept.1
  · intro closes
    exact ⟨settled.mpr closes,StoreRun.legal_run (StoreRun.filed_empty config) ops⟩

/-- A worker reports that it needs input through the wrong operation. -/
theorem finish_as_input_required_unsettled :
    ¬StoreRun.KeepsStateMachine (.empty .default)
      [.create 0 "task" none none,.finish 0 "task" .inputRequired (.value .null)] := by
  rintro ⟨⟨_,created⟩,_⟩
  obtain ⟨_,finished⟩ := created _ rfl
  have settled : TaskStore.Settled _ := finished _ rfl
  have terminal := (settled.outcome "task" _ rfl).mp rfl
  cases terminal

end SmlMcps
