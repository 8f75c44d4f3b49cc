import SmlMcps.TaskCapacity
import SmlMcps.TaskListing

/-! Isolation of requestors in one task store. What a requestor gets from `tasks/get`,
`tasks/list`, `tasks/result` and `tasks/cancel` depends on its own records only, and
what these do to the records of others is what any sweep does. Someone else's task is
answered like one that does not exist. -/
namespace SmlMcps

/-- What a requestor may ask of its tasks. -/
inductive RequestorOp where
  | get (now : SystemTime) (taskId : String)
  | list (now : SystemTime)
  | tryResult (now : SystemTime) (taskId : String)
  | cancel (now : SystemTime) (taskId : String)

inductive StoreAnswer where
  | task (answer : Except McpError Task)
  | tasks (answer : List Task)
  | outcome (answer : Except McpError (Option TaskOutcome))

namespace RequestorOp

def toStoreOp (requestor : Requestor) : RequestorOp → StoreOp
  | .get now taskId => .get now taskId requestor
  | .list now => .list now requestor
  | .tryResult now taskId => .tryResult now taskId requestor
  | .cancel now taskId => .cancel now taskId requestor

def clock : RequestorOp → SystemTime
  | .get now _ | .list now | .tryResult now _ | .cancel now _ => now

/-- The task an operation names. -/
def names : RequestorOp → Option String
  | .get _ taskId | .tryResult _ taskId | .cancel _ taskId => some taskId
  | .list _ => none

end RequestorOp

namespace TaskStore

def answer (store : TaskStore) (requestor : Requestor) : RequestorOp → StoreAnswer
  | .get now taskId => .task (store.get now taskId requestor).2
  | .list now => .tasks (store.list now requestor).2
  | .tryResult now taskId => .outcome (store.tryResult now taskId requestor).2
  | .cancel now taskId => .task (store.cancel now taskId requestor).2

/-- The store after a requestor's operations, and what they answered. -/
def asked (store : TaskStore) (requestor : Requestor) : List RequestorOp →
    TaskStore × List StoreAnswer
  | [] => (store,[])
  | op :: rest =>
    let later := (store.perform (op.toStoreOp requestor)).asked requestor rest
    (later.1,store.answer requestor op :: later.2)

end TaskStore

/-! ## The requestor's own records -/

/-- Records that differ in the flag they own at most. -/
structure Alike (first second : TaskRecord) : Prop where
  task : first.task = second.task
  outcome : first.outcome = second.outcome
  created : first.created = second.created
  owner : first.owner = second.owner

inductive AlikeSeen : Option TaskRecord → Option TaskRecord → Prop
  | missing : AlikeSeen none none
  | present {first second : TaskRecord} (alike : Alike first second) :
      AlikeSeen (some first) (some second)

/-- Two stores agree on the records of a requestor. -/
def AgreeFor (requestor : Requestor) (first second : TaskStore) : Prop :=
  ∀ taskId, AlikeSeen (first.visible taskId requestor) (second.visible taskId requestor)

theorem Alike.expired {first second : TaskRecord} (alike : Alike first second)
    (now : SystemTime) : first.expired now = second.expired now := by
  simp only [TaskRecord.expired,alike.task,alike.created]

theorem AlikeSeen.filter {first second : Option TaskRecord} (alike : AlikeSeen first second)
    {keep : TaskRecord → Bool} (respects : ∀ one two, Alike one two → keep one = keep two) :
    AlikeSeen (first.filter keep) (second.filter keep) := by
  cases alike with
  | missing => exact .missing
  | @present one two alike =>
    simp only [Option.filter,respects one two alike]
    split
    · exact .present alike
    · exact .missing

namespace TaskStore

theorem visible_sweep (store : TaskStore) (now : SystemTime) (taskId : String)
    (requestor : Requestor) : (store.sweep now).visible taskId requestor =
      (store.visible taskId requestor).filter fun record => !record.expired now := by
  ext record
  rw [visible_sweep_some,Option.filter_eq_some_iff]
  simp

theorem agreeFor_sweep {first second : TaskStore} {requestor : Requestor}
    (agree : AgreeFor requestor first second) (now : SystemTime) :
    AgreeFor requestor (first.sweep now) (second.sweep now) := by
  intro taskId
  rw [visible_sweep,visible_sweep]
  apply (agree taskId).filter
  intro one two alike
  rw [alike.expired now]

theorem visible_update (store : TaskStore) (filed taskId : String) (record : TaskRecord)
    (requestor : Requestor) : (store.update filed record).visible taskId requestor =
      if taskId = filed then (some record).filter fun record => record.belongsTo requestor
      else store.visible taskId requestor := by
  unfold visible
  rw [record?_update]
  split <;> rfl

theorem cancel_unseen {store : TaskStore} {now : SystemTime} {taskId : String}
    {requestor : Requestor} (unseen : (store.sweep now).visible taskId requestor = none) :
    store.cancel now taskId requestor = (store.sweep now,.error (notFound taskId)) := by
  simp only [cancel,unseen]

theorem cancel_finished {store : TaskStore} {now : SystemTime} {taskId : String}
    {requestor : Requestor} {record : TaskRecord}
    (seen : (store.sweep now).visible taskId requestor = some record)
    (terminal : record.task.status.isTerminal = true) :
    store.cancel now taskId requestor = (store.sweep now,.error (.invalidParams
      ("Cannot cancel task: already in terminal status '" ++ record.task.status.name ++ "'"))) := by
  simp only [cancel,seen,if_pos terminal]

theorem cancel_running {store : TaskStore} {now : SystemTime} {taskId : String}
    {requestor : Requestor} {record : TaskRecord}
    (seen : (store.sweep now).visible taskId requestor = some record)
    (running : ¬record.task.status.isTerminal = true) :
    store.cancel now taskId requestor =
      ({ (store.sweep now).update taskId (cancelledRecord record now) with
          flags := store.flags.set record.cancelled true },
        .ok (cancelledRecord record now).task) := by
  simp only [cancel,seen,if_neg running]
  rfl

theorem alike_cancelledRecord {first second : TaskRecord} (alike : Alike first second)
    (now : SystemTime) : Alike (cancelledRecord first now) (cancelledRecord second now) where
  task := by simp only [cancelledRecord,alike.task]
  outcome := rfl
  created := alike.created
  owner := alike.owner

theorem agreeFor_update {first second : TaskStore} {requestor : Requestor}
    (agree : AgreeFor requestor first second) (taskId : String) {one two : TaskRecord}
    (alike : Alike one two) :
    AgreeFor requestor (first.update taskId one) (second.update taskId two) := by
  intro filed
  rw [visible_update,visible_update]
  split
  · apply (AlikeSeen.present alike).filter
    intro one two alike
    simp only [TaskRecord.belongsTo,alike.owner]
  · exact agree filed

/-- Agreeing stores answer a cancellation alike and still agree. -/
theorem agreeFor_cancel {first second : TaskStore} {requestor : Requestor}
    (agree : AgreeFor requestor first second) (now : SystemTime) (taskId : String) :
    (first.cancel now taskId requestor).2 = (second.cancel now taskId requestor).2 ∧
      AgreeFor requestor (first.cancel now taskId requestor).1
        (second.cancel now taskId requestor).1 := by
  have swept := agreeFor_sweep agree now
  have here := swept taskId
  cases left : (first.sweep now).visible taskId requestor with
  | none =>
    rw [left] at here
    have right : (second.sweep now).visible taskId requestor = none := by
      revert here
      generalize (second.sweep now).visible taskId requestor = other
      intro here
      cases here
      rfl
    rw [cancel_unseen left,cancel_unseen right]
    exact ⟨rfl,swept⟩
  | some record =>
    rw [left] at here
    obtain ⟨other,right,alike⟩ : ∃ other,
        (second.sweep now).visible taskId requestor = some other ∧ Alike record other := by
      revert here
      generalize (second.sweep now).visible taskId requestor = other
      intro here
      cases here with
      | present alike => exact ⟨_,rfl,alike⟩
    by_cases terminal : record.task.status.isTerminal = true
    · have terminal' : other.task.status.isTerminal = true := alike.task ▸ terminal
      rw [cancel_finished left terminal,cancel_finished right terminal',alike.task]
      exact ⟨rfl,swept⟩
    · have running : ¬other.task.status.isTerminal = true := alike.task ▸ terminal
      have ended := alike_cancelledRecord alike now
      rw [cancel_running left terminal,cancel_running right running]
      exact ⟨congrArg Except.ok ended.task,agreeFor_update swept taskId ended⟩

theorem list_agree {first second : TaskStore} {requestor : Requestor}
    (agree : AgreeFor requestor first second) (left : first.Keyed) (right : second.Keyed)
    (now : SystemTime) : (first.list now requestor).2 = (second.list now requestor).2 := by
  apply (list_ordered left now requestor).eq_of_mem_iff (list_ordered right now requestor)
  have swept := agreeFor_sweep agree now
  intro task
  rw [mem_list_iff,mem_list_iff]
  constructor
  · rintro ⟨taskId,record,seen,rfl⟩
    have here := swept taskId
    rw [seen] at here
    cases other : (second.sweep now).visible taskId requestor with
    | none => rw [other] at here; cases here
    | some twin =>
      rw [other] at here
      cases here with
      | present alike => exact ⟨taskId,twin,other,alike.task.symm⟩
  · rintro ⟨taskId,record,seen,rfl⟩
    have here := swept taskId
    rw [seen] at here
    cases other : (first.sweep now).visible taskId requestor with
    | none => rw [other] at here; cases here
    | some twin =>
      rw [other] at here
      cases here with
      | present alike => exact ⟨taskId,twin,other,alike.task⟩

theorem get_answer (store : TaskStore) (now : SystemTime) (taskId : String)
    (requestor : Requestor) : (store.get now taskId requestor).2 =
      match (store.sweep now).visible taskId requestor with
      | some record => .ok record.task
      | none => .error (notFound taskId) := by
  simp only [get]
  split <;> simp_all

theorem tryResult_answer (store : TaskStore) (now : SystemTime) (taskId : String)
    (requestor : Requestor) : (store.tryResult now taskId requestor).2 =
      match (store.sweep now).visible taskId requestor with
      | some record => outcomeOf taskId record
      | none => .error (notFound taskId) := by
  simp only [tryResult]
  split <;> simp_all

/-- Agreeing stores answer alike and still agree. -/
theorem answer_agree {first second : TaskStore} {requestor : Requestor}
    (agree : AgreeFor requestor first second) (left : first.Keyed) (right : second.Keyed)
    (op : RequestorOp) : first.answer requestor op = second.answer requestor op ∧
      AgreeFor requestor (first.perform (op.toStoreOp requestor))
        (second.perform (op.toStoreOp requestor)) := by
  have swept := agreeFor_sweep agree op.clock
  cases op with
  | get now taskId =>
    refine ⟨?_,?_⟩
    · have here := swept taskId
      simp only [RequestorOp.clock] at here
      simp only [answer,get_answer]
      revert here
      generalize (first.sweep now).visible taskId requestor = left
      generalize (second.sweep now).visible taskId requestor = right
      intro here
      cases here with
      | missing => rfl
      | present alike => simp only [alike.task]
    · simp only [RequestorOp.toStoreOp,perform,get_store]
      exact swept
  | list now =>
    refine ⟨?_,swept⟩
    simp only [answer,list_agree agree left right now]
  | tryResult now taskId =>
    refine ⟨?_,?_⟩
    · have here := swept taskId
      simp only [RequestorOp.clock] at here
      simp only [answer,tryResult_answer]
      revert here
      generalize (first.sweep now).visible taskId requestor = left
      generalize (second.sweep now).visible taskId requestor = right
      intro here
      cases here with
      | missing => rfl
      | present alike => simp only [outcomeOf,alike.task,alike.outcome]
    · simp only [RequestorOp.toStoreOp,perform,tryResult_store]
      exact swept
  | cancel now taskId =>
    obtain ⟨same,still⟩ := agreeFor_cancel agree now taskId
    exact ⟨congrArg StoreAnswer.task same,still⟩

/-! ## Everyone else's records -/

theorem toStoreOp_creates (requestor : Requestor) (op : RequestorOp) :
    (op.toStoreOp requestor).creates = none := by
  cases op <;> rfl

theorem toStoreOp_clock (requestor : Requestor) (op : RequestorOp) :
    (op.toStoreOp requestor).clock = op.clock := by
  cases op <;> rfl

/-- A record of someone else that is there after an operation was there before. -/
theorem others_old {store : TaskStore} {requestor : Requestor} {op : RequestorOp}
    {taskId : String} {record : TaskRecord}
    (found : (store.perform (op.toStoreOp requestor)).record? taskId = some record)
    (foreign : record.owner ≠ requestor) : store.record? taskId = some record := by
  cases perform_origin found with
  | kept known => exact known
  | created now requestedTtl owner asked => cases op <;> cases asked
  | moved before now status known asked => cases op <;> cases asked
  | noted before now message known asked => cases op <;> cases asked
  | finished before now status outcome known asked => cases op <;> cases asked
  | cancelled before now known asked =>
    cases op with
    | cancel => cases asked; exact absurd rfl foreign
    | get | list | tryResult => cases asked

theorem others_kept {store : TaskStore} {requestor : Requestor} (op : RequestorOp)
    {taskId : String} {record : TaskRecord} (known : store.record? taskId = some record)
    (foreign : record.owner ≠ requestor) :
    (store.perform (op.toStoreOp requestor)).record? taskId = some record ∨
      (store.perform (op.toStoreOp requestor)).record? taskId = none ∧
        record.expired op.clock = true := by
  cases held : (store.perform (op.toStoreOp requestor)).record? taskId with
  | none =>
    have lost := expired_of_lost (toStoreOp_creates requestor op) known held
    rw [toStoreOp_clock] at lost
    exact .inr ⟨rfl,lost⟩
  | some record' =>
    left
    rcases perform_evolves held with ⟨old,there,evolves⟩ | ⟨created,_⟩
    · rw [known] at there
      cases there
      have still := others_old held (by rw [evolves.owner]; exact foreign)
      rw [known] at still
      exact still.symm
    · rw [toStoreOp_creates] at created
      cases created

/-- Every record has a flag of its own. -/
structure Flagged (store : TaskStore) : Prop where
  bound : ∀ taskId record, store.record? taskId = some record →
    record.cancelled < store.flags.length
  apart : ∀ taskId other one two, store.record? taskId = some one →
    store.record? other = some two → one.cancelled = two.cancelled → taskId = other

/-- A record filed under a new identifier has a new flag. -/
theorem create_flags {store : TaskStore} {now : SystemTime} {taskId : String}
    {requestedTtl : Option Nat} {owner : Option String} {record : TaskRecord}
    (absent : store.record? taskId = none)
    (found : (store.create now taskId requestedTtl owner).1.record? taskId = some record) :
    (store.create now taskId requestedTtl owner).1.flags = store.flags ++ [false] := by
  have spec := store.create_spec now taskId requestedTtl owner
  revert found spec
  generalize store.create now taskId requestedTtl owner = result
  intro found spec
  cases spec with
  | crowded =>
    have old := (record?_sweep_some found).1
    rw [absent] at old
    cases old
  | full roomy e below room =>
    rw [roomy_none room absent] at found
    cases found
  | opened => rfl

end TaskStore

theorem flagged_step (run : StoreRun) (op : StoreOp) (next : StoreRun)
    (valid : run.Filed ∧ run.store.Flagged) (taken : run.step op = some next) :
    next.Filed ∧ next.store.Flagged := by
  refine ⟨StoreRun.filed_step run op next valid.1 taken,?_⟩
  have effect := StoreRun.stepped taken
  rw [effect.store]
  have longer := (run.store.perform_kept op).flags
  -- A record is an old one with its old flag, or the new one with the next flag.
  have flag : ∀ taskId record, (run.store.perform op).record? taskId = some record →
      (∃ old, run.store.record? taskId = some old ∧ record.cancelled = old.cancelled) ∨
        op.creates = some taskId ∧ record.cancelled = run.store.flags.length ∧
          run.store.flags.length < (run.store.perform op).flags.length := by
    intro taskId record found
    rcases (TaskStore.perform_origin found).sameTask with ⟨old,known,same⟩ |
      ⟨now,requestedTtl,owner,rfl,rfl⟩
    · exact .inl ⟨old,known,same.cancelled⟩
    · have grown : (run.store.perform (.create now taskId requestedTtl owner)).flags =
          run.store.flags ++ [false] :=
        TaskStore.create_flags (valid.1.absent taken rfl) found
      refine .inr ⟨rfl,rfl,?_⟩
      rw [grown]
      simp
  refine ⟨?_,?_⟩
  · intro taskId record found
    rcases flag taskId record found with ⟨old,known,same⟩ | ⟨_,same,more⟩
    · have := valid.2.bound taskId old known
      omega
    · omega
  · intro taskId other one two here there same
    rcases flag taskId one here with ⟨old,known,kept⟩ | ⟨drawn,kept,_⟩ <;>
      rcases flag other two there with ⟨old',known',kept'⟩ | ⟨drawn',kept',_⟩
    · exact valid.2.apart taskId other old old' known known' (by omega)
    · have := valid.2.bound taskId old known
      omega
    · have := valid.2.bound other old' known'
      omega
    · rw [drawn] at drawn'
      exact Option.some.inj drawn'

theorem flagged_of_run {config : TaskConfig} {ops : List StoreOp} {run : StoreRun}
    (reached : Runs.execute StoreRun.step (.empty config) ops = some run) :
    run.Filed ∧ run.store.Flagged := by
  refine Runs.invariant flagged_step reached ⟨StoreRun.filed_empty config,?_,?_⟩
  · intro taskId record found
    cases found
  · intro taskId other one two found
    cases found

namespace TaskStore

/-- No record of the requestor's owns the flag. -/
def Foreign (store : TaskStore) (requestor : Requestor) (flag : Nat) : Prop :=
  ∀ taskId record, store.record? taskId = some record → record.owner = requestor →
    record.cancelled ≠ flag

theorem foreign_step {store : TaskStore} {requestor : Requestor} {flag : Nat}
    (foreign : store.Foreign requestor flag) (op : RequestorOp) :
    (store.perform (op.toStoreOp requestor)).Foreign requestor flag ∧
      (store.perform (op.toStoreOp requestor)).flags[flag]? = store.flags[flag]? := by
  refine ⟨?_,?_⟩
  · intro taskId record found mine
    rcases (perform_origin found).sameTask with ⟨old,known,same⟩ | ⟨_,_,_,asked,_⟩
    · rw [same.cancelled]
      exact foreign taskId old known (same.owner.symm.trans mine)
    · cases op <;> cases asked
  · cases op with
    | get now taskId => simp only [RequestorOp.toStoreOp,perform,get_store]; rfl
    | list now => rfl
    | tryResult now taskId => simp only [RequestorOp.toStoreOp,perform,tryResult_store]; rfl
    | cancel now taskId =>
      simp only [RequestorOp.toStoreOp,perform]
      cases seen : (store.sweep now).visible taskId requestor with
      | none =>
        rw [cancel_unseen seen]
        rfl
      | some record =>
        by_cases terminal : record.task.status.isTerminal = true
        · rw [cancel_finished seen terminal]
          rfl
        · obtain ⟨known,mine⟩ := visible_some seen
          have different := foreign taskId record (record?_sweep_some known).1 mine
          rw [cancel_running seen terminal]
          exact List.getElem?_set_ne different

end TaskStore

/-- The requestor's operations leave the records of others alone, their cancellation
flags included, except to drop what has expired. -/
structure OthersKept (requestor : Requestor) (ops : List RequestorOp)
    (before after : TaskStore) : Prop where
  kept : ∀ taskId record, before.record? taskId = some record → record.owner ≠ requestor →
    after.record? taskId = some record ∨
      after.record? taskId = none ∧ ∃ op ∈ ops, record.expired op.clock = true
  old : ∀ taskId record, after.record? taskId = some record → record.owner ≠ requestor →
    before.record? taskId = some record
  traced : ∀ taskId record, after.record? taskId = some record →
    (before.record? taskId).isSome = true
  flags : ∀ flag, before.Foreign requestor flag → after.flags[flag]? = before.flags[flag]?

theorem othersKept_asked (requestor : Requestor) (ops : List RequestorOp) (store : TaskStore) :
    OthersKept requestor ops store (store.asked requestor ops).1 := by
  induction ops generalizing store with
  | nil =>
    refine ⟨fun _ _ known _ => .inl known,fun _ _ found _ => found,?_,fun _ _ => rfl⟩
    intro taskId record found
    exact Option.isSome_of_eq_some found
  | cons op rest ih =>
    have later := ih (store.perform (op.toStoreOp requestor))
    refine ⟨?_,?_,?_,?_⟩
    · intro taskId record known foreign
      rcases TaskStore.others_kept op known foreign with there | ⟨gone,expired⟩
      · rcases later.kept taskId record there foreign with still | ⟨lost,other,member,expired⟩
        · exact .inl still
        · exact .inr ⟨lost,other,List.mem_cons_of_mem _ member,expired⟩
      · refine .inr ⟨?_,op,List.mem_cons_self,expired⟩
        by_contra back
        obtain ⟨record',found⟩ := Option.ne_none_iff_exists'.mp back
        have there := later.traced taskId record' found
        rw [gone] at there
        cases there
    · intro taskId record found foreign
      exact TaskStore.others_old (later.old taskId record found foreign) foreign
    · intro taskId record found
      obtain ⟨record',there⟩ := Option.isSome_iff_exists.mp (later.traced taskId record found)
      rcases TaskStore.perform_evolves there with ⟨old,known,_⟩ | ⟨created,_⟩
      · exact Option.isSome_of_eq_some known
      · rw [TaskStore.toStoreOp_creates] at created
        cases created
    · intro flag foreign
      obtain ⟨still,same⟩ := TaskStore.foreign_step foreign op
      exact (later.flags flag still).trans same

theorem asked_agree {first second : TaskStore} {requestor : Requestor}
    (agree : AgreeFor requestor first second) (left : first.Keyed) (right : second.Keyed)
    (ops : List RequestorOp) :
    (first.asked requestor ops).2 = (second.asked requestor ops).2 := by
  induction ops generalizing first second with
  | nil => rfl
  | cons op rest ih =>
    obtain ⟨same,still⟩ := TaskStore.answer_agree agree left right op
    have later := ih still (TaskStore.keyed_perform left _) (TaskStore.keyed_perform right _)
    simp only [TaskStore.asked,same,later]

theorem visible_unseen {store : TaskStore} {requestor : Requestor} {taskId : String}
    (unseen : ∀ record, store.record? taskId = some record → record.owner ≠ requestor)
    (now : SystemTime) : (store.sweep now).visible taskId requestor = none := by
  by_contra seen
  obtain ⟨record,there⟩ := Option.ne_none_iff_exists'.mp seen
  obtain ⟨known,mine⟩ := TaskStore.visible_some (TaskStore.visible_sweep_some.mp there).1
  exact unseen record known mine

/-- An operation on a task that is not the requestor's is answered as not found. -/
theorem answer_unseen {store : TaskStore} {requestor : Requestor} {op : RequestorOp}
    {taskId : String} (names : op.names = some taskId)
    (unseen : ∀ record, store.record? taskId = some record → record.owner ≠ requestor) :
    store.answer requestor op = match op with
      | .tryResult _ _ => .outcome (.error (notFound taskId))
      | _ => .task (.error (notFound taskId)) := by
  cases op with
  | get now filed =>
    cases names
    simp only [TaskStore.answer,TaskStore.get,visible_unseen unseen now]
  | list now => cases names
  | tryResult now filed =>
    cases names
    simp only [TaskStore.answer,TaskStore.tryResult,visible_unseen unseen now]
  | cancel now filed =>
    cases names
    simp only [TaskStore.answer,TaskStore.cancel_unseen (visible_unseen unseen now)]

/-- In reachable stores that agree on a requestor's records, whatever the requestor asks
is answered alike; it leaves everyone else's records as they were; and a task that is
someone else's is answered like one that does not exist. -/
theorem requestor_noninterference (config config' : TaskConfig) (earlier earlier' : List StoreOp)
    (first second : StoreRun) (requestor : Requestor) (ops : List RequestorOp)
    (left : Runs.execute StoreRun.step (.empty config) earlier = some first)
    (right : Runs.execute StoreRun.step (.empty config') earlier' = some second)
    (agree : AgreeFor requestor first.store second.store) :
    (first.store.asked requestor ops).2 = (second.store.asked requestor ops).2 ∧
    OthersKept requestor ops first.store (first.store.asked requestor ops).1 ∧
    (∀ taskId record, first.store.record? taskId = some record → record.owner ≠ requestor →
      (first.store.asked requestor ops).1.flags[record.cancelled]? =
        first.store.flags[record.cancelled]?) ∧
    ∀ op taskId, op.names = some taskId → ∀ record, first.store.record? taskId = some record →
      record.owner ≠ requestor → ∀ elsewhere : TaskStore, elsewhere.record? taskId = none →
      first.store.answer requestor op = elsewhere.answer requestor op := by
  have valid := flagged_of_run left
  have others := othersKept_asked requestor ops first.store
  refine ⟨?_,others,?_,?_⟩
  · exact asked_agree agree valid.1.keyed (StoreRun.filed_of_run right).keyed ops
  · intro taskId record known foreign
    apply others.flags
    intro other mine there owned same
    have here := valid.2.apart other taskId mine record there known same
    subst here
    rw [known] at there
    cases there
    exact foreign owned
  · intro op taskId names record known foreign elsewhere missing
    rw [answer_unseen names,answer_unseen names]
    · intro other found
      rw [missing] at found
      cases found
    · intro other found
      rw [known] at found
      cases found
      exact foreign

theorem StoreRun.Filed.undrawn {run : StoreRun} (filed : run.Filed) {taskId : String}
    (fresh : taskId ∉ run.drawn) (requestor : Requestor) :
    run.store.visible taskId requestor = none := by
  by_contra seen
  obtain ⟨record,there⟩ := Option.ne_none_iff_exists'.mp seen
  exact fresh (filed.drawn taskId record (TaskStore.visible_some there).1)

def aliceAlone : List StoreOp := [.create 0 "a" none (some "alice")]

def aliceWithBob : List StoreOp :=
  [.create 0 "b" none (some "bob"),.create 0 "a" none (some "alice"),
    .finish 1 "b" .completed (.value .null)]

/-- Bob's tasks come and go without Alice noticing. -/
theorem alice_does_not_see_bob :
    ∃ alone shared, Runs.execute StoreRun.step (.empty .default) aliceAlone = some alone ∧
      Runs.execute StoreRun.step (.empty .default) aliceWithBob = some shared ∧
      (alone.store.asked (some "alice") [.list 2,.cancel 3 "b",.tryResult 4 "a"]).2 =
        (shared.store.asked (some "alice") [.list 2,.cancel 3 "b",.tryResult 4 "a"]).2 := by
  refine ⟨_,_,rfl,rfl,?_⟩
  refine (requestor_noninterference .default .default aliceAlone aliceWithBob _ _ (some "alice")
    _ rfl rfl ?_).1
  intro taskId
  by_cases hers : taskId = "a"
  · subst hers
    exact .present ⟨rfl,rfl,rfl,rfl⟩
  · by_cases his : taskId = "b"
    · subst his
      exact .missing
    · rw [(@StoreRun.filed_of_run .default aliceAlone _ rfl).undrawn,
        (@StoreRun.filed_of_run .default aliceWithBob _ rfl).undrawn]
      · exact .missing
      · exact fun drawn => by
          rcases List.mem_cons.mp drawn with same | later
          · exact hers same
          · exact his (List.mem_singleton.mp later)
      · exact fun drawn => hers (List.mem_singleton.mp drawn)

end SmlMcps
