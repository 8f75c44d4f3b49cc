import SmlMcps.Tasks

/-! Laws of the task store, over its public operations as one type: how a record may
change in one step. Whatever the operation, a record that is present afterwards was
there before and evolved, or was just created; and a finished record does not evolve. -/
namespace SmlMcps

/-- The public operations, with the clock reading each one takes; of the blocking wait,
one look. -/
inductive StoreOp where
  | create (now : SystemTime) (taskId : String) (requestedTtl : Option Nat)
      (owner : Option String)
  | get (now : SystemTime) (taskId : String) (requestor : Requestor)
  | list (now : SystemTime) (requestor : Requestor)
  | setStatus (now : SystemTime) (taskId : String) (status : TaskStatus)
  | setStatusMessage (now : SystemTime) (taskId message : String)
  | finish (now : SystemTime) (taskId : String) (status : TaskStatus) (outcome : TaskOutcome)
  | cancel (now : SystemTime) (taskId : String) (requestor : Requestor)
  | tryResult (now : SystemTime) (taskId : String) (requestor : Requestor)
  | awaitResult (now : SystemTime) (taskId : String) (requestor : Requestor) (expired : Bool)
  | isEmpty (now : SystemTime)
  | running (now : SystemTime)

/-- The record an operation may create. -/
def StoreOp.creates : StoreOp → Option String
  | .create _ taskId _ _ => some taskId
  | _ => none

namespace TaskStore

def perform (store : TaskStore) : StoreOp → TaskStore
  | .create now taskId requestedTtl owner => (store.create now taskId requestedTtl owner).1
  | .get now taskId requestor => (store.get now taskId requestor).1
  | .list now requestor => (store.list now requestor).1
  | .setStatus now taskId status => (store.setStatus now taskId status).1
  | .setStatusMessage now taskId message => store.setStatusMessage now taskId message
  | .finish now taskId status outcome => store.finish now taskId status outcome
  | .cancel now taskId requestor => (store.cancel now taskId requestor).1
  | .tryResult now taskId requestor => (store.tryResult now taskId requestor).1
  | .awaitResult now taskId requestor expired =>
    (store.awaitResultOnce now taskId requestor expired).1
  | .isEmpty now => (store.isEmpty now).1
  | .running now => (store.countRunning now).1

/-- The task's record is there and not finished. -/
def isRunning (store : TaskStore) (taskId : String) : Bool :=
  (store.record? taskId).any fun record => !record.task.status.isTerminal

def performAll (store : TaskStore) (ops : List StoreOp) : TaskStore := ops.foldl perform store

end TaskStore

/-- What a step may do to a record: keep it if it is finished, else change its status,
its message and its outcome, the latter only to something when it finishes. -/
structure Evolves (before after : TaskRecord) : Prop where
  owner : after.owner = before.owner
  created : after.created = before.created
  ttl : after.task.ttl = before.task.ttl
  cancelled : after.cancelled = before.cancelled
  finished : before.task.status.isTerminal = true → after = before
  outcome : before.task.status.isTerminal = false → after.task.status.isTerminal = true →
    after.outcome.isSome = true

theorem Evolves.refl (record : TaskRecord) : Evolves record record :=
  ⟨rfl,rfl,rfl,rfl,fun _ => rfl,fun running terminal => by
    rw [running] at terminal
    cases terminal⟩

namespace TaskStore

theorem record?_sweep (store : TaskStore) (now : SystemTime) (taskId : String) :
    (store.sweep now).record? taskId =
      (store.record? taskId).filter fun record => !record.expired now :=
  KeyedTable.lookup_retain _ _ _

theorem record?_sweep_some {store : TaskStore} {now : SystemTime} {taskId : String}
    {record : TaskRecord} (found : (store.sweep now).record? taskId = some record) :
    store.record? taskId = some record ∧ record.expired now = false := by
  rw [record?_sweep,Option.filter_eq_some_iff] at found
  exact ⟨found.1,by simpa using found.2⟩

theorem record?_update (store : TaskStore) (filed taskId : String) (record : TaskRecord) :
    (store.update filed record).record? taskId =
      if taskId = filed then some record else store.record? taskId :=
  KeyedTable.lookup_insert_eq filed taskId record store.tasks

theorem lookup_makeRoomWith (maxRecords fuel : Nat) (tasks : KeyedTable String TaskRecord)
    (taskId : String) :
    AList.lookup taskId (makeRoomWith maxRecords fuel tasks).1 = none ∨
      AList.lookup taskId (makeRoomWith maxRecords fuel tasks).1 = AList.lookup taskId tasks := by
  induction fuel generalizing tasks with
  | zero => exact .inr rfl
  | succ fuel ih =>
    simp only [makeRoomWith]
    split
    · split
      · rename_i victim _
        rcases ih (tasks.erase victim) with gone | kept
        · exact .inl gone
        · rw [KeyedTable.lookup_erase_eq] at kept
          split at kept
          · exact .inl kept
          · exact .inr kept
      · exact .inr rfl
    · exact .inr rfl

theorem record?_makeRoom_some {store : TaskStore} {taskId : String} {record : TaskRecord}
    (found : store.makeRoom.1.record? taskId = some record) :
    store.record? taskId = some record := by
  rcases lookup_makeRoomWith store.config.maxRecords (KeyedTable.size store.tasks + 1)
    store.tasks taskId with gone | kept
  · have missing : store.makeRoom.1.record? taskId = none := gone
    rw [missing] at found
    cases found
  · exact kept.symm.trans found

end TaskStore

/-- How a creation ends: the requestor has too many tasks running, the store is full of
running tasks, or the new record is filed in the room that was made. -/
inductive Creation (store : TaskStore) (now : SystemTime) (taskId : String)
    (requestedTtl : Option Nat) (owner : Option String) :
    TaskStore × Except McpError (Task × Nat) → Prop
  | crowded (e : McpError)
      (limit : store.config.maxConcurrent ≤ (store.sweep now).running owner) :
      Creation store now taskId requestedTtl owner (store.sweep now,.error e)
  | full (roomy : TaskStore) (e : McpError)
      (below : (store.sweep now).running owner < store.config.maxConcurrent)
      (room : (store.sweep now).makeRoom = (roomy,.error e)) :
      Creation store now taskId requestedTtl owner (roomy,.error e)
  | opened (roomy : TaskStore)
      (below : (store.sweep now).running owner < store.config.maxConcurrent)
      (room : (store.sweep now).makeRoom = (roomy,.ok ())) :
      Creation store now taskId requestedTtl owner
        ({ roomy.update taskId (store.freshRecord now taskId requestedTtl owner) with
            flags := store.flags ++ [false] },
          .ok ((store.freshRecord now taskId requestedTtl owner).task,store.flags.length))

/-- Where a record that is present after an operation comes from: it was there, or the
operation is the one that made it what it is. -/
inductive Origin (store : TaskStore) (op : StoreOp) (taskId : String) : TaskRecord → Prop
  | kept {record : TaskRecord} (known : store.record? taskId = some record) :
      Origin store op taskId record
  | created (now : SystemTime) (requestedTtl : Option Nat) (owner : Option String)
      (asked : op = .create now taskId requestedTtl owner) :
      Origin store op taskId (store.freshRecord now taskId requestedTtl owner)
  | moved (before : TaskRecord) (now : SystemTime) (status : TaskStatus)
      (known : store.record? taskId = some before) (asked : op = .setStatus now taskId status)
      (running : status.isTerminal = false)
      (legal : before.task.status.canTransitionTo status = true) :
      Origin store op taskId { before with
        task := { before.task with status := status, lastUpdatedAt := iso8601 now } }
  | noted (before : TaskRecord) (now : SystemTime) (message : String)
      (known : store.record? taskId = some before)
      (asked : op = .setStatusMessage now taskId message)
      (running : before.task.status.isTerminal = false) :
      Origin store op taskId { before with
        task := { before.task with
          statusMessage := some message
          lastUpdatedAt := iso8601 now } }
  | finished (before : TaskRecord) (now : SystemTime) (status : TaskStatus)
      (outcome : TaskOutcome) (known : store.record? taskId = some before)
      (asked : op = .finish now taskId status outcome)
      (running : before.task.status.isTerminal = false) :
      Origin store op taskId (TaskStore.finishRecord before now status outcome)
  | cancelled (before : TaskRecord) (now : SystemTime)
      (known : store.record? taskId = some before)
      (asked : op = .cancel now taskId before.owner)
      (running : before.task.status.isTerminal = false) :
      Origin store op taskId (TaskStore.cancelledRecord before now)

theorem TaskStatus.not_terminal_of_canTransitionTo {current next : TaskStatus}
    (legal : current.canTransitionTo next = true) : current.isTerminal = false := by
  cases current <;> simp_all [canTransitionTo,isTerminal]

/-- A record with a known origin evolved from the one before, or was created. -/
theorem Origin.evolves {store : TaskStore} {op : StoreOp} {taskId : String}
    {record : TaskRecord} (origin : Origin store op taskId record) :
    (∃ old, store.record? taskId = some old ∧ Evolves old record) ∨
      op.creates = some taskId ∧ record.task.status = .working ∧ record.outcome = none := by
  cases origin with
  | kept known => exact .inl ⟨record,known,.refl record⟩
  | created now requestedTtl owner asked => exact .inr ⟨by rw [asked]; rfl,rfl,rfl⟩
  | moved before now status known asked stays legal =>
    have running := TaskStatus.not_terminal_of_canTransitionTo legal
    refine .inl ⟨before,known,rfl,rfl,rfl,rfl,?_,?_⟩
    · intro terminal
      rw [running] at terminal
      cases terminal
    · intro _ terminal
      rw [stays] at terminal
      cases terminal
  | noted before now message known asked running =>
    refine .inl ⟨before,known,rfl,rfl,rfl,rfl,?_,?_⟩
    · intro terminal
      rw [running] at terminal
      cases terminal
    · intro _ terminal
      rw [running] at terminal
      cases terminal
  | finished before now status outcome known asked running =>
    refine .inl ⟨before,known,rfl,rfl,rfl,rfl,?_,fun _ _ => rfl⟩
    intro terminal
    rw [running] at terminal
    cases terminal
  | cancelled before now known asked running =>
    refine .inl ⟨before,known,rfl,rfl,rfl,rfl,?_,fun _ _ => rfl⟩
    intro terminal
    rw [running] at terminal
    cases terminal

namespace TaskStore

theorem create_spec (store : TaskStore) (now : SystemTime) (taskId : String)
    (requestedTtl : Option Nat) (owner : Option String) :
    Creation store now taskId requestedTtl owner
      (store.create now taskId requestedTtl owner) := by
  unfold create
  simp only
  split
  · rename_i limit
    exact .crowded _ limit
  · rename_i below
    have free : (store.sweep now).running owner < store.config.maxConcurrent := Nat.not_le.mp below
    split
    · rename_i roomy e room
      exact .full roomy e free room
    · rename_i roomy room
      have same : roomy = (store.sweep now).makeRoom.1 := by rw [room]
      subst same
      exact .opened _ free room

/-- Making room brings no record. -/
theorem roomy_some {store roomy : TaskStore} {room : Except McpError Unit}
    (made : store.makeRoom = (roomy,room)) {taskId : String} {record : TaskRecord}
    (found : roomy.record? taskId = some record) : store.record? taskId = some record := by
  have same : roomy = store.makeRoom.1 := by rw [made]
  rw [same] at found
  exact record?_makeRoom_some found

theorem roomy_none {store roomy : TaskStore} {now : SystemTime} {room : Except McpError Unit}
    (made : (store.sweep now).makeRoom = (roomy,room)) {taskId : String}
    (absent : store.record? taskId = none) : roomy.record? taskId = none := by
  by_contra present
  obtain ⟨record,found⟩ := Option.ne_none_iff_exists'.mp present
  have there := (record?_sweep_some (roomy_some made found)).1
  rw [absent] at there
  cases there

/-- After a creation a record is one from before, or the new one. -/
theorem record?_create_some {store : TaskStore} {now : SystemTime} {freshId taskId : String}
    {requestedTtl : Option Nat} {owner : Option String} {record : TaskRecord}
    (found : (store.create now freshId requestedTtl owner).1.record? taskId = some record) :
    store.record? taskId = some record ∨
      taskId = freshId ∧ record = store.freshRecord now freshId requestedTtl owner := by
  have spec := store.create_spec now freshId requestedTtl owner
  revert found spec
  generalize store.create now freshId requestedTtl owner = result
  intro found spec
  cases spec with
  | crowded e limit => exact .inl (record?_sweep_some found).1
  | full roomy e below room => exact .inl (record?_sweep_some (roomy_some room found)).1
  | opened roomy below room =>
    have filed : (roomy.update freshId (store.freshRecord now freshId requestedTtl owner)).record?
        taskId = some record := found
    rw [record?_update] at filed
    split at filed
    · rename_i here
      cases filed
      exact .inr ⟨here,rfl⟩
    · exact .inl (record?_sweep_some (roomy_some room filed)).1

theorem create_ok {store opened : TaskStore} {now : SystemTime} {taskId : String}
    {ttl : Option Nat} {owner : Option String} {task : Task} {cancelled : Nat}
    (created : store.create now taskId ttl owner = (opened,.ok (task,cancelled))) :
    task.taskId = taskId ∧ ∀ record, opened.record? taskId = some record →
      record.owner = owner := by
  have spec := store.create_spec now taskId ttl owner
  rw [created] at spec
  cases spec with
  | opened roomy below room =>
    refine ⟨rfl,?_⟩
    intro record found
    have filed : (roomy.update taskId (store.freshRecord now taskId ttl owner)).record? taskId =
      some record := found
    rw [record?_update,if_pos rfl] at filed
    cases filed
    rfl

theorem record?_create_error {store after : TaskStore} {now : SystemTime}
    {freshId taskId : String} {ttl : Option Nat} {owner : Option String} {e : McpError}
    {record : TaskRecord} (failed : store.create now freshId ttl owner = (after,.error e))
    (found : after.record? taskId = some record) : store.record? taskId = some record := by
  have spec := store.create_spec now freshId ttl owner
  rw [failed] at spec
  cases spec with
  | crowded e limit => exact (record?_sweep_some found).1
  | full roomy e below room => exact (record?_sweep_some (roomy_some room found)).1

/-- After an update a record is the one filed, or another one from before. -/
theorem record?_update_some {store : TaskStore} {filed taskId : String}
    {new record : TaskRecord} (found : (store.update filed new).record? taskId = some record) :
    taskId = filed ∧ record = new ∨ taskId ≠ filed ∧ store.record? taskId = some record := by
  rw [record?_update] at found
  split at found
  · rename_i here
    exact .inl ⟨here,(Option.some.inj found).symm⟩
  · rename_i elsewhere
    exact .inr ⟨elsewhere,found⟩

theorem finish_origin {store : TaskStore} {now : SystemTime} {filed taskId : String}
    {status : TaskStatus} {outcome : TaskOutcome} {record : TaskRecord}
    (found : (store.finish now filed status outcome).record? taskId = some record) :
    Origin store (.finish now filed status outcome) taskId record := by
  unfold finish at found
  split at found
  · exact .kept found
  · rename_i before known
    split at found
    · exact .kept found
    · rename_i running
      rcases record?_update_some found with ⟨rfl,rfl⟩ | ⟨_,there⟩
      · exact .finished before now status outcome known rfl (by simpa using running)
      · exact .kept there

theorem setStatus_origin {store : TaskStore} {now : SystemTime} {filed taskId : String}
    {status : TaskStatus} {record : TaskRecord}
    (found : (store.setStatus now filed status).1.record? taskId = some record) :
    Origin store (.setStatus now filed status) taskId record := by
  unfold setStatus at found
  split at found
  · exact .kept found
  · rename_i stays
    split at found
    · exact .kept found
    · rename_i before known
      split at found
      · rename_i legal
        rcases record?_update_some found with ⟨rfl,rfl⟩ | ⟨_,there⟩
        · exact .moved before now status known rfl (by simpa using stays) legal
        · exact .kept there
      · exact .kept found

theorem setStatusMessage_origin {store : TaskStore} {now : SystemTime}
    {filed taskId message : String} {record : TaskRecord}
    (found : (store.setStatusMessage now filed message).record? taskId = some record) :
    Origin store (.setStatusMessage now filed message) taskId record := by
  unfold setStatusMessage at found
  split at found
  · exact .kept found
  · rename_i before known
    split at found
    · exact .kept found
    · rename_i running
      rcases record?_update_some found with ⟨rfl,rfl⟩ | ⟨_,there⟩
      · exact .noted before now message known rfl (by simpa using running)
      · exact .kept there

theorem visible_some {store : TaskStore} {taskId : String} {requestor : Requestor}
    {record : TaskRecord} (seen : store.visible taskId requestor = some record) :
    store.record? taskId = some record ∧ record.owner = requestor := by
  obtain ⟨known,mine⟩ := Option.filter_eq_some_iff.mp seen
  exact ⟨known,by simpa [TaskRecord.belongsTo] using mine⟩

theorem cancel_origin {store : TaskStore} {now : SystemTime} {filed taskId : String}
    {requestor : Requestor} {record : TaskRecord}
    (found : (store.cancel now filed requestor).1.record? taskId = some record) :
    Origin store (.cancel now filed requestor) taskId record := by
  unfold cancel at found
  simp only at found
  split at found
  · exact .kept (record?_sweep_some found).1
  · rename_i before seen
    obtain ⟨known,mine⟩ := visible_some seen
    split at found
    · exact .kept (record?_sweep_some found).1
    · rename_i running
      have filing : ((store.sweep now).update filed (cancelledRecord before now)).record? taskId =
        some record := found
      rcases record?_update_some filing with ⟨rfl,rfl⟩ | ⟨_,there⟩
      · exact .cancelled before now (record?_sweep_some known).1 (by rw [mine])
          (by simpa using running)
      · exact .kept (record?_sweep_some there).1

theorem tryResult_store (store : TaskStore) (now : SystemTime) (taskId : String)
    (requestor : Requestor) : (store.tryResult now taskId requestor).1 = store.sweep now := by
  unfold tryResult
  simp only
  split <;> rfl

theorem get_store (store : TaskStore) (now : SystemTime) (taskId : String)
    (requestor : Requestor) : (store.get now taskId requestor).1 = store.sweep now := by
  unfold get
  simp only
  split <;> rfl

theorem awaitResultOnce_store (store : TaskStore) (now : SystemTime) (taskId : String)
    (requestor : Requestor) (expired : Bool) :
    (store.awaitResultOnce now taskId requestor expired).1 = store.sweep now := by
  rw [← tryResult_store store now taskId requestor]
  unfold awaitResultOnce
  split
  · rename_i looked
    rw [looked]
  · rename_i looked
    rw [looked]
  · rename_i looked
    rw [looked]
    split <;> rfl

/-- Every record present after an operation has an origin. -/
theorem perform_origin {store : TaskStore} {op : StoreOp} {taskId : String}
    {record : TaskRecord} (found : (store.perform op).record? taskId = some record) :
    Origin store op taskId record := by
  have swept (now : SystemTime) (same : store.perform op = store.sweep now) :
      Origin store op taskId record := by
    rw [same] at found
    exact .kept (record?_sweep_some found).1
  cases op with
  | create now freshId requestedTtl owner =>
    rcases record?_create_some found with before | ⟨rfl,rfl⟩
    · exact .kept before
    · exact .created now requestedTtl owner rfl
  | get now filed requestor => exact swept now (get_store store now filed requestor)
  | list now requestor => exact swept now rfl
  | setStatus now filed status => exact setStatus_origin found
  | setStatusMessage now filed message => exact setStatusMessage_origin found
  | finish now filed status outcome => exact finish_origin found
  | cancel now filed requestor => exact cancel_origin found
  | tryResult now filed requestor => exact swept now (tryResult_store store now filed requestor)
  | awaitResult now filed requestor expired =>
    exact swept now (awaitResultOnce_store store now filed requestor expired)
  | isEmpty now => exact swept now rfl
  | running now => exact swept now rfl

/-- A record present after an operation evolved from one before, or was created. -/
theorem perform_evolves {store : TaskStore} {op : StoreOp} {taskId : String}
    {record : TaskRecord} (found : (store.perform op).record? taskId = some record) :
    (∃ old, store.record? taskId = some old ∧ Evolves old record) ∨
      op.creates = some taskId ∧ record.task.status = .working ∧ record.outcome = none :=
  (perform_origin found).evolves

/-- What evolution keeps of a record holds along operations that do not create it anew. -/
theorem performAll_invariant (property : TaskRecord → Prop) {store : TaskStore}
    {ops : List StoreOp} {taskId : String}
    (kept : ∀ before after, property before → Evolves before after → property after)
    (distinct : ∀ op ∈ ops, op.creates ≠ some taskId)
    (holds : ∀ record, store.record? taskId = some record → property record)
    {record : TaskRecord} (found : (store.performAll ops).record? taskId = some record) :
    property record := by
  induction ops generalizing store with
  | nil => exact holds record found
  | cons op rest ih =>
    refine ih (fun other member => distinct other (List.mem_cons_of_mem _ member)) ?_ found
    intro next present
    rcases perform_evolves present with ⟨old,there,evolves⟩ | ⟨created,_⟩
    · exact kept old next (holds old there) evolves
    · exact absurd created (distinct op List.mem_cons_self)

/-- Along such operations a finished record is kept or gone. -/
theorem performAll_finished {store : TaskStore} {ops : List StoreOp} {taskId : String}
    {before after : TaskRecord} (known : store.record? taskId = some before)
    (terminal : before.task.status.isTerminal = true)
    (distinct : ∀ op ∈ ops, op.creates ≠ some taskId)
    (found : (store.performAll ops).record? taskId = some after) : after = before := by
  refine performAll_invariant (fun record => record = before) ?_ distinct ?_ found
  · intro old next same evolves
    subst same
    exact evolves.finished terminal
  · intro record present
    rw [known] at present
    exact (Option.some.inj present).symm

/-- Finishing a running record files its status and outcome. -/
theorem finish_running {store : TaskStore} {taskId : String} {record : TaskRecord}
    (now : SystemTime) (status : TaskStatus) (outcome : TaskOutcome)
    (known : store.record? taskId = some record)
    (running : record.task.status.isTerminal = false) :
    (store.finish now taskId status outcome).record? taskId =
      some (finishRecord record now status outcome) := by
  unfold finish
  simp only [known,running,Bool.false_eq_true,if_false]
  rw [record?_update,if_pos rfl]

/-- A look at a finished record of the requestor's gives its outcome. -/
theorem tryResult_finished {store : TaskStore} {now : SystemTime} {taskId : String}
    {record : TaskRecord} {outcome : TaskOutcome}
    (known : (store.sweep now).record? taskId = some record)
    (terminal : record.task.status.isTerminal = true) (stored : record.outcome = some outcome) :
    (store.tryResult now taskId record.owner).2 = .ok (some outcome) := by
  have seen : (store.sweep now).visible taskId record.owner = some record := by
    simp [visible,known,Option.filter,TaskRecord.belongsTo]
  simp only [tryResult,seen,outcomeOf,terminal,stored,if_true]

/-- What a requestor sees in a swept store is what has not expired. -/
theorem visible_sweep_some {store : TaskStore} {now : SystemTime} {taskId : String}
    {requestor : Requestor} {record : TaskRecord} :
    (store.sweep now).visible taskId requestor = some record ↔
      store.visible taskId requestor = some record ∧ record.expired now = false := by
  unfold visible
  rw [record?_sweep]
  simp only [Option.filter_eq_some_iff,Bool.not_eq_true']
  constructor
  · rintro ⟨⟨found,kept⟩,mine⟩
    exact ⟨⟨found,mine⟩,kept⟩
  · rintro ⟨⟨found,mine⟩,kept⟩
    exact ⟨⟨found,kept⟩,mine⟩

/-- A look at a running record of the requestor's finds it running. -/
theorem tryResult_running {store : TaskStore} {now : SystemTime} {taskId : String}
    {requestor : Requestor} {record : TaskRecord}
    (seen : store.visible taskId requestor = some record)
    (running : record.task.status.isTerminal = false) (kept : record.expired now = false) :
    store.tryResult now taskId requestor = (store.sweep now,.ok none) := by
  have still := visible_sweep_some.mpr ⟨seen,kept⟩
  simp [tryResult,still,outcomeOf,running]

/-- A look never reports as running what has finished, or is not there. -/
theorem tryResult_over {store : TaskStore} {taskId : String} {requestor : Requestor}
    (ended : ∀ record, store.visible taskId requestor = some record →
      record.task.status.isTerminal = true) (now : SystemTime) :
    (store.tryResult now taskId requestor).2 ≠ .ok none := by
  unfold tryResult
  simp only
  split
  · simp
  · rename_i record seen
    have terminal := ended record (visible_sweep_some.mp seen).1
    unfold outcomeOf
    rw [if_pos terminal]
    split <;> simp

end TaskStore

end SmlMcps
