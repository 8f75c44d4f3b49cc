import SmlMcps.TaskLifecycle

/-! Capacity of the task store. A creation sweeps, counts its requestor's running tasks,
makes room and files its record, and may give up between any two of these. What it
leaves is within both limits, and what it drops is expired, or finished and oldest. -/
namespace SmlMcps

namespace TaskStore

def size (store : TaskStore) : Nat := KeyedTable.size store.tasks

/-- The number of records a store may hold. -/
def capacity (config : TaskConfig) : Nat := max config.maxRecords 1

def counted (requestor : Requestor) (_taskId : String) (record : TaskRecord) : Bool :=
  !record.task.status.isTerminal && record.belongsTo requestor

theorem running_eq_count (requestor : Requestor) (store : TaskStore) :
    store.running requestor = KeyedTable.count (counted requestor) store.tasks := rfl

theorem counted_iff {requestor : Requestor} {taskId : String} {record : TaskRecord} :
    counted requestor taskId record = true ↔
      record.task.status.isTerminal = false ∧ record.owner = requestor := by
  simp [counted,TaskRecord.belongsTo]

/-- A store whose running records were running in another has no more of them. -/
theorem running_le {requestor : Requestor} {store larger : TaskStore}
    (found : ∀ taskId record, store.record? taskId = some record →
      record.task.status.isTerminal = false → ∃ other, larger.record? taskId = some other ∧
        other.task.status.isTerminal = false ∧ other.owner = record.owner) :
    store.running requestor ≤ larger.running requestor := by
  rw [running_eq_count,running_eq_count]
  apply KeyedTable.count_le
  intro taskId record present accepted
  obtain ⟨running,owned⟩ := counted_iff.mp accepted
  obtain ⟨other,there,still,same⟩ := found taskId record present running
  exact ⟨other,there,counted_iff.mpr ⟨still,same.trans owned⟩⟩

theorem running_sweep_le (requestor : Requestor) (store : TaskStore) (now : SystemTime) :
    (store.sweep now).running requestor ≤ store.running requestor := by
  apply running_le
  intro taskId record found running
  exact ⟨record,(record?_sweep_some found).1,running,rfl⟩

/-- A new record is one more for its owner at most. -/
theorem running_update_le {store : TaskStore} {taskId : String} {record : TaskRecord}
    (absent : store.record? taskId = none) (requestor : Requestor) :
    (store.update taskId record).running requestor ≤ store.running requestor + 1 :=
  KeyedTable.count_insert_le (counted requestor) absent

theorem running_update_other {store : TaskStore} {taskId : String} {record : TaskRecord}
    {requestor : Requestor} (other : record.owner ≠ requestor) :
    (store.update taskId record).running requestor ≤ store.running requestor := by
  rw [running_eq_count,running_eq_count]
  apply KeyedTable.count_le
  intro filed found there accepted
  rcases record?_update_some there with ⟨_,rfl⟩ | ⟨_,old⟩
  · exact absurd (counted_iff.mp accepted).2 other
  · exact ⟨found,old,accepted⟩

theorem size_sweep_le (store : TaskStore) (now : SystemTime) :
    (store.sweep now).size ≤ store.size := by
  apply KeyedTable.size_le
  intro taskId record found
  exact ⟨record,(record?_sweep_some found).1⟩

/-! ## Making room -/

/-- Room was made for one more record, by dropping finished ones, the oldest first, and
no more of them than it takes. -/
structure RoomMade (limit : Nat) (tasks roomy : KeyedTable String TaskRecord) : Prop where
  kept : ∀ taskId record, AList.lookup taskId roomy = some record →
    AList.lookup taskId tasks = some record
  size : KeyedTable.size roomy = min (KeyedTable.size tasks) (limit - 1)
  victims : ∀ taskId record, AList.lookup taskId tasks = some record →
    AList.lookup taskId roomy = none → record.task.status.isTerminal = true ∧
      ∀ survivor other, AList.lookup survivor roomy = some other →
        other.task.status.isTerminal = true →
        toLex (record.created,taskId) ≤ toLex (other.created,survivor)

theorem roomMade_refl {limit : Nat} {tasks : KeyedTable String TaskRecord}
    (fits : KeyedTable.size tasks < limit) : RoomMade limit tasks tasks where
  kept taskId record found := found
  size := by omega
  victims taskId record found gone := by
    rw [found] at gone
    cases gone

theorem roomMade_erase {limit : Nat} {tasks roomy : KeyedTable String TaskRecord}
    {victim : String} (full : limit ≤ KeyedTable.size tasks) (positive : 0 < limit)
    (chosen : KeyedTable.oldest (fun _ record => record.task.status.isTerminal)
      TaskRecord.created tasks = some victim)
    (later : RoomMade limit (tasks.erase victim) roomy) : RoomMade limit tasks roomy := by
  obtain ⟨evicted,present,terminal,least⟩ := KeyedTable.oldest_some chosen
  have smaller := KeyedTable.size_erase present
  have kept : ∀ taskId record, AList.lookup taskId roomy = some record →
      AList.lookup taskId tasks = some record := by
    intro taskId record found
    have before := later.kept taskId record found
    rw [KeyedTable.lookup_erase_eq] at before
    split at before
    · cases before
    · exact before
  refine ⟨kept,?_,?_⟩
  · have := later.size
    omega
  · intro taskId record found gone
    by_cases here : taskId = victim
    · subst here
      rw [present] at found
      cases found
      refine ⟨terminal,?_⟩
      intro survivor other stays finished
      exact least survivor other (kept survivor other stays) finished
    · apply later.victims taskId record _ gone
      rw [KeyedTable.lookup_erase_eq,if_neg here]
      exact found

theorem makeRoomWith_ok {maxRecords fuel : Nat} {tasks roomy : KeyedTable String TaskRecord}
    (enough : KeyedTable.size tasks < fuel)
    (room : makeRoomWith maxRecords fuel tasks = (roomy,.ok ())) :
    RoomMade (max maxRecords 1) tasks roomy := by
  induction fuel generalizing tasks with
  | zero => omega
  | succ fuel ih =>
    simp only [makeRoomWith] at room
    split at room
    · rename_i full
      split at room
      · rename_i victim chosen
        obtain ⟨evicted,present,_⟩ := KeyedTable.oldest_some chosen
        have smaller := KeyedTable.size_erase present
        exact roomMade_erase full (by omega) chosen (ih (by omega) room)
      · cases room
    · rename_i fits
      cases room
      exact roomMade_refl (by omega)

/-- A store that is not above its limit loses nothing to a refusal. -/
theorem makeRoomWith_error {maxRecords fuel : Nat} {tasks roomy : KeyedTable String TaskRecord}
    {e : McpError} (fits : KeyedTable.size tasks ≤ max maxRecords 1)
    (room : makeRoomWith maxRecords fuel tasks = (roomy,.error e)) : roomy = tasks := by
  cases fuel with
  | zero => cases room
  | succ fuel =>
    simp only [makeRoomWith] at room
    split at room
    · split at room
      · rename_i victim chosen
        obtain ⟨evicted,present,_⟩ := KeyedTable.oldest_some chosen
        have smaller := KeyedTable.size_erase present
        cases fuel with
        | zero => cases room
        | succ fuel =>
          have room' : ¬max maxRecords 1 ≤ KeyedTable.size (tasks.erase victim) := by omega
          simp only [makeRoomWith,if_neg room'] at room
          cases room
      · cases room
        rfl
    · cases room

theorem makeRoom_ok {store roomy : TaskStore} (room : store.makeRoom = (roomy,.ok ())) :
    RoomMade (capacity store.config) store.tasks roomy.tasks := by
  apply makeRoomWith_ok (Nat.lt_succ_self (KeyedTable.size store.tasks))
  simp only [makeRoom,Prod.mk.injEq] at room
  rw [← room.1,← room.2]

theorem makeRoom_error {store roomy : TaskStore} {e : McpError}
    (fits : store.size ≤ capacity store.config)
    (room : store.makeRoom = (roomy,.error e)) : roomy = store := by
  simp only [makeRoom,Prod.mk.injEq] at room
  obtain ⟨same,failed⟩ := room
  have unchanged : (makeRoomWith store.config.maxRecords (KeyedTable.size store.tasks + 1)
      store.tasks).1 = store.tasks := makeRoomWith_error fits (Prod.ext rfl failed)
  rw [← same]
  simp only [unchanged]

end TaskStore

/-! ## What an operation keeps -/

/-- The clock reading of an operation. -/
def StoreOp.clock : StoreOp → SystemTime
  | .create now _ _ _ | .get now _ _ | .list now _ | .setStatus now _ _
  | .setStatusMessage now _ _ | .finish now _ _ _ | .cancel now _ _ | .tryResult now _ _
  | .awaitResult now _ _ _ | .isEmpty now | .running now => now

/-- The store is within its limits, whoever is counted. -/
structure TaskStore.WithinLimits (store : TaskStore) : Prop where
  records : store.size ≤ capacity store.config
  running : ∀ owner, store.running owner ≤ store.config.maxConcurrent

namespace TaskStore

theorem withinLimits_new (config : TaskConfig) : (TaskStore.new config).WithinLimits where
  records := Nat.zero_le _
  running _ := Nat.zero_le _

theorem running_perform_le {store : TaskStore} {op : StoreOp} (creates : op.creates = none)
    (owner : Requestor) : (store.perform op).running owner ≤ store.running owner := by
  apply running_le
  intro taskId record found running
  rcases perform_evolves found with ⟨old,known,evolves⟩ | ⟨created,_⟩
  · refine ⟨old,known,?_,evolves.owner.symm⟩
    by_contra finished
    have same := evolves.finished (by simpa using finished)
    rw [same] at running
    exact finished running
  · rw [creates] at created
    cases created

theorem size_perform_le {store : TaskStore} {op : StoreOp} (creates : op.creates = none) :
    (store.perform op).size ≤ store.size := by
  apply KeyedTable.size_le
  intro taskId record found
  rcases perform_evolves found with ⟨old,known,_⟩ | ⟨created,_⟩
  · exact ⟨old,known⟩
  · rw [creates] at created
    cases created

theorem running_roomy_le {store roomy : TaskStore} {room : Except McpError Unit}
    (made : store.makeRoom = (roomy,room)) (requestor : Requestor) :
    roomy.running requestor ≤ store.running requestor :=
  running_le fun _ record found still => ⟨record,roomy_some made found,still,rfl⟩

/-- A creation would pass both the limit per requestor and that on records. -/
def admits (store : TaskStore) (owner : Requestor) : Bool :=
  store.running owner < store.config.maxConcurrent && store.makeRoom.2.toBool

/-- A creation gives nobody a running task more, except its owner if it is admitted. -/
theorem running_create_le {store : TaskStore} {now : SystemTime} {taskId : String}
    (absent : store.record? taskId = none) (requestedTtl : Option Nat) (owner : Option String)
    (requestor : Requestor) :
    (store.perform (.create now taskId requestedTtl owner)).running requestor ≤
        store.running requestor ∨
      requestor = owner ∧ (store.sweep now).admits owner = true ∧
        (store.perform (.create now taskId requestedTtl owner)).running requestor ≤
          (store.sweep now).running requestor + 1 := by
  have swept := running_sweep_le requestor store now
  have spec := store.create_spec now taskId requestedTtl owner
  simp only [perform]
  revert spec
  generalize store.create now taskId requestedTtl owner = result
  intro spec
  cases spec with
  | crowded e limit => exact .inl swept
  | full roomy e below room => exact .inl (Nat.le_trans (running_roomy_le room requestor) swept)
  | opened roomy below room =>
    have fewer := running_roomy_le room requestor
    have gone := roomy_none room absent
    by_cases mine : owner = requestor
    · subst mine
      refine .inr ⟨rfl,?_,?_⟩
      · have free : (store.sweep now).running owner < (store.sweep now).config.maxConcurrent :=
          below
        simp [admits,free,room,Except.toBool]
      · exact Nat.le_trans (running_update_le gone owner) (Nat.succ_le_succ fewer)
    · left
      exact Nat.le_trans (running_update_other mine) (Nat.le_trans fewer swept)

/-- What a creation under an identifier nobody has does to a store within its limits. -/
structure Created (store after : TaskStore) (now : SystemTime) (taskId : String)
    (owner : Option String) (answer : Except McpError (Task × Nat)) : Prop where
  limits : after.WithinLimits
  refused : ∀ e, answer = .error e → after = store.sweep now
  grown : ∀ task, answer = .ok task →
    after.size = min ((store.sweep now).size + 1) (capacity store.config)
  victims : ∀ other record, (store.sweep now).record? other = some record →
    after.record? other = none → record.task.status.isTerminal = true ∧
      ∀ survivor finished, after.record? survivor = some finished →
        finished.task.status.isTerminal = true →
        toLex (record.created,other) ≤ toLex (finished.created,survivor)

theorem created_of_opened {store roomy : TaskStore} (limits : store.WithinLimits)
    {now : SystemTime} {taskId : String} (absent : store.record? taskId = none)
    (requestedTtl : Option Nat) (owner : Option String)
    (below : (store.sweep now).running owner < store.config.maxConcurrent)
    (room : (store.sweep now).makeRoom = (roomy,.ok ())) :
    Created store { roomy.update taskId (store.freshRecord now taskId requestedTtl owner) with
      flags := store.flags ++ [false] } now taskId owner
      (.ok ((store.freshRecord now taskId requestedTtl owner).task,store.flags.length)) := by
  have made := makeRoom_ok room
  have gone := roomy_none room absent
  have config : roomy.config = store.config := by
    have same : roomy = (store.sweep now).makeRoom.1 := by rw [room]
    rw [same]
    rfl
  have grown : size { roomy.update taskId (store.freshRecord now taskId requestedTtl owner)
      with flags := store.flags ++ [false] } =
      min ((store.sweep now).size + 1) (capacity store.config) := by
    have larger : size { roomy.update taskId
        (store.freshRecord now taskId requestedTtl owner) with
        flags := store.flags ++ [false] } = KeyedTable.size roomy.tasks + 1 :=
      KeyedTable.size_insert_new gone
    have shrunk : KeyedTable.size roomy.tasks =
        min (store.sweep now).size (capacity store.config - 1) := made.size
    have positive : 1 ≤ capacity store.config := Nat.le_max_right _ _
    omega
  refine ⟨⟨?_,?_⟩,?_,fun _ _ => grown,?_⟩
  · rw [grown]
    simp only [update,config]
    omega
  · intro someone
    have fewer := running_roomy_le room someone
    have swept := Nat.le_trans (running_sweep_le someone store now) (limits.running someone)
    have bounded : (roomy.update taskId (store.freshRecord now taskId requestedTtl
        owner)).running someone ≤ store.config.maxConcurrent := by
      by_cases mine : owner = someone
      · subst mine
        exact Nat.le_trans (running_update_le gone owner)
          (Nat.le_trans (Nat.succ_le_succ fewer) below)
      · exact Nat.le_trans (running_update_other mine) (Nat.le_trans fewer swept)
    rw [← config] at bounded
    exact bounded
  · intro e ended
    cases ended
  · intro other record found missing
    have lost : roomy.record? other = none := by
      have filed := (record?_update roomy taskId other
        (store.freshRecord now taskId requestedTtl owner)).symm.trans missing
      split at filed
      · cases filed
      · exact filed
    obtain ⟨terminal,least⟩ := made.victims other record found lost
    refine ⟨terminal,?_⟩
    intro survivor finished stays ended
    rcases record?_update_some stays with ⟨_,rfl⟩ | ⟨_,there⟩
    · cases ended
    · exact least survivor finished there ended

theorem created_of_limits {store : TaskStore} (limits : store.WithinLimits) (now : SystemTime)
    {taskId : String} (absent : store.record? taskId = none) (requestedTtl : Option Nat)
    (owner : Option String) :
    Created store (store.create now taskId requestedTtl owner).1 now taskId owner
      (store.create now taskId requestedTtl owner).2 := by
  have spec := store.create_spec now taskId requestedTtl owner
  revert spec
  generalize store.create now taskId requestedTtl owner = result
  intro spec
  have fits : (store.sweep now).size ≤ capacity store.config :=
    Nat.le_trans (size_sweep_le store now) limits.records
  have swept : (store.sweep now).WithinLimits :=
    ⟨fits,fun owner => Nat.le_trans (running_sweep_le owner store now) (limits.running owner)⟩
  -- A refusal leaves the swept store, so that nothing is missing from it.
  have unchanged (e : McpError) : Created store (store.sweep now) now taskId owner (.error e) := by
    refine ⟨swept,fun _ _ => rfl,?_,?_⟩
    · intro task ended
      cases ended
    · intro other record found gone
      rw [found] at gone
      cases gone
  cases spec with
  | crowded e limit => exact unchanged e
  | full roomy e below room =>
    have same := makeRoom_error fits room
    subst same
    exact unchanged e
  | opened roomy below room => exact created_of_opened limits absent requestedTtl owner below room

/-! ## What is lost -/

theorem expired_of_swept {store : TaskStore} {now : SystemTime} {taskId : String}
    {record : TaskRecord} (known : store.record? taskId = some record)
    (gone : (store.sweep now).record? taskId = none) : record.expired now = true := by
  rw [record?_sweep,known] at gone
  by_contra kept
  simp [Option.filter,kept] at gone

theorem not_lost_update {store : TaskStore} {filed taskId : String} {new record : TaskRecord}
    (known : store.record? taskId = some record) :
    (store.update filed new).record? taskId ≠ none := by
  rw [record?_update]
  split
  · simp
  · simp [known]

/-- An operation that creates nothing loses a record only to its lifetime. -/
theorem expired_of_lost {store : TaskStore} {op : StoreOp} (creates : op.creates = none)
    {taskId : String} {record : TaskRecord} (known : store.record? taskId = some record)
    (gone : (store.perform op).record? taskId = none) : record.expired op.clock = true := by
  have kept (same : store.perform op = store) : record.expired op.clock = true := by
    rw [same,known] at gone
    cases gone
  cases op with
  | create => cases creates
  | get now filed requestor =>
    rw [perform,get_store] at gone
    exact expired_of_swept known gone
  | list now requestor => exact expired_of_swept known gone
  | setStatus now filed status =>
    simp only [perform,setStatus] at gone kept
    split at gone
    · rename_i ending
      exact kept (by rw [if_pos ending])
    · split at gone
      · rw [known] at gone
        cases gone
      · split at gone
        · exact absurd gone (not_lost_update known)
        · rw [known] at gone
          cases gone
  | setStatusMessage now filed message =>
    simp only [perform,setStatusMessage] at gone
    split at gone
    · rw [known] at gone
      cases gone
    · split at gone
      · rw [known] at gone
        cases gone
      · exact absurd gone (not_lost_update known)
  | finish now filed status outcome =>
    simp only [perform,finish] at gone
    split at gone
    · rw [known] at gone
      cases gone
    · split at gone
      · rw [known] at gone
        cases gone
      · exact absurd gone (not_lost_update known)
  | cancel now filed requestor =>
    apply expired_of_swept known
    by_contra stays
    obtain ⟨swept,there⟩ := Option.ne_none_iff_exists'.mp stays
    simp only [perform,cancel] at gone
    split at gone
    · exact stays gone
    · split at gone
      · exact stays gone
      · exact not_lost_update there gone
  | tryResult now filed requestor =>
    rw [perform,tryResult_store] at gone
    exact expired_of_swept known gone
  | awaitResult now filed requestor expired =>
    rw [perform,awaitResultOnce_store] at gone
    exact expired_of_swept known gone
  | isEmpty now => exact expired_of_swept known gone
  | running now => exact expired_of_swept known gone

end TaskStore

/-! ## Every run -/

namespace StoreRun

theorem limits_step (run : StoreRun) (op : StoreOp) (next : StoreRun)
    (valid : run.Filed ∧ run.store.WithinLimits) (taken : run.step op = some next) :
    next.Filed ∧ next.store.WithinLimits := by
  refine ⟨filed_step run op next valid.1 taken,?_⟩
  have effect := stepped taken
  rw [effect.store]
  cases creates : op.creates with
  | none =>
    refine ⟨?_,?_⟩
    · rw [TaskStore.perform_config]
      exact Nat.le_trans (TaskStore.size_perform_le creates) valid.2.records
    · intro owner
      rw [TaskStore.perform_config]
      exact Nat.le_trans (TaskStore.running_perform_le creates owner) (valid.2.running owner)
  | some taskId =>
    have absent := valid.1.absent taken creates
    cases op with
    | create now filed requestedTtl owner =>
      cases creates
      exact (TaskStore.created_of_limits valid.2 now absent requestedTtl owner).limits
    | get | list | setStatus | setStatusMessage | finish | cancel | tryResult | awaitResult |
      isEmpty | running => cases creates

theorem limits_of_run {config : TaskConfig} {ops : List StoreOp} {run : StoreRun}
    (reached : Runs.execute step (.empty config) ops = some run) :
    run.Filed ∧ run.store.WithinLimits :=
  Runs.invariant limits_step reached ⟨filed_empty config,TaskStore.withinLimits_new config⟩

theorem config_of_run {config : TaskConfig} {ops : List StoreOp} {run : StoreRun}
    (reached : Runs.execute step (.empty config) ops = some run) : run.store.config = config := by
  have preserved : ∀ run op next, run.store.config = config → step run op = some next →
      next.store.config = config := by
    intro run op next same taken
    rw [(stepped taken).store,TaskStore.perform_config,same]
  exact Runs.invariant preserved reached rfl

end StoreRun

/-- A step within the capacity of its store: the limits hold after it, a running record
is lost only to its lifetime, and a creation drops finished records only, the oldest
first and no more than needed, and none if it is refused. -/
structure CapacityKept (config : TaskConfig) (before after : TaskStore) (op : StoreOp) :
    Prop where
  records : after.size ≤ max config.maxRecords 1
  running : ∀ now taskId requestedTtl owner, op = .create now taskId requestedTtl owner →
    after.running owner ≤ config.maxConcurrent
  lost : ∀ taskId record, before.record? taskId = some record →
    record.task.status.isTerminal = false → after.record? taskId = none →
    record.expired op.clock = true
  victims : ∀ now taskId requestedTtl owner, op = .create now taskId requestedTtl owner →
    ∀ other record, (before.sweep now).record? other = some record →
      after.record? other = none → record.task.status.isTerminal = true ∧
        ∀ survivor finished, after.record? survivor = some finished →
          finished.task.status.isTerminal = true →
          toLex (record.created,other) ≤ toLex (finished.created,survivor)
  grown : ∀ now taskId requestedTtl owner, op = .create now taskId requestedTtl owner →
    ∀ task, (before.create now taskId requestedTtl owner).2 = .ok task →
      after.size = min ((before.sweep now).size + 1) (max config.maxRecords 1)
  refused : ∀ now taskId requestedTtl owner, op = .create now taskId requestedTtl owner →
    ∀ e, (before.create now taskId requestedTtl owner).2 = .error e → after = before.sweep now

/-- Whatever has happened in a store, the next operation keeps its capacity. -/
theorem capacity_kept (config : TaskConfig) (ops : List StoreOp) (op : StoreOp)
    (before after : StoreRun)
    (reached : Runs.execute StoreRun.step (.empty config) ops = some before)
    (taken : before.step op = some after) : CapacityKept config before.store after.store op := by
  have valid := StoreRun.limits_of_run reached
  have same := StoreRun.config_of_run reached
  have kept := (StoreRun.limits_step before op after valid taken).2
  have effect := (StoreRun.stepped taken).store
  have config' : after.store.config = config := by
    rw [effect,TaskStore.perform_config,same]
  have created (now : SystemTime) (taskId : String) (requestedTtl : Option Nat)
      (owner : Option String) (asked : op = .create now taskId requestedTtl owner) :
      TaskStore.Created before.store after.store now taskId owner
        (before.store.create now taskId requestedTtl owner).2 := by
    subst asked
    rw [effect]
    exact TaskStore.created_of_limits valid.2 now (valid.1.absent taken rfl) requestedTtl owner
  refine ⟨?_,?_,?_,?_,?_,?_⟩
  · rw [← config']
    exact kept.records
  · intro now taskId requestedTtl owner asked
    rw [← config']
    exact kept.running owner
  · intro taskId record known still gone
    cases creates : op.creates with
    | none =>
      rw [effect] at gone
      exact TaskStore.expired_of_lost creates known gone
    | some drawn =>
      cases op with
      | create now filed requestedTtl owner =>
        apply TaskStore.expired_of_swept known
        by_contra stays
        obtain ⟨swept,there⟩ := Option.ne_none_iff_exists'.mp stays
        have old := (TaskStore.record?_sweep_some there).1
        rw [known] at old
        cases old
        have terminal := ((created now filed requestedTtl owner rfl).victims taskId record there
          gone).1
        rw [still] at terminal
        cases terminal
      | get | list | setStatus | setStatusMessage | finish | cancel | tryResult | awaitResult |
        isEmpty | running => cases creates
  · intro now taskId requestedTtl owner asked
    exact (created now taskId requestedTtl owner asked).victims
  · intro now taskId requestedTtl owner asked task succeeded
    rw [← same]
    exact (created now taskId requestedTtl owner asked).grown task succeeded
  · intro now taskId requestedTtl owner asked e failed
    exact (created now taskId requestedTtl owner asked).refused e failed

/-- A full store with one finished record: the next creation takes its place. -/
def crowdedOps : List StoreOp :=
  [.create 0 "first" none none,.create 1 "second" none none,
    .finish 2 "second" .completed (.value .null)]

theorem crowdedOps_capacity :
    ∃ before after, Runs.execute StoreRun.step (.empty { TaskConfig.default with maxRecords := 2 })
        crowdedOps = some before ∧ before.step (.create 3 "third" none none) = some after ∧
      after.store.size ≤ 2 ∧ after.store.record? "second" = none := by
  refine ⟨_,_,rfl,rfl,?_,by decide +kernel⟩
  exact (capacity_kept { TaskConfig.default with maxRecords := 2 } crowdedOps
    (.create 3 "third" none none) _ _ rfl rfl).records

end SmlMcps
