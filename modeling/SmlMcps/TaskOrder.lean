import SmlMcps.TaskCapacity
import SmlMcps.TaskListing
import SmlMcps.Timestamps

/-! The order of `tasks/list` against the order of creation. The list is sorted by the
text of the creation times, which has whole seconds, and then by the identifiers, which
are random: of two tasks of one second the smaller identifier comes first, whichever was
created earlier. -/
namespace SmlMcps

namespace StoreRun

/-- The identifier of the first task was drawn before that of the second. -/
def CreatedBefore (run : StoreRun) (earlier later : String) : Prop :=
  [later,earlier].Sublist run.drawn

instance (run : StoreRun) (earlier later : String) : Decidable (run.CreatedBefore earlier later) := by
  unfold CreatedBefore
  infer_instance

/-- The records of a run with a clock that does not go back: dated by the clock, and in
the order of their creation. -/
structure Dated (clock : SystemTime) (run : StoreRun) : Prop where
  filed : run.Filed
  text : ∀ taskId record, run.store.record? taskId = some record →
    record.task.createdAt = iso8601 record.created
  past : ∀ taskId record, run.store.record? taskId = some record → record.created ≤ clock
  inOrder : ∀ idA idB a b, run.CreatedBefore idA idB → run.store.record? idA = some a →
    run.store.record? idB = some b → a.created ≤ b.created

theorem dated_empty (config : TaskConfig) (clock : SystemTime) : (empty config).Dated clock where
  filed := filed_empty config
  text taskId record found := by cases found
  past taskId record found := by cases found
  inOrder idA idB a b _ found := by cases found

/-- A record that is there after a step was there with the same creation time, or is the
one the step creates. -/
theorem created_or_old {run next : StoreRun} {op : StoreOp} (taken : run.step op = some next)
    {taskId : String} {record : TaskRecord} (found : next.store.record? taskId = some record) :
    (∃ old, run.store.record? taskId = some old ∧ SameTask old record) ∨
      op.creates = some taskId ∧ record.created = op.clock ∧
        record.task.createdAt = iso8601 record.created := by
  rw [(stepped taken).store] at found
  rcases (TaskStore.perform_origin found).sameTask with old | ⟨now,requestedTtl,owner,rfl,rfl⟩
  · exact .inl old
  · exact .inr ⟨rfl,rfl,rfl⟩

theorem drawn_eq {run next : StoreRun} {op : StoreOp} (taken : run.step op = some next) :
    next.drawn = op.creates.toList ++ run.drawn := by
  unfold step at taken
  split at taken
  · rename_i none
    cases taken
    rw [none]
    rfl
  · rename_i taskId creates
    split at taken <;> cases taken
    rw [creates]
    rfl

theorem dated_step {run next : StoreRun} {op : StoreOp} {clock : SystemTime}
    (dated : run.Dated clock) (onward : clock ≤ op.clock) (taken : run.step op = some next) :
    next.Dated op.clock where
  filed := filed_step run op next dated.filed taken
  text taskId record found := by
    rcases created_or_old taken found with ⟨old,known,same⟩ | ⟨_,_,text⟩
    · rw [same.createdAt,same.created]
      exact dated.text taskId old known
    · exact text
  past taskId record found := by
    rcases created_or_old taken found with ⟨old,known,same⟩ | ⟨_,now,_⟩
    · rw [same.created]
      exact Int.le_trans (dated.past taskId old known) onward
    · exact Int.le_of_eq now
  inOrder idA idB a b before here there := by
    have new := created_or_old taken here
    unfold CreatedBefore at before
    rw [drawn_eq taken] at before
    rcases created_or_old taken there with ⟨old,known,same⟩ | ⟨creates,now,_⟩
    · -- The later task is an old one; so is the earlier one.
      have fresh : op.creates ≠ some idB := fun creates =>
        (stepped taken).fresh idB creates (dated.filed.drawn idB old known)
      have order : run.CreatedBefore idA idB := by
        cases creates : op.creates with
        | none =>
          rw [creates] at before
          exact before
        | some taskId =>
          rw [creates] at before
          rcases List.sublist_cons_iff.mp before with earlier | ⟨rest,same,_⟩
          · exact earlier
          · cases same
            exact absurd creates fresh
      have drawn : idA ∈ run.drawn := order.subset (by simp)
      rcases new with ⟨old',known',same'⟩ | ⟨creates,_,_⟩
      · rw [same.created,same'.created]
        exact dated.inOrder idA idB old' old order known' known
      · exact absurd drawn ((stepped taken).fresh idA creates)
    · rw [now]
      rcases new with ⟨old',known',same'⟩ | ⟨_,now',_⟩
      · rw [same'.created]
        exact Int.le_trans (dated.past idA old' known') onward
      · exact Int.le_of_eq now'

theorem dated_of_run {config : TaskConfig} {ops : List StoreOp} {run : StoreRun}
    (reached : Runs.execute step (.empty config) ops = some run)
    (clocks : (ops.map StoreOp.clock).Pairwise (· ≤ ·)) : ∃ clock, run.Dated clock := by
  suffices onwards : ∀ (start : StoreRun) clock, start.Dated clock →
      (∀ op ∈ ops, clock ≤ op.clock) → Runs.execute step start ops = some run →
      ∃ clock, run.Dated clock by
    cases ops with
    | nil =>
      cases reached
      exact ⟨0,dated_empty config 0⟩
    | cons op rest =>
      refine onwards (.empty config) op.clock (dated_empty config _) ?_ reached
      intro other member
      rcases List.mem_cons.mp member with rfl | later
      · exact Int.le_refl _
      · exact (List.pairwise_cons.mp clocks).1 _ (List.mem_map_of_mem later)
  clear reached
  induction ops with
  | nil =>
    intro start clock dated _ reached
    cases reached
    exact ⟨clock,dated⟩
  | cons op rest ih =>
    intro start clock dated bound reached
    rw [Runs.execute_cons,Option.bind_eq_some_iff] at reached
    obtain ⟨next,taken,later⟩ := reached
    obtain ⟨first,others⟩ := List.pairwise_cons.mp clocks
    refine ih others next op.clock (dated_step dated (bound op List.mem_cons_self) taken) ?_ later
    intro other member
    exact first _ (List.mem_map_of_mem member)

end StoreRun

theorem wholeSeconds_le {first second : SystemTime} (le : first ≤ second) :
    wholeSeconds first ≤ wholeSeconds second := by
  unfold wholeSeconds
  by_cases early : first < 0
  · rw [if_pos early]
    exact wholeSeconds_nonneg second
  · rw [if_neg early,if_neg (Int.not_lt.mpr (Int.le_trans (Int.not_lt.mp early) le))]
    exact Int.ediv_le_ediv (by decide) le

/-- Of two tasks that are there the later one is listed first exactly when the text of
its creation time is greater, or the texts are equal and its identifier is smaller. Up
to the year 9999 the texts are ordered as the whole seconds are. -/
theorem newest_first_iff (config : TaskConfig) (ops : List StoreOp) (run : StoreRun)
    (reached : Runs.execute StoreRun.step (.empty config) ops = some run)
    (clocks : (ops.map StoreOp.clock).Pairwise (· ≤ ·)) (now : SystemTime)
    (requestor : Requestor) (idA idB : String) (a b : TaskRecord)
    (before : run.CreatedBefore idA idB)
    (here : (run.store.sweep now).visible idA requestor = some a)
    (there : (run.store.sweep now).visible idB requestor = some b) :
    ([b.task,a.task].Sublist (run.store.list now requestor).2 ↔
      iso8601 a.created < iso8601 b.created ∨
        iso8601 a.created = iso8601 b.created ∧ idB < idA) ∧
    (wholeSeconds b.created < yearTenThousand →
      ([b.task,a.task].Sublist (run.store.list now requestor).2 ↔
        wholeSeconds a.created < wholeSeconds b.created ∨ idB < idA)) := by
  obtain ⟨clock,dated⟩ := StoreRun.dated_of_run reached clocks
  have knownA := (TaskStore.visible_some (TaskStore.visible_sweep_some.mp here).1).1
  have knownB := (TaskStore.visible_some (TaskStore.visible_sweep_some.mp there).1).1
  have exact : [b.task,a.task].Sublist (run.store.list now requestor).2 ↔
      iso8601 a.created < iso8601 b.created ∨
        iso8601 a.created = iso8601 b.created ∧ idB < idA := by
    rw [(TaskStore.list_ordered dated.filed.keyed now requestor).sublist_pair_iff
      (TaskStore.mem_list_iff.mpr ⟨idB,b,there,rfl⟩)
      (TaskStore.mem_list_iff.mpr ⟨idA,a,here,rfl⟩),Task.place_lt_iff,
      dated.text idA a knownA,dated.text idB b knownB,dated.filed.keyed idA a knownA,
      dated.filed.keyed idB b knownB]
    simp only [eq_comm]
  refine ⟨exact,?_⟩
  intro year
  have seconds := wholeSeconds_le (dated.inOrder idA idB a b before knownA knownB)
  have year' : wholeSeconds a.created < yearTenThousand := Int.lt_of_le_of_lt seconds year
  rw [exact,iso8601_lt_iff year' year,iso8601_eq_iff year' year]
  constructor
  · rintro (less | ⟨_,less⟩)
    · exact .inl less
    · exact .inr less
  · rintro (less | less)
    · exact .inl less
    · rcases Int.lt_or_eq_of_le seconds with earlier | same
      · exact .inl earlier
      · exact .inr ⟨same,less⟩

/-- Two tasks two seconds apart. -/
def secondsApart : List StoreOp :=
  [.create 0 "a" none none,.create 2000000000 "b" none none]

theorem secondsApart_newest_first :
    ∃ run a b, Runs.execute StoreRun.step (.empty .default) secondsApart = some run ∧
      (run.store.sweep 2000000000).visible "a" none = some a ∧
      (run.store.sweep 2000000000).visible "b" none = some b ∧
      [b.task,a.task].Sublist (run.store.list 2000000000 none).2 := by
  refine ⟨_,_,_,rfl,rfl,rfl,?_⟩
  refine ((newest_first_iff .default secondsApart _ rfl (by decide) 2000000000 none "a" "b" _ _
    (by decide) rfl rfl).2 (by decide)).mpr ?_
  exact .inl (by decide)

/-- Two tasks of one second, the later one with the greater identifier. -/
theorem sameSecond_oldest_first :
    ∃ run a b, Runs.execute StoreRun.step (.empty .default)
        [.create 0 "a" none none,.create 1 "b" none none] = some run ∧
      run.CreatedBefore "a" "b" ∧
      (run.store.sweep 2).visible "a" none = some a ∧
      (run.store.sweep 2).visible "b" none = some b ∧
      ¬[b.task,a.task].Sublist (run.store.list 2 none).2 :=
  ⟨_,_,_,rfl,by decide,rfl,rfl,by decide +kernel⟩

end SmlMcps
