import SmlMcps.Library.Listing
import SmlMcps.TaskLifecycle

/-! What `tasks/list` shows: the requestor's records, each once, in the order of the
text of their creation times, latest first, and then of their identifiers. -/
namespace SmlMcps

/-- A task's place in a listing, which never changes. -/
def Task.place (task : Task) : Stringᵒᵈ ×ₗ String :=
  toLex (OrderDual.toDual task.createdAt,task.taskId)

theorem Task.place_lt_iff {a b : Task} : a.place < b.place ↔
    b.createdAt < a.createdAt ∨ a.createdAt = b.createdAt ∧ a.taskId < b.taskId := by
  simp only [Task.place,Prod.Lex.toLex_lt_toLex,OrderDual.toDual_lt_toDual]
  constructor
  · rintro (later | ⟨same,less⟩)
    · exact .inl later
    · exact .inr ⟨OrderDual.toDual.injective same,less⟩
  · rintro (later | ⟨same,less⟩)
    · exact .inl later
    · exact .inr ⟨congrArg OrderDual.toDual same,less⟩

theorem SameTask.place {before after : TaskRecord} (same : SameTask before after) :
    after.task.place = before.task.place := by
  simp only [Task.place,same.createdAt,same.taskId]

namespace TaskStore

theorem newerFirst_iff {a b : Task} : newerFirst a b = true ↔ a.place ≤ b.place := by
  simp only [newerFirst,Task.place,Prod.Lex.toLex_le_toLex,OrderDual.toDual_lt_toDual,
    Bool.or_eq_true,Bool.and_eq_true,decide_eq_true_eq,beq_iff_eq]
  constructor
  · rintro (later | ⟨same,less⟩)
    · exact .inl later
    · exact .inr ⟨congrArg OrderDual.toDual same.symm,less⟩
  · rintro (later | ⟨same,less⟩)
    · exact .inl later
    · exact .inr ⟨(OrderDual.toDual.injective same).symm,less⟩

instance : Std.Total fun a b : Task => newerFirst a b = true :=
  ⟨fun a b => by
    rw [newerFirst_iff,newerFirst_iff]
    exact le_total _ _⟩

instance : IsTrans Task fun a b => newerFirst a b = true :=
  ⟨fun a b c => by
    rw [newerFirst_iff,newerFirst_iff,newerFirst_iff]
    exact le_trans⟩

/-- Every record is filed under its own identifier. -/
def Keyed (store : TaskStore) : Prop :=
  ∀ taskId record, store.record? taskId = some record → record.task.taskId = taskId

theorem keyed_perform {store : TaskStore} (keyed : store.Keyed) (op : StoreOp) :
    (store.perform op).Keyed := by
  intro taskId record found
  rcases (perform_origin found).sameTask with ⟨old,known,same⟩ | ⟨_,_,_,_,rfl⟩
  · rw [same.taskId]
    exact keyed taskId old known
  · rfl

theorem keyed_sweep {store : TaskStore} (keyed : store.Keyed) (now : SystemTime) :
    (store.sweep now).Keyed :=
  keyed_perform keyed (.isEmpty now)

/-- The listing holds what the requestor sees in the swept store. -/
theorem mem_list_iff {store : TaskStore} {now : SystemTime} {requestor : Requestor}
    {task : Task} : task ∈ (store.list now requestor).2 ↔
      ∃ taskId record, (store.sweep now).visible taskId requestor = some record ∧
        record.task = task := by
  simp only [list,List.mem_insertionSort,List.mem_map,List.mem_filter]
  constructor
  · rintro ⟨⟨taskId,record⟩,⟨member,mine⟩,rfl⟩
    refine ⟨taskId,record,?_,rfl⟩
    exact Option.filter_eq_some_iff.mpr ⟨KeyedTable.lookup_eq_some_iff.mpr member,mine⟩
  · rintro ⟨taskId,record,seen,rfl⟩
    obtain ⟨known,mine⟩ := Option.filter_eq_some_iff.mp seen
    exact ⟨⟨taskId,record⟩,⟨KeyedTable.lookup_eq_some_iff.mp known,mine⟩,rfl⟩

theorem list_ids_nodup {store : TaskStore} (keyed : store.Keyed) (now : SystemTime)
    (requestor : Requestor) : ((store.list now requestor).2.map Task.taskId).Nodup := by
  have swept := keyed_sweep keyed now
  simp only [list]
  apply ((List.perm_insertionSort _ _).map Task.taskId).nodup_iff.mpr
  rw [List.map_map]
  have keys : ((store.sweep now).tasks.entries.filter fun entry =>
        entry.2.belongsTo requestor).map (Task.taskId ∘ fun entry => entry.2.task) =
      ((store.sweep now).tasks.entries.filter fun entry =>
        entry.2.belongsTo requestor).map Sigma.fst := by
    apply List.map_congr_left
    intro entry member
    exact swept entry.1 entry.2 (KeyedTable.lookup_eq_some_iff.mpr (List.mem_filter.mp member).1)
  rw [keys]
  exact List.Nodup.sublist (List.filter_sublist.map Sigma.fst) (store.sweep now).tasks.nodupKeys

theorem list_ordered {store : TaskStore} (keyed : store.Keyed) (now : SystemTime)
    (requestor : Requestor) : Listing.Ordered Task.place (store.list now requestor).2 := by
  have sorted : (store.list now requestor).2.Pairwise fun a b => newerFirst a b = true :=
    List.pairwise_insertionSort _ _
  have distinct := List.pairwise_map.mp (list_ids_nodup keyed now requestor)
  refine (sorted.and distinct).imp ?_
  rintro a b ⟨newer,different⟩
  refine lt_of_le_of_ne (newerFirst_iff.mp newer) ?_
  intro same
  exact different (congrArg (fun place : Stringᵒᵈ ×ₗ String => (ofLex place).2) same)

end TaskStore

end SmlMcps
