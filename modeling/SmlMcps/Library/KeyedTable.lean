import Mathlib.Data.List.AList
import Mathlib.Data.List.MinMax
import Mathlib.Data.Prod.Lex
import Mathlib.Data.String.Basic

/-! Keyed tables: association lists without repeated keys, with the two bulk
operations a bounded table needs. `retain` keeps the entries a predicate accepts;
`oldest` is the entry with the least stamp among the eligible ones, the lesser key
first on a tie, and `evict` removes it until the table fits. `count` is how many
entries a predicate accepts, bounded by what one table has of another's entries. -/

abbrev KeyedTable (κ ν : Type) := AList (fun _ : κ => ν)

namespace KeyedTable

variable {κ ν : Type}

def retain (keep : κ → ν → Bool) (table : KeyedTable κ ν) : KeyedTable κ ν :=
  ⟨table.entries.filter fun entry => keep entry.1 entry.2,
    List.Nodup.sublist (List.Sublist.map _ List.filter_sublist) table.nodupKeys⟩

def size (table : KeyedTable κ ν) : Nat := table.entries.length

/-- How many entries a predicate accepts. -/
def count (accepts : κ → ν → Bool) (table : KeyedTable κ ν) : Nat := size (retain accepts table)

theorem size_eq_keys (table : KeyedTable κ ν) : size table = table.keys.length := by
  simp [size,AList.keys,List.keys]

theorem count_true (table : KeyedTable κ ν) : count (fun _ _ => true) table = size table := by
  simp [count,size,retain]

variable [DecidableEq κ]

@[simp] theorem lookup_empty (key : κ) : AList.lookup key (∅ : KeyedTable κ ν) = none := rfl

theorem lookup_eq_some_iff {key : κ} {value : ν} {table : KeyedTable κ ν} :
    table.lookup key = some value ↔ (⟨key,value⟩ : Σ _ : κ, ν) ∈ table.entries :=
  AList.mem_lookup_iff

/-- Retaining never changes a surviving entry and keeps exactly the accepted ones. -/
theorem lookup_retain (keep : κ → ν → Bool) (table : KeyedTable κ ν) (key : κ) :
    AList.lookup key (retain keep table) = (table.lookup key).filter (keep key) := by
  ext value
  rw [lookup_eq_some_iff,Option.filter_eq_some_iff,lookup_eq_some_iff]
  simp [retain]

theorem lookup_insert_eq (key other : κ) (value : ν) (table : KeyedTable κ ν) :
    AList.lookup other (table.insert key value) =
      if other = key then some value else table.lookup other := by
  split
  · rename_i same
    subst same
    exact AList.lookup_insert _
  · rename_i different
    exact AList.lookup_insert_ne different

theorem lookup_erase_eq (key other : κ) (table : KeyedTable κ ν) :
    AList.lookup other (table.erase key) = if other = key then none else table.lookup other := by
  split
  · rename_i same
    subst same
    exact AList.lookup_erase _ _
  · rename_i different
    exact AList.lookup_erase_ne different

/-! ## Counting -/

theorem mem_keys_iff {key : κ} {table : KeyedTable κ ν} :
    key ∈ table.keys ↔ ∃ value, AList.lookup key table = some value := by
  rw [← AList.mem_keys,← AList.lookup_isSome,Option.isSome_iff_exists]

/-- Entries that one table has under keys of another's are no more than the other's. -/
theorem count_le {accepts admits : κ → ν → Bool} {table larger : KeyedTable κ ν}
    (found : ∀ key value, AList.lookup key table = some value → accepts key value = true →
      ∃ other, AList.lookup key larger = some other ∧ admits key other = true) :
    count accepts table ≤ count admits larger := by
  unfold count
  rw [size_eq_keys,size_eq_keys]
  apply List.Subperm.length_le
  apply List.subperm_of_subset (AList.keys_nodup _)
  intro key member
  obtain ⟨value,kept⟩ := mem_keys_iff.mp member
  rw [lookup_retain,Option.filter_eq_some_iff] at kept
  obtain ⟨other,present,admitted⟩ := found key value kept.1 kept.2
  apply mem_keys_iff.mpr
  exact ⟨other,by rw [lookup_retain,present]; simp [Option.filter,admitted]⟩

/-- Distinct keys of accepted entries are no more than there are such entries. -/
theorem length_le_count {accepts : κ → ν → Bool} {table : KeyedTable κ ν} {keys : List κ}
    (distinct : keys.Nodup) (found : ∀ key ∈ keys, ∃ value,
      AList.lookup key table = some value ∧ accepts key value = true) :
    keys.length ≤ count accepts table := by
  unfold count
  rw [size_eq_keys]
  apply List.Subperm.length_le
  apply List.subperm_of_subset distinct
  intro key member
  obtain ⟨value,present,accepted⟩ := found key member
  apply mem_keys_iff.mpr
  exact ⟨value,by rw [lookup_retain,present]; simp [Option.filter,accepted]⟩

theorem size_le {table larger : KeyedTable κ ν} (found : ∀ key value,
    AList.lookup key table = some value → ∃ other, AList.lookup key larger = some other) :
    size table ≤ size larger := by
  rw [← count_true,← count_true]
  apply count_le
  intro key value present _
  obtain ⟨other,there⟩ := found key value present
  exact ⟨other,there,rfl⟩

theorem size_erase {key : κ} {value : ν} {table : KeyedTable κ ν}
    (present : AList.lookup key table = some value) :
    size (table.erase key) + 1 = size table := by
  have member : key ∈ table.keys := mem_keys_iff.mpr ⟨value,present⟩
  rw [size_eq_keys,size_eq_keys,AList.keys_erase,List.length_erase_of_mem member]
  have := List.length_pos_of_mem member
  omega

theorem size_insert_new {key : κ} {value : ν} {table : KeyedTable κ ν}
    (absent : AList.lookup key table = none) : size (table.insert key value) = size table + 1 := by
  have missing : key ∉ table := AList.lookup_eq_none.mp absent
  rw [size,AList.entries_insert_of_notMem missing]
  rfl

theorem size_insert (key : κ) (value : ν) (table : KeyedTable κ ν) :
    size (table.insert key value) =
      if (table.lookup key).isSome then size table else size table + 1 := by
  cases found : table.lookup key with
  | none => exact size_insert_new found
  | some old =>
    have erased := size_erase found
    have length : size (table.insert key value) = size (table.erase key) + 1 := rfl
    rw [length,erased]
    rfl

/-- Inserting under a new key adds at most one to a count. -/
theorem count_insert_le (accepts : κ → ν → Bool) {key : κ} {value : ν} {table : KeyedTable κ ν}
    (absent : AList.lookup key table = none) :
    count accepts (table.insert key value) ≤ count accepts table + 1 := by
  have missing : key ∉ table := AList.lookup_eq_none.mp absent
  unfold count size retain
  simp only [AList.entries_insert_of_notMem missing,List.filter_cons]
  split <;> simp

variable {τ : Type} [LinearOrder κ] [LinearOrder τ]

/-- The eligible entry with the least stamp, ties broken by the key. -/
def oldest (eligible : κ → ν → Bool) (stamp : ν → τ) (table : KeyedTable κ ν) : Option κ :=
  ((table.entries.filter fun entry => eligible entry.1 entry.2).argmin
    fun entry => toLex (stamp entry.2,entry.1)).map Sigma.fst

/-- The oldest entry is there, is eligible, and no eligible one comes before it. -/
theorem oldest_some {eligible : κ → ν → Bool} {stamp : ν → τ} {table : KeyedTable κ ν} {key : κ}
    (chosen : oldest eligible stamp table = some key) :
    ∃ value, AList.lookup key table = some value ∧ eligible key value = true ∧
      ∀ other newer, AList.lookup other table = some newer → eligible other newer = true →
        toLex (stamp value,key) ≤ toLex (stamp newer,other) := by
  obtain ⟨⟨found,value⟩,least,rfl⟩ := Option.map_eq_some_iff.mp chosen
  have member := List.mem_filter.mp (List.argmin_mem least)
  refine ⟨value,lookup_eq_some_iff.mpr member.1,member.2,?_⟩
  intro other newer present qualifies
  have candidate : (⟨other,newer⟩ : Σ _ : κ, ν) ∈
      table.entries.filter fun entry => eligible entry.1 entry.2 :=
    List.mem_filter.mpr ⟨lookup_eq_some_iff.mp present,qualifies⟩
  have ordered := @List.le_of_mem_argmin _ _ _
    (fun entry : Σ _ : κ, ν => toLex (stamp entry.2,entry.1)) _ _ _ candidate least
  exact ordered

/-- Remove oldest entries until at most `limit` remain. The fuel is the table's size,
which `evict` supplies: every round removes one entry. -/
def evictWith (stamp : ν → τ) (limit : Nat) : Nat → KeyedTable κ ν → KeyedTable κ ν
  | 0, table => table
  | fuel + 1, table =>
    if limit < size table then
      match oldest (fun _ _ => true) stamp table with
      | some key => evictWith stamp limit fuel (table.erase key)
      | none => table
    else table

def evict (stamp : ν → τ) (limit : Nat) (table : KeyedTable κ ν) : KeyedTable κ ν :=
  evictWith stamp limit (size table) table

/-- Eviction only removes entries. -/
theorem lookup_evict (stamp : ν → τ) (limit : Nat) (table : KeyedTable κ ν) (key : κ) :
    AList.lookup key (evict stamp limit table) = none ∨
      AList.lookup key (evict stamp limit table) = table.lookup key := by
  suffices general : ∀ fuel (current : KeyedTable κ ν),
      AList.lookup key (evictWith stamp limit fuel current) = none ∨
      AList.lookup key (evictWith stamp limit fuel current) = current.lookup key from
    general _ table
  intro fuel
  induction fuel with
  | zero => exact fun _ => .inr rfl
  | succ fuel ih =>
    intro current
    simp only [evictWith]
    split
    · split
      · rename_i victim _
        rcases ih (current.erase victim) with gone | kept
        · exact .inl gone
        · rw [lookup_erase_eq] at kept
          split at kept
          · exact .inl kept
          · exact .inr kept
      · exact .inr rfl
    · exact .inr rfl

end KeyedTable
