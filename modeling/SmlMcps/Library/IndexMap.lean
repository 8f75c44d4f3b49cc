import SmlMcps.Library.KeyedTable

/-! Maps that keep the order in which their keys came, as lists of pairs: a key that is
there keeps its place when it gets another value. -/
namespace IndexMap

variable {κ ν μ : Type} [DecidableEq κ]

def insert (key : κ) (value : ν) : List (κ × ν) → List (κ × ν)
  | [] => [(key,value)]
  | (k,old) :: rest => if k = key then (k,value) :: rest else (k,old) :: insert key value rest

def remove (key : κ) (entries : List (κ × ν)) : List (κ × ν) :=
  entries.filter fun entry => entry.1 ≠ key

theorem lookup_insert (key other : κ) (value : ν) (entries : List (κ × ν)) :
    (insert key value entries).lookup other =
      if other = key then some value else entries.lookup other := by
  induction entries with
  | nil =>
    rw [insert,List.lookup_cons,List.lookup_nil]
    by_cases same : other = key
    · simp [same]
    · simp [same,beq_false_of_ne same]
  | cons entry rest ih =>
    obtain ⟨k,old⟩ := entry
    by_cases here : k = key
    · subst here
      by_cases same : other = k
      · simp [insert,same]
      · simp [insert,List.lookup_cons,same,beq_false_of_ne same]
    · rw [insert,if_neg here,List.lookup_cons,List.lookup_cons,ih]
      by_cases first : other = k
      · simp [first,here]
      · simp [beq_false_of_ne first]

@[simp] theorem lookup_insert_self (key : κ) (value : ν) (entries : List (κ × ν)) :
    (insert key value entries).lookup key = some value := by simp [lookup_insert]

theorem lookup_insert_ne {key other : κ} (different : other ≠ key) (value : ν)
    (entries : List (κ × ν)) : (insert key value entries).lookup other = entries.lookup other := by
  simp [lookup_insert,different]

/-- The last value wins, in the place of the first. -/
theorem insert_insert (key : κ) (value other : ν) (entries : List (κ × ν)) :
    insert key value (insert key other entries) = insert key value entries := by
  induction entries with
  | nil => simp [insert]
  | cons entry rest ih =>
    obtain ⟨k,old⟩ := entry
    by_cases here : k = key
    · simp [insert,here]
    · simp [insert,here,ih]

theorem lookup_remove (key other : κ) (entries : List (κ × ν)) :
    (remove key entries).lookup other = if other = key then none else entries.lookup other := by
  induction entries with
  | nil => simp [remove]
  | cons entry rest ih =>
    obtain ⟨k,value⟩ := entry
    by_cases here : k = key
    · have dropped : remove key ((k,value) :: rest) = remove key rest := by simp [remove,here]
      rw [dropped,ih,List.lookup_cons,here]
      by_cases same : other = key
      · simp [same]
      · simp [same,beq_false_of_ne same]
    · have kept : remove key ((k,value) :: rest) = (k,value) :: remove key rest := by
        simp [remove,here]
      rw [kept,List.lookup_cons,List.lookup_cons,ih]
      by_cases first : other = k
      · simp [first,here]
      · simp [beq_false_of_ne first]

theorem length_insert (key : κ) (value : ν) (entries : List (κ × ν)) :
    (insert key value entries).length =
      if (entries.lookup key).isSome then entries.length else entries.length + 1 := by
  induction entries with
  | nil => rfl
  | cons entry rest ih =>
    obtain ⟨k,old⟩ := entry
    by_cases here : k = key
    · simp [insert,here]
    · have other : (key == k) = false := beq_false_of_ne (Ne.symm here)
      rw [insert,if_neg here,List.length_cons,ih,List.lookup_cons,other]
      split <;> simp

/-- The list has the keys of the table, and what `f` makes of its values. -/
structure Mirrors (f : ν → μ) (entries : List (κ × μ)) (table : KeyedTable κ ν) : Prop where
  length : entries.length = KeyedTable.size table
  lookup : ∀ key, entries.lookup key = (table.lookup key).map f

theorem Mirrors.empty (f : ν → μ) : Mirrors f ([] : List (κ × μ)) ∅ := ⟨rfl,fun _ => rfl⟩

theorem Mirrors.insert {f : ν → μ} {entries : List (κ × μ)} {table : KeyedTable κ ν}
    (mirrors : Mirrors f entries table) (key : κ) (value : ν) :
    Mirrors f (insert key (f value) entries) (table.insert key value) where
  length := by
    rw [length_insert,mirrors.lookup,Option.isSome_map,KeyedTable.size_insert,mirrors.length]
  lookup other := by
    rw [lookup_insert,KeyedTable.lookup_insert_eq,mirrors.lookup]
    split <;> rfl

/-- Both get the same pairs, one after another. -/
theorem Mirrors.foldl {f : ν → μ} {entries : List (κ × μ)} {table : KeyedTable κ ν}
    (mirrors : Mirrors f entries table) (pairs : List (κ × ν)) :
    Mirrors f (pairs.foldl (fun entries pair => IndexMap.insert pair.1 (f pair.2) entries) entries)
      (pairs.foldl (fun table pair => AList.insert pair.1 pair.2 table) table) := by
  induction pairs generalizing entries table with
  | nil => exact mirrors
  | cons pair rest ih => exact ih (mirrors.insert pair.1 pair.2)

end IndexMap
