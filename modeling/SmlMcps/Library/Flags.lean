import Mathlib.Data.List.Basic

/-! Flags on a command line. A flag is followed by its value as the next token, or has it
joined on. A line of flags can be read in two ways: by a scan that knows all of them and
steps over the value of each, and by a scan for one flag that looks at every token it does
not take. The two see the same unless a value of another flag is spelt like that one. -/
namespace Flags

/-- How flags are written, alone or with a value joined on. -/
structure Spelling (F α : Type) where
  name : F → α
  join : F → α → α
  spell : α → Option (F × Option α)
  apart : ∀ token flag, spell token = some (flag,none) ↔ token = name flag
  joined : ∀ token flag value, spell token = some (flag,some value) ↔ token = join flag value

/-- A flag with its value. -/
structure Group (F α : Type) where
  flag : F
  value : α
  joined : Bool

/-- What a scan makes of a token. -/
inductive Use (α : Type) where
  | none
  | flag
  | value (value : α)
  | both (value : α)
  deriving DecidableEq

namespace Use

variable {α : Type}

def used : Use α → Bool
  | none => false
  | _ => true

def value? : Use α → Option α
  | value v | both v => some v
  | _ => Option.none

end Use

variable {F α : Type} [DecidableEq F] (spelling : Spelling F α) (flag : F)

namespace Group

def tokens (group : Group F α) : List α :=
  if group.joined then [spelling.join group.flag group.value]
  else [spelling.name group.flag,group.value]

/-- The uses of a group's tokens, when the flag is looked for. -/
def uses (group : Group F α) : List (Use α) :=
  if group.joined then [if group.flag = flag then .both group.value else .none]
  else if group.flag = flag then [.flag,.value group.value]
  else [.none,.none]

end Group

def valuesOf (groups : List (Group F α)) : List α :=
  (groups.filter fun group => group.flag = flag).map Group.value

/-- Look for one flag, at every token that is not its value. -/
def scan : List α → List (Use α)
  | [] => []
  | token :: rest =>
    match spelling.spell token with
    | some (other,some value) => (if other = flag then .both value else .none) :: scan rest
    | some (other,none) =>
      if other = flag then
        match rest with
        | [] => [.flag]
        | value :: rest => .flag :: .value value :: scan rest
      else .none :: scan rest
    | none => .none :: scan rest

/-- Look for one flag, stepping over the values of the others. -/
def skim : List α → List (Use α)
  | [] => []
  | token :: rest =>
    match spelling.spell token with
    | some (other,some value) => (if other = flag then .both value else .none) :: skim rest
    | some (other,none) =>
      match rest with
      | [] => [if other = flag then .flag else .none]
      | value :: rest =>
        if other = flag then .flag :: .value value :: skim rest
        else .none :: .none :: skim rest
    | none => .none :: skim rest

/-- The token is the flag, alone or with a value. -/
def spells (token : α) : Bool := (spelling.spell token).any fun spelt => spelt.1 = flag

/-- Another flag, read in its turn, is given this flag for its value. -/
def swallows : List α → Bool
  | [] => false
  | token :: rest =>
    match spelling.spell token with
    | some (other,none) =>
      match rest with
      | [] => false
      | value :: rest => (other ≠ flag && spells spelling flag value) || swallows rest
    | _ => swallows rest

variable {spelling flag} {groups : List (Group F α)} {token value : α} {rest : List α}

/-! ## One token -/

theorem scan_joined {other : F} (spelt : spelling.spell token = some (other,some value)) :
    scan spelling flag (token :: rest) =
      (if other = flag then .both value else .none) :: scan spelling flag rest := by
  rw [scan.eq_def]
  simp only [spelt]

theorem scan_apart {other : F} (spelt : spelling.spell token = some (other,none)) :
    scan spelling flag (token :: value :: rest) =
      if other = flag then .flag :: .value value :: scan spelling flag rest
      else .none :: scan spelling flag (value :: rest) := by
  rw [scan.eq_def]
  simp only [spelt]

theorem scan_other (other : spells spelling flag token = false) :
    scan spelling flag (token :: rest) = .none :: scan spelling flag rest := by
  cases spelt : spelling.spell token with
  | none =>
    rw [scan.eq_def]
    simp only [spelt]
  | some found =>
    obtain ⟨found,joined⟩ := found
    have different : found ≠ flag := by simpa [spells,spelt] using other
    cases joined with
    | some value => rw [scan_joined spelt,if_neg different]
    | none =>
      rw [scan.eq_def]
      simp only [spelt,if_neg different]

/-- A token that is the flag is used. -/
theorem scan_spells (spelt : spells spelling flag token = true) :
    ∃ use uses, scan spelling flag (token :: rest) = use :: uses ∧ use.used = true := by
  cases found : spelling.spell token with
  | none => simp [spells,found] at spelt
  | some found' =>
    obtain ⟨other,joined⟩ := found'
    obtain rfl : other = flag := by simpa [spells,found] using spelt
    cases joined with
    | some value =>
      refine ⟨.both value,scan spelling other rest,?_,rfl⟩
      rw [scan_joined found,if_pos rfl]
    | none =>
      cases rest with
      | nil =>
        refine ⟨.flag,[],?_,rfl⟩
        rw [scan.eq_def]
        simp only [found,if_true]
      | cons value rest =>
        refine ⟨.flag,.value value :: scan spelling other rest,?_,rfl⟩
        rw [scan_apart found,if_pos rfl]

/-! ## A line of groups -/

/-- The group's value is not the flag, unless it is the flag's own. -/
def Group.Clear (spelling : Spelling F α) (flag : F) (group : Group F α) : Prop :=
  group.joined = false → group.flag ≠ flag → spells spelling flag group.value = false

theorem skim_groups (groups : List (Group F α)) :
    skim spelling flag (groups.flatMap (Group.tokens spelling)) =
      groups.flatMap (Group.uses flag) := by
  induction groups with
  | nil => rfl
  | cons group more ih =>
    obtain ⟨given,value,joined⟩ := group
    cases joined with
    | true =>
      have spelt := (spelling.joined _ given value).mpr rfl
      simp only [List.flatMap_cons,Group.tokens,Group.uses,if_true,List.singleton_append]
      rw [skim,spelt]
      simp only [ih]
    | false =>
      have spelt := (spelling.apart _ given).mpr rfl
      simp only [List.flatMap_cons,Group.tokens,Group.uses,Bool.false_eq_true,if_false,
        List.cons_append,List.nil_append]
      rw [skim,spelt]
      by_cases same : given = flag
      · simp [same,ih]
      · simp [same,ih]

theorem swallows_groups (groups : List (Group F α)) :
    swallows spelling flag (groups.flatMap (Group.tokens spelling)) = false ↔
      ∀ group ∈ groups, group.Clear spelling flag := by
  induction groups with
  | nil => simp [swallows]
  | cons group more ih =>
    obtain ⟨given,value,joined⟩ := group
    cases joined with
    | true =>
      have spelt := (spelling.joined _ given value).mpr rfl
      simp only [List.flatMap_cons,Group.tokens,if_true,List.singleton_append]
      rw [swallows,spelt]
      simp [Group.Clear,ih]
    | false =>
      have spelt := (spelling.apart _ given).mpr rfl
      simp only [List.flatMap_cons,Group.tokens,Bool.false_eq_true,if_false,List.cons_append,
        List.nil_append]
      rw [swallows,spelt]
      simp [Group.Clear,ih]

/-- The scan for one flag uses its groups, where no value of another is spelt like it. -/
theorem scan_groups (clear : ∀ group ∈ groups, group.Clear spelling flag) :
    scan spelling flag (groups.flatMap (Group.tokens spelling)) =
      groups.flatMap (Group.uses flag) := by
  induction groups with
  | nil => rfl
  | cons group more ih =>
    have later := ih fun group member => clear group (List.mem_cons_of_mem _ member)
    have here := clear group (List.mem_cons_self ..)
    obtain ⟨given,value,joined⟩ := group
    cases joined with
    | true =>
      have spelt := (spelling.joined _ given value).mpr rfl
      simp only [List.flatMap_cons,Group.tokens,Group.uses,if_true,List.singleton_append]
      rw [scan_joined spelt,later]
    | false =>
      have spelt := (spelling.apart _ given).mpr rfl
      simp only [List.flatMap_cons,Group.tokens,Group.uses,Bool.false_eq_true,if_false,
        List.cons_append,List.nil_append]
      rw [scan_apart spelt]
      by_cases same : given = flag
      · simp [same,later]
      · simp [same,scan_other (here rfl same),later]

/-- Where the scan takes what the groups give it and nothing else, no value is spelt like
the flag. -/
theorem clear_of_used (same : (scan spelling flag (groups.flatMap (Group.tokens spelling))).map
      Use.used = (groups.flatMap (Group.uses flag)).map Use.used) :
    ∀ group ∈ groups, group.Clear spelling flag := by
  induction groups with
  | nil => nofun
  | cons group more ih =>
    obtain ⟨given,value,joined⟩ := group
    rw [List.forall_mem_cons]
    cases joined with
    | true =>
      have spelt := (spelling.joined _ given value).mpr rfl
      simp only [List.flatMap_cons,Group.tokens,Group.uses,if_true,List.singleton_append] at same
      rw [scan_joined spelt] at same
      simp only [List.map_cons,List.cons.injEq,true_and] at same
      exact ⟨nofun,ih same⟩
    | false =>
      have spelt := (spelling.apart _ given).mpr rfl
      simp only [List.flatMap_cons,Group.tokens,Group.uses,Bool.false_eq_true,if_false,
        List.cons_append,List.nil_append] at same
      rw [scan_apart spelt] at same
      by_cases own : given = flag
      · simp only [own,if_true,List.map_cons,List.cons_append,List.nil_append,List.cons.injEq,
          true_and] at same
        exact ⟨fun _ different => (different own).elim,ih same⟩
      · simp only [own,if_false,List.map_cons,List.cons_append,List.nil_append,List.cons.injEq,
          true_and] at same
        -- What is spelt like the flag would be used.
        cases spelt : spells spelling flag value with
        | true =>
          obtain ⟨use,uses,scanned,used⟩ := @scan_spells _ _ _ spelling flag value
            (more.flatMap (Group.tokens spelling)) spelt
          rw [scanned,List.map_cons,List.cons.injEq,used] at same
          cases same.1
        | false =>
          rw [scan_other spelt,List.map_cons,List.cons.injEq] at same
          exact ⟨fun _ _ => spelt,ih same.2⟩

/-- The values among the uses are those of the flag's groups. -/
theorem uses_values (groups : List (Group F α)) :
    (groups.flatMap (Group.uses flag)).filterMap Use.value? = valuesOf flag groups := by
  induction groups with
  | nil => rfl
  | cons group more ih =>
    obtain ⟨given,value,joined⟩ := group
    by_cases same : given = flag
    · cases joined <;> simpa [Group.uses,valuesOf,same,Use.value?,List.filterMap_cons] using ih
    · cases joined <;> simpa [Group.uses,valuesOf,same,Use.value?,List.filterMap_cons] using ih

end Flags
