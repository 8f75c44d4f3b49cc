import Mathlib.Data.List.Basic

/-! Sequences cut at the first or the last occurrence of a mark: where the cut is, that
it is determined, and what is before it. -/
namespace Marks

variable {α : Type} {mark : α} {left right front line after other rest : List α}

/-- What is before the first mark is determined. -/
theorem unique (first : mark ∉ left) (first' : mark ∉ right)
    (same : left ++ mark :: after = right ++ mark :: other) : left = right ∧ after = other := by
  induction left generalizing right with
  | nil =>
    cases right with
    | nil => simpa using same
    | cons b rest =>
      simp only [List.nil_append,List.cons_append,List.cons.injEq] at same
      exact absurd (by simp [same.1]) first'
  | cons b rest ih =>
    cases right with
    | nil =>
      simp only [List.nil_append,List.cons_append,List.cons.injEq] at same
      exact absurd (by simp [same.1]) first
    | cons b' rest' =>
      simp only [List.cons_append,List.cons.injEq] at same
      obtain ⟨rfl,same⟩ := same
      obtain ⟨rfl,rfl⟩ := ih (fun member => first (by simp [member]))
        (fun member => first' (by simp [member])) same
      exact ⟨rfl,rfl⟩

/-- What has no mark is before the first one. -/
theorem later (absent : mark ∉ front) (same : front ++ after = line ++ mark :: rest) :
    ∃ more, line = front ++ more ∧ after = more ++ mark :: rest := by
  obtain ⟨more,longer,begins⟩ | ⟨more,longer,begins⟩ := List.append_eq_append_iff.mp same
  · exact ⟨more,longer,begins⟩
  · cases more with
    | nil => exact ⟨[],by simpa using longer.symm,by simpa using begins.symm⟩
    | cons first others =>
      simp only [List.cons_append,List.cons.injEq] at begins
      exact absurd (by simp [longer,begins.1]) absent

/-- A cut right behind a mark. -/
theorem splitAt_mark : (front ++ mark :: rest).splitAt (front.length + 1) =
    (front ++ [mark],rest) := by
  rw [List.append_cons,List.splitAt_eq,
    show front.length + 1 = (front ++ [mark]).length by simp,List.take_left,List.drop_left]

section
variable [BEq α] [LawfulBEq α]

theorem idxOf?_first (absent : mark ∉ front) :
    (front ++ mark :: rest).idxOf? mark = some front.length := by
  apply List.idxOf?_eq_some_iff.mpr
  refine ⟨by simp,by simp,fun place before same => absent ?_⟩
  rw [List.getElem_append_left before] at same
  exact same ▸ List.getElem_mem before

/-- The first mark, once found, cuts the sequence. -/
theorem cut {xs : List α} {index : Nat} (found : xs.idxOf? mark = some index) :
    ∃ front rest, xs = front ++ mark :: rest ∧ mark ∉ front ∧ front.length = index := by
  obtain ⟨inside,here,first⟩ := List.idxOf?_eq_some_iff.mp found
  refine ⟨xs.take index,xs.drop (index + 1),?_,fun member => ?_,?_⟩
  · rw [← here,List.getElem_cons_drop,List.take_append_drop]
  · obtain ⟨place,before,same⟩ := List.mem_take_iff_getElem.mp member
    exact first place (by omega) same
  · rw [List.length_take]
    omega

/-- What is before the first occurrence of `mark`, a sequence, and what is after it. -/
def splitOnce (mark : List α) : List α → Option (List α × List α)
  | [] => if mark.isEmpty then some ([],[]) else none
  | x :: rest =>
    if mark.isPrefixOf (x :: rest) then some ([],(x :: rest).drop mark.length)
    else (splitOnce mark rest).map fun cut => (x :: cut.1,cut.2)

theorem splitOnce_sound {mark text : List α} {cut : List α × List α}
    (split : splitOnce mark text = some cut) : text = cut.1 ++ mark ++ cut.2 := by
  induction text generalizing cut with
  | nil =>
    rw [splitOnce] at split
    split at split
    · rename_i empty
      cases split
      simp [List.isEmpty_iff.mp empty]
    · cases split
  | cons x rest ih =>
    rw [splitOnce] at split
    split at split
    · rename_i here
      cases split
      obtain ⟨after,same⟩ := List.isPrefixOf_iff_prefix.mp here
      simp [← same]
    · obtain ⟨inner,found,rfl⟩ := Option.map_eq_some_iff.mp split
      simp [ih found]

/-- The first occurrence is found where nothing before it looks like its beginning. -/
theorem splitOnce_first {first : α} {more : List α} (absent : first ∉ front) :
    splitOnce (first :: more) (front ++ first :: more ++ after) = some (front,after) := by
  induction front with
  | nil => simp [splitOnce]
  | cons x rest ih =>
    have other : first ≠ x := fun same => absent (by simp [same])
    have found := ih fun member => absent (by simp [member])
    simp only [List.append_assoc,List.cons_append] at found
    simp [splitOnce,List.isPrefixOf_cons_cons,other,found]

/-- Cut at the first occurrence of a single mark. -/
theorem splitOnce_mark (absent : mark ∉ front) :
    splitOnce [mark] (front ++ mark :: after) = some (front,after) := by
  have first : splitOnce [mark] (front ++ [mark] ++ after) = some (front,after) :=
    splitOnce_first absent
  rwa [List.append_assoc,List.singleton_append] at first

/-- Where the first occurrence is does not depend on what follows it. -/
theorem splitOnce_rest {mark text : List α} {cut : List α × List α} (other : List α)
    (split : splitOnce mark text = some cut) :
    splitOnce mark (cut.1 ++ mark ++ other) = some (cut.1,other) := by
  induction text generalizing cut with
  | nil =>
    rw [splitOnce] at split
    split at split
    · rename_i empty
      cases split
      obtain rfl := List.isEmpty_iff.mp empty
      cases other <;> simp [splitOnce]
    · cases split
  | cons x rest ih =>
    rw [splitOnce] at split
    split at split
    · cases split
      cases mark with
      | nil => cases other <;> simp [splitOnce]
      | cons first more => simp [splitOnce]
    · rename_i elsewhere
      obtain ⟨later,found,rfl⟩ := Option.map_eq_some_iff.mp split
      have whole := splitOnce_sound found
      have absent : mark.isPrefixOf (x :: (later.1 ++ mark ++ other)) = false := by
        rw [Bool.eq_false_iff]
        intro here
        apply elsewhere
        rw [List.isPrefixOf_iff_prefix] at here ⊢
        -- The mark is no longer than what stands before `other`.
        have inside : mark <+: x :: (later.1 ++ mark) :=
          List.prefix_of_prefix_length_le here ⟨other,by simp⟩
            (by simp only [List.length_cons,List.length_append]; omega)
        exact inside.trans ⟨later.2,by simp [whole]⟩
      simp only [List.cons_append,splitOnce,absent,ih found]
      simp

/-- A renaming that neither makes nor takes away what the mark is made of. -/
theorem splitOnce_map {mark text : List α} (f : α → α)
    (faithful : ∀ c ∈ mark, ∀ x, f x = c ↔ x = c) :
    splitOnce mark (text.map f) =
      (splitOnce mark text).map fun cut => (cut.1.map f,cut.2.map f) := by
  have sees : ∀ (mark text : List α), (∀ c ∈ mark, ∀ x, f x = c ↔ x = c) →
      mark.isPrefixOf (text.map f) = mark.isPrefixOf text := by
    intro mark text faithful
    induction mark generalizing text with
    | nil => simp
    | cons c more ih =>
      cases text with
      | nil => simp
      | cons x rest =>
        have head : (c == f x) = (c == x) := by
          rw [Bool.eq_iff_iff,beq_iff_eq,beq_iff_eq,eq_comm,faithful c (by simp),eq_comm]
        simp [List.isPrefixOf,head,ih rest fun d member => faithful d (by simp [member])]
  induction text with
  | nil =>
    cases mark <;> simp [splitOnce]
  | cons x rest ih =>
    have here := sees mark (x :: rest) faithful
    rw [List.map_cons] at here
    simp only [List.map_cons,splitOnce,here,ih]
    split
    · simp
    · cases splitOnce mark rest <;> simp

/-- Cut at a single mark, what is before it does not have it. -/
theorem splitOnce_before {text : List α} {cut : List α × List α}
    (split : splitOnce [mark] text = some cut) : mark ∉ cut.1 := by
  induction text generalizing cut with
  | nil => simp [splitOnce] at split
  | cons x rest ih =>
    rw [splitOnce] at split
    split at split
    · cases split
      simp
    · rename_i other
      obtain ⟨inner,found,rfl⟩ := Option.map_eq_some_iff.mp split
      have apart : mark ≠ x := fun same => other (by simp [same])
      simp [apart,ih found]

@[simp] theorem splitOnce_eq_none {text : List α} :
    splitOnce [mark] text = none ↔ mark ∉ text := by
  refine ⟨fun unsplit member => ?_,fun absent => ?_⟩
  · obtain ⟨front,rest,rfl,absent⟩ := List.eq_append_cons_of_mem member
    rw [show front ++ mark :: rest = front ++ [mark] ++ rest by simp,
      splitOnce_first absent] at unsplit
    cases unsplit
  · cases split : splitOnce [mark] text with
    | none => rfl
    | some cut => exact absurd (by simp [splitOnce_sound split]) absent

/-- Where the last occurrence of `mark` is. -/
def rfind (mark : α) (text : List α) : Option Nat :=
  (text.reverse.idxOf? mark).map fun index => text.length - 1 - index

@[simp] theorem rfind_eq_none {text : List α} : rfind mark text = none ↔ mark ∉ text := by
  simp [rfind]

theorem rfind_last (absent : mark ∉ rest) :
    rfind mark (front ++ mark :: rest) = some front.length := by
  have reversed : (front ++ mark :: rest).reverse =
      rest.reverse ++ mark :: front.reverse := by simp
  rw [rfind,reversed,idxOf?_first (by simpa using absent)]
  simp only [Option.map_some,List.length_append,List.length_cons,List.length_reverse,
    Option.some.injEq]
  omega

/-- The last mark, once found, cuts the sequence. -/
theorem rfind_cut {text : List α} {index : Nat} (found : rfind mark text = some index) :
    ∃ front rest, text = front ++ mark :: rest ∧ mark ∉ rest ∧ front.length = index := by
  have present : mark ∈ text.reverse := by
    by_contra absent
    rw [rfind_eq_none.mpr (by simpa using absent)] at found
    cases found
  obtain ⟨rest,front,same,absent⟩ := List.eq_append_cons_of_mem present
  have split : text = front.reverse ++ mark :: rest.reverse := by
    rw [← List.reverse_reverse text,same]
    simp
  have absent : mark ∉ rest.reverse := by simpa using absent
  rw [split,rfind_last absent] at found
  exact ⟨front.reverse,rest.reverse,split,absent,Option.some.inj found⟩

/-- What is before the last occurrence of `mark`, and what is after it. -/
def rsplitOnce (mark : α) (text : List α) : Option (List α × List α) :=
  (rfind mark text).map fun index => (text.take index,text.drop (index + 1))

theorem rsplitOnce_iff {text : List α} : rsplitOnce mark text = some (front,rest) ↔
    text = front ++ mark :: rest ∧ mark ∉ rest := by
  have cuts : ∀ before after : List α,
      (before ++ mark :: after).take before.length = before ∧
        (before ++ mark :: after).drop (before.length + 1) = after := by
    intro before after
    rw [← List.drop_drop,List.take_left,List.drop_left]
    exact ⟨rfl,rfl⟩
  constructor
  · intro split
    obtain ⟨index,found,parts⟩ := Option.map_eq_some_iff.mp split
    obtain ⟨before,after,rfl,absent,rfl⟩ := rfind_cut found
    rw [(cuts before after).1,(cuts before after).2,Prod.mk.injEq] at parts
    obtain ⟨rfl,rfl⟩ := parts
    exact ⟨rfl,absent⟩
  · rintro ⟨rfl,absent⟩
    rw [rsplitOnce,rfind_last absent,Option.map_some,(cuts front rest).1,(cuts front rest).2]

end

end Marks
