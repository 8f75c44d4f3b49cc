import Mathlib.Data.List.Basic

/-! Incremental parsers: functions asked again, from the front, each time more of a
sequence has arrived. What makes asking again safe is that a complete answer is settled
by the elements it covers; scanners that stop at the first accepted element have it. -/
namespace Incremental

variable {α ε β S : Type}

/-- The answer over what has arrived: a value and how much it covers, a wait for more, or
a refusal. -/
inductive Status (ε β : Type) where
  | complete (length : Nat) (value : β)
  | incomplete
  | error (e : ε)

/-- A complete answer covers elements that are there, and only those decide it. -/
structure Settled (parse : List α → Status ε β) : Prop where
  within {xs : List α} {n : Nat} {value : β} : parse xs = .complete n value → n ≤ xs.length
  settled {xs ys : List α} {n : Nat} {value : β} : parse xs = .complete n value →
    ys.take n = xs.take n → parse ys = .complete n value

/-- Nothing is complete over what has arrived. -/
def Waiting (parse : List α → Status ε β) (xs : List α) : Prop :=
  ∀ n value, parse xs ≠ .complete n value

namespace Settled

variable {parse : List α → Status ε β} {xs ys : List α} {n : Nat} {value : β}

theorem append (laws : Settled parse) (complete : parse xs = .complete n value) :
    parse (xs ++ ys) = .complete n value := by
  apply laws.settled complete
  rw [List.take_append_of_le_length (laws.within complete)]

theorem front (laws : Settled parse) (complete : parse (xs ++ ys) = .complete n value)
    (covered : n ≤ xs.length) : parse xs = .complete n value := by
  apply laws.settled complete
  rw [List.take_append_of_le_length covered]

/-- An answer that was not there before the last arrival covers part of it. -/
theorem beyond (laws : Settled parse) (waiting : Waiting parse xs)
    (complete : parse (xs ++ ys) = .complete n value) : xs.length < n := by
  by_contra early
  exact waiting n value (laws.front complete (by omega))

/-- When every complete answer ends in `mark`, an arrival without one completes nothing,
so a reader need not ask. -/
theorem waiting_append (laws : Settled parse) (waiting : Waiting parse xs) {mark : α}
    (ends : ∀ {zs : List α} {n : Nat} {value : β}, parse zs = .complete n value →
      zs[n - 1]? = some mark)
    (absent : mark ∉ ys) : Waiting parse (xs ++ ys) := by
  intro n value complete
  have late : xs.length < n := laws.beyond waiting complete
  have last : (xs ++ ys)[n - 1]? = some mark := ends complete
  rw [List.getElem?_append_right (by omega)] at last
  exact absent (List.mem_of_getElem? last)

end Settled

/-! ## Scanners -/

/-- How many elements a state machine takes to accept; `none` as a next state accepts. -/
def scan (next : S → α → Option S) : S → List α → Option Nat
  | _, [] => none
  | s, x :: rest =>
    match next s x with
    | none => some 1
    | some s => (scan next s rest).map (· + 1)

variable {next : S → α → Option S}

theorem scan_positive {s : S} {xs : List α} {n : Nat} (accepted : scan next s xs = some n) :
    0 < n ∧ n ≤ xs.length := by
  induction xs generalizing s n with
  | nil => simp [scan] at accepted
  | cons x rest ih =>
    simp only [scan] at accepted
    split at accepted
    · cases accepted
      simp
    · obtain ⟨m,inner,rfl⟩ := Option.map_eq_some_iff.mp accepted
      have bound := ih inner
      simp only [List.length_cons]
      omega

theorem scan_settled {s : S} {xs ys : List α} {n : Nat} (accepted : scan next s xs = some n)
    (agree : ys.take n = xs.take n) : scan next s ys = some n := by
  induction xs generalizing s n ys with
  | nil => simp [scan] at accepted
  | cons x rest ih =>
    obtain ⟨m,rfl⟩ : ∃ m, n = m + 1 := ⟨n - 1,by have := (scan_positive accepted).1; omega⟩
    cases ys with
    | nil => simp at agree
    | cons y others =>
      simp only [List.take_succ_cons,List.cons.injEq] at agree
      obtain ⟨rfl,agree⟩ := agree
      simp only [scan] at accepted ⊢
      split at accepted
      · exact accepted
      · obtain ⟨k,inner,same⟩ := Option.map_eq_some_iff.mp accepted
        cases same
        rw [ih inner agree]
        rfl

/-- Nothing is accepted before the element that is. -/
theorem scan_waits {s : S} {xs : List α} {n m : Nat} (accepted : scan next s xs = some n)
    (early : m < n) : scan next s (xs.take m) = none := by
  cases found : scan next s (xs.take m) with
  | none => rfl
  | some k =>
    have inside := (scan_positive found).2
    rw [List.length_take] at inside
    have agree : xs.take k = (xs.take m).take k := by
      rw [List.take_take,Nat.min_eq_left (by omega)]
    have again := scan_settled found agree
    rw [accepted,Option.some.injEq] at again
    omega

/-- What the accepting step looks at is the last element covered. -/
theorem scan_last {s : S} {xs : List α} {n : Nat} {mark : α}
    (accepts : ∀ s x, next s x = none → x = mark) (accepted : scan next s xs = some n) :
    xs[n - 1]? = some mark := by
  induction xs generalizing s n with
  | nil => simp [scan] at accepted
  | cons x rest ih =>
    simp only [scan] at accepted
    split at accepted
    · rename_i taken
      cases accepted
      simp [accepts s x taken]
    · obtain ⟨m,inner,rfl⟩ := Option.map_eq_some_iff.mp accepted
      have positive := (scan_positive inner).1
      obtain ⟨k,rfl⟩ : ∃ k, m = k + 1 := ⟨m - 1,by omega⟩
      simpa using ih inner

end Incremental
