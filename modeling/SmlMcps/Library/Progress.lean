import Mathlib.Algebra.BigOperators.Group.List.Basic
import Mathlib.Algebra.GroupWithZero.Nat
import Mathlib.Data.Bool.Basic
import SmlMcps.Library.Runs

/-! Bounded progress under any interleaving. The steps of interest lower a rank, every
other step leaves it where it is or lowers it too, so a run takes only so many of them.
If one of them is enabled wherever the rank is not zero, they alone lead to rank zero. -/
namespace Runs

variable {S L : Type} {step : S → L → Option S}

/-- From the states of an invariant, each step of `own` lowers the rank. -/
structure Ranked (step : S → L → Option S) (inv : S → Prop) (own : L → Bool) (rank : S → Nat) :
    Prop where
  kept : ∀ s label next, inv s → step s label = some next → inv next
  lowered : ∀ s label next, inv s → step s label = some next →
    rank next + (own label).toNat ≤ rank s

variable {inv : S → Prop} {own : L → Bool} {rank : S → Nat}

theorem Ranked.count_le (ranked : Ranked step inv own rank) {s final : S} {labels : List L}
    (holds : inv s) (run : execute step s labels = some final) :
    rank final + labels.countP own ≤ rank s := by
  induction labels generalizing s with
  | nil =>
    cases run
    exact Nat.le_refl _
  | cons label rest ih =>
    rw [execute_cons,Option.bind_eq_some_iff] at run
    obtain ⟨next,taken,later⟩ := run
    have first := ranked.lowered s label next holds taken
    have onward := ih (ranked.kept s label next holds taken) later
    rw [List.countP_cons]
    cases mine : own label <;> simp only [mine,Bool.toNat_true,Bool.toNat_false] at first ⊢
    · simp only [Bool.false_eq_true,if_false]
      omega
    · simp only [if_true]
      omega

/-- Where each state of the invariant with a positive rank has a step of `own` that lowers it,
such steps bring the rank to zero, no more of them than the rank was. -/
theorem goes_down (goes : ∀ s, inv s → rank s ≠ 0 →
      ∃ label next, own label = true ∧ step s label = some next ∧ inv next ∧ rank next < rank s)
    {s : S} (holds : inv s) : ∃ labels final, (∀ label ∈ labels, own label = true) ∧
      labels.length ≤ rank s ∧ execute step s labels = some final ∧ inv final ∧
      rank final = 0 := by
  induction bound : rank s using Nat.strongRecOn generalizing s with
  | ind n ih =>
    by_cases zero : rank s = 0
    · exact ⟨[],s,by simp,Nat.zero_le _,rfl,holds,zero⟩
    · obtain ⟨label,next,mine,taken,kept,lower⟩ := goes s holds zero
      obtain ⟨rest,final,owned,short,run,still,done⟩ := ih (rank next) (by omega) kept rfl
      refine ⟨label :: rest,final,?_,?_,?_,still,done⟩
      · intro other member
        rcases List.mem_cons.mp member with rfl | later
        · exact mine
        · exact owned other later
      · rw [List.length_cons]
        omega
      · rw [execute_cons,taken]
        exact run

/-- Where no state of the invariant with a positive rank is stuck, the steps of `own`
suffice to bring the rank to zero. -/
theorem Ranked.settles (ranked : Ranked step inv own rank)
    (enabled : ∀ s, inv s → rank s ≠ 0 → ∃ label next, own label = true ∧ step s label = some next)
    {s : S} (holds : inv s) : ∃ labels final, (∀ label ∈ labels, own label = true) ∧
      execute step s labels = some final ∧ inv final ∧ rank final = 0 := by
  obtain ⟨labels,final,owned,_,run,still,zero⟩ := goes_down (fun s holds busy => by
    obtain ⟨label,next,mine,taken⟩ := enabled s holds busy
    have lower := ranked.lowered s label next holds taken
    rw [mine,Bool.toNat_true] at lower
    exact ⟨label,next,mine,taken,ranked.kept s label next holds taken,lower⟩) holds
  exact ⟨labels,final,owned,run,still,zero⟩

/-- A rank that is a sum over parties, when one of them moves. -/
theorem sum_set {α : Type} (cost : α → Nat) {parties : List α} {index : Nat} {party : α} (moved : α)
    (there : parties[index]? = some party) :
    ((parties.set index moved).map cost).sum + cost party =
      (parties.map cost).sum + cost moved := by
  induction parties generalizing index with
  | nil => cases there
  | cons first rest ih =>
    cases index with
    | zero =>
      cases there
      simp only [List.set_cons_zero,List.map_cons,List.sum_cons]
      omega
    | succ index =>
      have tail := ih there
      simp only [List.set_cons_succ,List.map_cons,List.sum_cons]
      omega

/-- What the steps of a run cost, each judged by the state it starts from. -/
def spent (step : S → L → Option S) (cost : S → L → Nat) : S → List L → Nat
  | _, [] => 0
  | s, label :: rest => cost s label + match step s label with
    | some next => spent step cost next rest
    | none => 0

theorem spent_labels {charge : L → Nat} {s final : S} {labels : List L}
    (run : execute step s labels = some final) :
    spent step (fun _ => charge) s labels = (labels.map charge).sum := by
  induction labels generalizing s with
  | nil => rfl
  | cons label rest ih =>
    rw [execute_cons,Option.bind_eq_some_iff] at run
    obtain ⟨next,taken,later⟩ := run
    simp only [spent,taken,ih later,List.map_cons,List.sum_cons]

/-- Where other steps may raise the rank, each by no more than it is charged, a run takes only so
many steps of `own` as the rank at its start and the charges allow. -/
theorem spent_le {charge : S → L → Nat}
    (lowered : ∀ s label next, step s label = some next →
      rank next + (own label).toNat ≤ rank s + charge s label)
    {s final : S} {labels : List L} (run : execute step s labels = some final) :
    rank final + labels.countP own ≤ rank s + spent step charge s labels := by
  induction labels generalizing s with
  | nil =>
    cases run
    exact Nat.le_refl _
  | cons label rest ih =>
    rw [execute_cons,Option.bind_eq_some_iff] at run
    obtain ⟨next,taken,later⟩ := run
    have first := lowered s label next taken
    have onward := ih later
    simp only [spent,taken]
    rw [List.countP_cons]
    cases mine : own label <;> simp only [mine,Bool.toNat_true,Bool.toNat_false] at first ⊢
    · simp only [Bool.false_eq_true,if_false]
      omega
    · simp only [if_true]
      omega

/-- The charges of a run where they depend on the labels alone. -/
theorem charged_le {charge : L → Nat}
    (lowered : ∀ s label next, step s label = some next →
      rank next + (own label).toNat ≤ rank s + charge label)
    {s final : S} {labels : List L} (run : execute step s labels = some final) :
    rank final + labels.countP own ≤ rank s + (labels.map charge).sum := by
  rw [← spent_labels run]
  exact spent_le lowered run

end Runs
