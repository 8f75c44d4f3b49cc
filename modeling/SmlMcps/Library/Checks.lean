import Mathlib.Data.List.Basic

/-! Sequences of checks. A check lets a value pass or gives a problem, and the first problem
ends the sequence; what passes has passed every check. -/
namespace Checks

variable {ε α : Type} {check : α → Except ε Unit} {items : List α}

/-- `problem` where `bad` holds. -/
def refuse (bad : Prop) [Decidable bad] (problem : ε) : Except ε Unit :=
  if bad then .error problem else .ok ()

/-- The items in order. -/
def each (check : α → Except ε Unit) : List α → Except ε Unit
  | [] => .ok ()
  | item :: rest => check item >>= fun _ => each check rest

@[simp] theorem refuse_ok {bad : Prop} [Decidable bad] {problem : ε} :
    refuse bad problem = .ok () ↔ ¬ bad := by
  by_cases holds : bad <;> simp [refuse,holds]

@[simp] theorem then_ok {β : Type} {first : Except ε Unit} {next : Except ε β} {result : β} :
    (first >>= fun _ => next) = .ok result ↔ first = .ok () ∧ next = .ok result := by
  cases first <;> simp [bind,Except.bind]

@[simp] theorem each_ok : each check items = .ok () ↔ ∀ item ∈ items, check item = .ok () := by
  induction items with
  | nil => simp [each]
  | cons item rest ih => simp [each,ih]

end Checks
