import Mathlib.Data.List.Basic

/-! Actions that do not see one another. Each action looks at a part of the state; when no
action changes what another one looks at, running them one after the other comes to
running each of them by itself. -/
namespace Independence

variable {A S R : Type}

/-- The actions in order, with what each of them gave. -/
def runEach (act : A → S → R × S) : List A → S → List R × S
  | [], s => ([],s)
  | a :: rest, s =>
    let (given,next) := act a s
    let (others,last) := runEach act rest next
    (given :: others,last)

/-- `same a` relates the states that are alike where `a` looks. -/
structure Independent (act : A → S → R × S) (same : A → S → S → Prop) (items : List A) :
    Prop where
  refl : ∀ a s, same a s s
  trans : ∀ a {first second third}, same a first second → same a second third →
    same a first third
  result : ∀ a ∈ items, ∀ s t, same a s t → (act a s).1 = (act a t).1
  state : ∀ a ∈ items, ∀ s t, same a s t → same a (act a s).2 (act a t).2
  apart : items.Pairwise fun a b => ∀ s, same b (act a s).2 s ∧ same a (act b s).2 s

variable {act : A → S → R × S} {same : A → S → S → Prop} {items : List A}

theorem Independent.tail {a : A} (independent : Independent act same (a :: items)) :
    Independent act same items where
  refl := independent.refl
  trans := independent.trans
  result other member := independent.result other (.tail a member)
  state other member := independent.state other (.tail a member)
  apart := (List.pairwise_cons.mp independent.apart).2

/-- A part of the state that no action touches stays as it was. -/
theorem runEach_untouched {untouched : S → S → Prop} (refl : ∀ s, untouched s s)
    (trans : ∀ {first second third}, untouched first second → untouched second third →
      untouched first third)
    (kept : ∀ a ∈ items, ∀ s, untouched (act a s).2 s) (s : S) :
    untouched (runEach act items s).2 s := by
  induction items generalizing s with
  | nil => exact refl s
  | cons a rest ih =>
    have later := ih (fun other member => kept other (.tail a member)) (act a s).2
    exact trans later (kept a (.head rest) s)

theorem runEach_map {B : Type} (f : B → A) (items : List B) (s : S) :
    runEach act (items.map f) s = runEach (fun b => act (f b)) items s := by
  induction items generalizing s with
  | nil => rfl
  | cons b rest ih => simp only [List.map_cons,runEach,ih]

/-- Where no action has anything to do, all of them leave the state as it is. -/
theorem runEach_idle {s : S} (idle : ∀ a ∈ items, (act a s).2 = s) :
    runEach act items s = (items.map fun a => (act a s).1,s) := by
  induction items with
  | nil => rfl
  | cons a rest ih =>
    have later := ih fun other member => idle other (.tail a member)
    simp only [runEach,idle a (.head rest),later,List.map_cons]

/-- Each action gives what it gives by itself. -/
theorem Independent.results (independent : Independent act same items) (s : S) :
    (runEach act items s).1 = items.map fun a => (act a s).1 := by
  induction items generalizing s with
  | nil => rfl
  | cons a rest ih =>
    have apart := (List.pairwise_cons.mp independent.apart).1
    have later := ih independent.tail (act a s).2
    have each : (rest.map fun b => (act b (act a s).2).1) = rest.map fun b => (act b s).1 := by
      apply List.map_congr_left
      intro b member
      exact independent.result b (.tail a member) _ _ (apart b member s).1
    rw [List.map_cons,← each,← later]
    rfl

/-- Where an action looks, the end is as after that action by itself. -/
theorem Independent.reaches (independent : Independent act same items) {a : A}
    (member : a ∈ items) (s : S) : same a (runEach act items s).2 (act a s).2 := by
  induction items generalizing s with
  | nil => cases member
  | cons b rest ih =>
    have apart := (List.pairwise_cons.mp independent.apart).1
    rcases List.mem_cons.mp member with rfl | later
    · exact runEach_untouched (independent.refl a) (independent.trans a)
        (fun other elsewhere s => (apart other elsewhere s).2) _
    · have onward := ih independent.tail later (act b s).2
      exact independent.trans a onward
        (independent.state a member _ _ (apart a later s).1)

end Independence
