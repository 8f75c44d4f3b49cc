import Mathlib.Logic.Basic

/-! Finite runs of a labelled partial step function. A label carries every choice
the environment makes, so a step is a function of state and label, and `none`
means the label is not enabled there. Guarded runs restrict which labels may be
taken in which states. -/
namespace Runs

variable {S L : Type} (step : S → L → Option S)

def execute : S → List L → Option S
  | s, [] => some s
  | s, label :: rest => (step s label).bind fun next => execute next rest

/-- Every step taken from `s` along the labels satisfies `allowed` where it starts. -/
def Guarded (allowed : S → L → Prop) : S → List L → Prop
  | _, [] => True
  | s, label :: rest =>
    allowed s label ∧ ∀ next, step s label = some next → Guarded allowed next rest

/-- Every state the run from `s` passes through satisfies `holds`. -/
def Throughout (holds : S → Prop) : S → List L → Prop
  | s, [] => holds s
  | s, label :: rest => holds s ∧ ∀ next, step s label = some next → Throughout holds next rest

variable {step}

@[simp] theorem execute_nil (s : S) : execute step s [] = some s := rfl

theorem execute_cons (s : S) (label : L) (rest : List L) :
    execute step s (label :: rest) = (step s label).bind fun next => execute step next rest := rfl

theorem Guarded.front {allowed : S → L → Prop} {s : S} {front back : List L}
    (guarded : Guarded step allowed s (front ++ back)) : Guarded step allowed s front := by
  induction front generalizing s with
  | nil => trivial
  | cons label rest ih => exact ⟨guarded.1,fun next taken => ih (guarded.2 next taken)⟩

theorem Throughout.start {holds : S → Prop} {s : S} {labels : List L}
    (throughout : Throughout step holds s labels) : holds s := by
  cases labels with
  | nil => exact throughout
  | cons label rest => exact throughout.1

/-- A decidable guard makes guardedness of a concrete run decidable. -/
instance Guarded.instDecidable {allowed : S → L → Prop} [∀ s label, Decidable (allowed s label)] :
    (s : S) → (labels : List L) → Decidable (Guarded step allowed s labels)
  | _, [] => isTrue trivial
  | s, label :: rest =>
    match taken : step s label with
    | none => decidable_of_iff (allowed s label) (by simp [Guarded,taken])
    | some next =>
      have : Decidable (Guarded step allowed next rest) := Guarded.instDecidable next rest
      decidable_of_iff (allowed s label ∧ Guarded step allowed next rest) (by
        simp [Guarded,taken])

instance Throughout.instDecidable {holds : S → Prop} [DecidablePred holds] :
    (s : S) → (labels : List L) → Decidable (Throughout step holds s labels)
  | s, [] => inferInstanceAs (Decidable (holds s))
  | s, label :: rest =>
    match taken : step s label with
    | none => decidable_of_iff (holds s) (by simp [Throughout,taken])
    | some next =>
      have : Decidable (Throughout step holds next rest) := Throughout.instDecidable next rest
      decidable_of_iff (holds s ∧ Throughout step holds next rest) (by simp [Throughout,taken])

/-- The induction rule for guarded runs: what every allowed step keeps, a run keeps. -/
theorem guarded_invariant {allowed : S → L → Prop} {inv : S → Prop}
    (preserved : ∀ s label next, inv s → allowed s label → step s label = some next → inv next)
    {s final : S} {labels : List L} (guarded : Guarded step allowed s labels)
    (run : execute step s labels = some final) (holds : inv s) : inv final := by
  induction labels generalizing s with
  | nil => cases run; exact holds
  | cons label rest ih =>
    rw [execute_cons,Option.bind_eq_some_iff] at run
    obtain ⟨next,taken,later⟩ := run
    exact ih (guarded.2 next taken) later (preserved s label next holds guarded.1 taken)

/-- A guarded run through states that all satisfy `holds`. -/
theorem guarded_throughout {allowed : S → L → Prop} {holds inv : S → Prop}
    (preserved : ∀ s label next, inv s → allowed s label → holds next →
      step s label = some next → inv next)
    {s final : S} {labels : List L} (guarded : Guarded step allowed s labels)
    (throughout : Throughout step holds s labels) (run : execute step s labels = some final)
    (start : inv s) : inv final := by
  induction labels generalizing s with
  | nil => cases run; exact start
  | cons label rest ih =>
    rw [execute_cons,Option.bind_eq_some_iff] at run
    obtain ⟨next,taken,later⟩ := run
    have onward := throughout.2 next taken
    apply ih (guarded.2 next taken) onward later
    exact preserved s label next start guarded.1 onward.start taken

theorem invariant {inv : S → Prop}
    (preserved : ∀ s label next, inv s → step s label = some next → inv next)
    {s final : S} {labels : List L} (run : execute step s labels = some final)
    (holds : inv s) : inv final := by
  induction labels generalizing s with
  | nil => cases run; exact holds
  | cons label rest ih =>
    rw [execute_cons,Option.bind_eq_some_iff] at run
    obtain ⟨next,taken,later⟩ := run
    exact ih later (preserved s label next holds taken)

/-- A guarded run passes through states of the invariant only. -/
theorem Guarded.throughout {allowed : S → L → Prop} {inv : S → Prop}
    (preserved : ∀ s label next, inv s → allowed s label → step s label = some next → inv next)
    {s : S} {labels : List L} (guarded : Guarded step allowed s labels) (holds : inv s) :
    Throughout step inv s labels := by
  induction labels generalizing s with
  | nil => exact holds
  | cons label rest ih =>
    exact ⟨holds,fun next taken =>
      ih (guarded.2 next taken) (preserved s label next holds guarded.1 taken)⟩

theorem Throughout.mono {holds weaker : S → Prop} (implies : ∀ s, holds s → weaker s) {s : S}
    {labels : List L} (throughout : Throughout step holds s labels) :
    Throughout step weaker s labels := by
  induction labels generalizing s with
  | nil => exact implies s throughout
  | cons label rest ih =>
    exact ⟨implies s throughout.1,fun next taken => ih (throughout.2 next taken)⟩

/-- Guards that agree on the states of the invariant guard the same runs. -/
theorem guarded_congr {allowed other : S → L → Prop} {inv : S → Prop}
    (same : ∀ s label, inv s → (allowed s label ↔ other s label))
    (preserved : ∀ s label next, inv s → other s label → step s label = some next → inv next)
    {s : S} (holds : inv s) (labels : List L) :
    Guarded step allowed s labels ↔ Guarded step other s labels := by
  induction labels generalizing s with
  | nil => exact Iff.rfl
  | cons label rest ih =>
    constructor
    · rintro ⟨here,later⟩
      have now := (same s label holds).mp here
      exact ⟨now,fun next taken =>
        (ih (preserved s label next holds now taken)).mp (later next taken)⟩
    · rintro ⟨now,later⟩
      exact ⟨(same s label holds).mpr now,fun next taken =>
        (ih (preserved s label next holds now taken)).mpr (later next taken)⟩

/-- What is left of a guarded run is guarded from where it goes on. -/
theorem Guarded.back {allowed : S → L → Prop} {s mid : S} {front back : List L}
    (guarded : Guarded step allowed s (front ++ back)) (run : execute step s front = some mid) :
    Guarded step allowed mid back := by
  induction front generalizing s with
  | nil =>
    cases run
    exact guarded
  | cons label rest ih =>
    rw [execute_cons,Option.bind_eq_some_iff] at run
    obtain ⟨next,taken,later⟩ := run
    exact ih (guarded.2 next taken) later

/-- The system with a history variable: `record` sees the state before and after. -/
def observed {H : Type} (step : S → L → Option S) (record : S → L → S → H → H)
    (s : S × H) (label : L) : Option (S × H) :=
  (step s.1 label).map fun next => (next,record s.1 label next s.2)

theorem observed_step {H : Type} {record : S → L → S → H → H} {s next : S × H} {label : L}
    (taken : observed step record s label = some next) :
    step s.1 label = some next.1 ∧ next.2 = record s.1 label next.1 s.2 := by
  simp only [observed,Option.map_eq_some_iff] at taken
  obtain ⟨reached,same,rfl⟩ := taken
  exact ⟨same,rfl⟩

end Runs
