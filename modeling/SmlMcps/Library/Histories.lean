import Mathlib.Data.List.Induction
import SmlMcps.Library.Runs

/-! Runs read from their end. What holds of a state may depend on the labels that led to
it, what happened at one step of a run is a fact about every longer run, and a record may be
kept along a run that the steps themselves know nothing of. -/
namespace Runs

variable {S L : Type} {step : S → L → Option S}

theorem execute_append (s : S) (front back : List L) : execute step s (front ++ back) =
    (execute step s front).bind fun mid => execute step mid back := by
  induction front generalizing s with
  | nil => rfl
  | cons label rest ih =>
    rw [List.cons_append,execute_cons,execute_cons,Option.bind_assoc]
    exact congrArg _ (funext ih)

/-- The induction rule for facts about a state and the labels that led to it. -/
theorem history_invariant {start : S} {holds : List L → S → Prop} (first : holds [] start)
    (preserved : ∀ past s label next, execute step start past = some s → holds past s →
      step s label = some next → holds (past ++ [label]) next)
    {labels : List L} {final : S} (run : execute step start labels = some final) :
    holds labels final := by
  induction labels using List.reverseRecOn generalizing final with
  | nil =>
    cases run
    exact first
  | append_singleton past label ih =>
    rw [execute_append,Option.bind_eq_some_iff] at run
    obtain ⟨s,before,taken⟩ := run
    rw [execute_cons,Option.bind_eq_some_iff] at taken
    obtain ⟨next,taken,done⟩ := taken
    cases done
    exact preserved past s label _ before (ih before) taken

/-- Some step of the run from `start` along the labels is as `moment` says. -/
def Happened (step : S → L → Option S) (start : S) (moment : S → L → S → Prop)
    (labels : List L) : Prop :=
  ∃ before label after s next, labels = before ++ label :: after ∧
    execute step start before = some s ∧ step s label = some next ∧ moment s label next

variable {start : S} {moment : S → L → S → Prop} {labels : List L}

theorem Happened.later (happened : Happened step start moment labels) (more : List L) :
    Happened step start moment (labels ++ more) := by
  obtain ⟨before,label,after,s,next,rfl,run,taken,was⟩ := happened
  exact ⟨before,label,after ++ more,s,next,by simp,run,taken,was⟩

/-- The last step of a run has happened. -/
theorem Happened.last {s next : S} {label : L} (run : execute step start labels = some s)
    (taken : step s label = some next) (was : moment s label next) :
    Happened step start moment (labels ++ [label]) :=
  ⟨labels,label,[],s,next,rfl,run,taken,was⟩

/-- The record kept along a run, where `note` says how it goes on with a step. -/
def recorded {R : Type} (step : S → L → Option S) (note : S → L → S → R → R) :
    S → R → List L → R
  | _, record, [] => record
  | s, record, label :: rest =>
    match step s label with
    | some next => recorded step note next (note s label next record) rest
    | none => record

theorem recorded_append {R : Type} {note : S → L → S → R → R} {first mid : S} {front : List L}
    (run : execute step first front = some mid) (record : R) (back : List L) :
    recorded step note first record (front ++ back) =
      recorded step note mid (recorded step note first record front) back := by
  induction front generalizing first record with
  | nil =>
    cases run
    rfl
  | cons label rest ih =>
    rw [execute_cons,Option.bind_eq_some_iff] at run
    obtain ⟨next,taken,later⟩ := run
    simp only [List.cons_append,recorded,taken]
    exact ih later _

/-- The last step of a run is noted last. -/
theorem recorded_last {R : Type} {note : S → L → S → R → R} {s next : S} {label : L}
    (run : execute step start labels = some s) (taken : step s label = some next) (record : R) :
    recorded step note start record (labels ++ [label]) =
      note s label next (recorded step note start record labels) := by
  rw [recorded_append run]
  simp only [recorded,taken]

end Runs
