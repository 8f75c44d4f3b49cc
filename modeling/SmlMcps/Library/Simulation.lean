import SmlMcps.Library.Runs

/-! The runs of one system as runs of another. Seen through `view`, a step is either none
of the other system's or one of them; what entitles the system to that step is a fact
about its state that no later step takes back. -/
namespace Runs

variable {S L T M : Type}

/-- From the states of an invariant every step is seen as no step or as one, for which
the state has a title. Titles are kept. -/
structure Simulates (step : S → L → Option S) (other : T → M → Option T) (view : S → T)
    (inv : S → Prop) (title : S → M → Prop) : Prop where
  kept : ∀ s label next, inv s → step s label = some next → inv next
  follows : ∀ s label next, inv s → step s label = some next →
    view next = view s ∨ ∃ m, title s m ∧ other (view s) m = some (view next)
  persists : ∀ s label next m, step s label = some next → title s m → title next m

variable {step : S → L → Option S} {other : T → M → Option T} {view : S → T} {inv : S → Prop}
  {title : S → M → Prop}

theorem Simulates.persists_run (simulates : Simulates step other view inv title) {s final : S}
    {labels : List L} {m : M} (run : execute step s labels = some final) (held : title s m) :
    title final m :=
  invariant (fun s label next held taken => simulates.persists s label next m taken held) run held

/-- A run is seen as a run, and in the end there is a title for every step of that. -/
theorem Simulates.run (simulates : Simulates step other view inv title) {s final : S}
    {labels : List L} (run : execute step s labels = some final) (holds : inv s) :
    ∃ seen, execute other (view s) seen = some (view final) ∧ ∀ m ∈ seen, title final m := by
  induction labels generalizing s with
  | nil =>
    cases run
    exact ⟨[],rfl,by simp⟩
  | cons label rest ih =>
    rw [execute_cons,Option.bind_eq_some_iff] at run
    obtain ⟨next,taken,later⟩ := run
    obtain ⟨seen,walked,titled⟩ := ih later (simulates.kept s label next holds taken)
    rcases simulates.follows s label next holds taken with same | ⟨m,held,moved⟩
    · exact ⟨seen,same ▸ walked,titled⟩
    · refine ⟨m :: seen,?_,?_⟩
      · rw [execute_cons,moved]
        exact walked
      · intro each member
        rcases List.mem_cons.mp member with rfl | older
        · exact simulates.persists_run later (simulates.persists s label next _ taken held)
        · exact titled each older

end Runs
