import SmlMcps.Library.Progress
import SmlMcps.HttpListener

/-! The accept loop of the HTTP server waits for nobody: what it does with a stream are a few
steps of its own, which no peer, handler or other thread can hold up. -/
namespace SmlMcps
namespace HttpListener

variable {setup : HttpListenerSetup} {listener next : HttpListener}

/-- The steps the accept loop takes for a stream. -/
def loopStep : HttpListenerLabel → Bool
  | .load | .compare _ | .refuse | .spawn _ => true
  | _ => false

/-- The steps the loop has yet to take for the stream it has, if no exchange fails. -/
def ahead (listener : HttpListener) : Nat :=
  match listener.loop with
  | .waiting => 0
  | .accepted _ => 3
  | .counted _ _ => 2
  | .full _ | .claimed _ => 1

/-- An exchange fails: the count has changed since it was read, or it fails for nothing. -/
def exchangeFails (setup : HttpListenerSetup) (listener : HttpListener) :
    HttpListenerLabel → Bool
  | .compare spurious => match listener.loop with
    | .counted _ count =>
      decide (count < setup.maxConnections) && (spurious || listener.live != count)
    | _ => false
  | _ => false

/-- What keeps the loop busy: a stream, and an exchange that fails. -/
def charge (setup : HttpListenerSetup) (listener : HttpListener) : HttpListenerLabel → Nat
  | .accept => 3
  | label => (exchangeFails setup listener label).toNat

theorem ahead_charged {label : HttpListenerLabel}
    (took : step setup listener label = some next) :
    next.ahead + (loopStep label).toNat ≤ listener.ahead + charge setup listener label := by
  cases step_taken took with
  | accept at_ => simp [ahead,at_,loopStep,charge]
  | acceptFails => simp [loopStep]
  | load at_ => simp [ahead,at_,loopStep]
  | above at_ full => simp [ahead,at_,loopStep]
  | won at_ below same => simp [ahead,at_,loopStep]
  | @lost stream count spurious at_ below moved =>
    have fails : charge setup listener (.compare spurious) = 1 := by
      simp only [charge,exchangeFails,at_,below,decide_true,Bool.true_and,Bool.toNat_eq_one,
        Bool.or_eq_true,bne_iff_ne]
      exact or_iff_not_imp_right.mpr fun same => moved (not_not.mp same)
    rw [fails]
    simp [ahead,at_,loopStep]
  | refuse at_ =>
    unfold HttpListener.refuse
    split <;> simp [ahead,at_,loopStep]
  | started at_ => simp [ahead,at_,loopStep]
  | unspawned at_ => simp [ahead,at_,loopStep]
  | finish => simp [ahead,loopStep]
  | takeRefused => simp [ahead,loopStep]
  | answerRefused => simp [ahead,loopStep]

/-- How far the loop is from the next stream, if nobody else moves: it may have to count once
more. -/
def distance (listener : HttpListener) : Nat :=
  match listener.loop with
  | .counted _ count => if listener.live = count then 2 else 3
  | _ => listener.ahead

/-- While the loop has a stream it can take a step that brings it nearer to the next. -/
theorem loop_goes (listener : HttpListener) (busy : listener.loop ≠ .waiting) :
    ∃ label next, loopStep label = true ∧ step setup listener label = some next ∧
      next.distance < listener.distance := by
  cases at_ : listener.loop with
  | waiting => exact (busy at_).elim
  | accepted stream =>
    refine ⟨.load,_,rfl,by simp only [step,at_]; rfl,?_⟩
    simp [distance,ahead,at_]
  | counted stream count =>
    refine ⟨.compare false,_,rfl,by simp only [step,at_]; rfl,?_⟩
    by_cases full : setup.maxConnections ≤ count
    · rw [if_pos full]
      simp only [distance,ahead,at_]
      split <;> omega
    · by_cases same : listener.live = count
      · simp [distance,ahead,at_,full,same]
      · simp [distance,at_,full,same]
  | full stream =>
    refine ⟨.refuse,_,rfl,by simp only [step,at_]; rfl,?_⟩
    unfold HttpListener.refuse
    split <;> simp [distance,ahead,at_]
  | claimed stream =>
    refine ⟨.spawn true,_,rfl,by simp only [step,at_]; rfl,?_⟩
    simp [distance,ahead,at_]

theorem waiting_of_distance (near : listener.distance = 0) : listener.loop = .waiting := by
  unfold distance ahead at near
  split at near
  · split at near <;> omega
  · split at near <;> first | assumption | omega

theorem loop_returns (listener : HttpListener) : ∃ labels final,
    (∀ label ∈ labels, loopStep label = true) ∧ labels.length ≤ listener.distance ∧
      Runs.execute (step setup) listener labels = some final ∧ final.loop = .waiting := by
  obtain ⟨labels,final,own,short,run,-,near⟩ := @Runs.goes_down _ _ (step setup) (fun _ => True)
    loopStep distance (fun listener _ far => by
      have busy : listener.loop ≠ .waiting := fun waiting => far (by simp [distance,ahead,waiting])
      obtain ⟨label,next,own,took,nearer⟩ := @loop_goes setup listener busy
      exact ⟨label,next,own,took,trivial,nearer⟩) listener trivial
  exact ⟨labels,final,own,short,run,waiting_of_distance near⟩

/-- The accept loop waits for no peer, no handler and no refusal: from any state it comes back
to the next stream by at most three steps of its own, and in a whole run it takes at most three
for each stream and one for each exchange that fails. -/
theorem loop_never_held (setup : HttpListenerSetup) (labels : List HttpListenerLabel)
    (listener : HttpListener)
    (run : Runs.execute (step setup) {} labels = some listener) :
    (∃ more final, (∀ label ∈ more, loopStep label = true) ∧ more.length ≤ 3 ∧
      Runs.execute (step setup) listener more = some final ∧ final.loop = .waiting) ∧
    labels.countP loopStep ≤ Runs.spent (step setup) (charge setup) {} labels := by
  constructor
  · obtain ⟨more,final,own,short,goes,waiting⟩ := @loop_returns setup listener
    refine ⟨more,final,own,Nat.le_trans short ?_,goes,waiting⟩
    unfold distance ahead
    split
    · split <;> omega
    · split <;> omega
  · have charged : listener.ahead + labels.countP loopStep ≤
        0 + Runs.spent (step setup) (charge setup) {} labels :=
      Runs.spent_le (fun _ _ _ took => ahead_charged took) run
    rw [Nat.zero_add] at charged
    exact Nat.le_trans (Nat.le_add_left _ _) charged

theorem loop_never_held_one :
    (∃ more final, (∀ label ∈ more, loopStep label = true) ∧ more.length ≤ 3 ∧
      Runs.execute (step ⟨1,false,true⟩) oneSlotAfter more = some final ∧
        final.loop = .waiting) ∧
    oneSlot.countP loopStep ≤ Runs.spent (step ⟨1,false,true⟩) (charge ⟨1,false,true⟩) {} oneSlot :=
  loop_never_held ⟨1,false,true⟩ oneSlot oneSlotAfter rfl

end HttpListener
end SmlMcps
