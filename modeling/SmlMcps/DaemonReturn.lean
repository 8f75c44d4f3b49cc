import SmlMcps.DaemonShutdown

/-! The return of `serve_listeners`. When the first listener's loop has ended, its thread
wakes every listener and joins the other loops. That the knocks are answered is the contract of
a listener; that nothing else in `serve_listeners` can hold the thread up is shown here. The
join of the idle watcher, which `run` makes after it, is left out. -/
namespace SmlMcps

namespace Serving

variable {limits : DaemonLimits} {serving next : Serving}

/-- The daemon whose listeners all answer the knock of the serving thread. -/
def answering (limits : DaemonLimits) (serving : Serving) (label : ServingLabel) : Option Serving :=
  if label = .wakeNext false then none else step limits serving label

/-- The steps of the way out: of an accept loop, or of the serving thread. -/
def leaves : ServingLabel → Bool
  | .daemon label _ => (turn label).isSome
  | .ask | .wakeNext _ | .join => true
  | _ => false

/-- How many steps that thread still has, once it has put the flag up. -/
def errands (listeners : Nat) : MainPhase → Nat
  | .accepting => 0
  | .waking listener => (listeners - listener) + listeners + 3
  | .joining listener => (listeners - listener) + 2
  | .returned => 0

/-- The listeners that thread has dealt with: roused by it, and then joined. -/
def dealt (serving : Serving) : MainPhase → Prop
  | .accepting => False
  | .waking listener => ∀ i < listener, i < serving.daemon.listeners.length → Roused i serving
  | .joining listener => (∀ i < serving.daemon.listeners.length, Roused i serving) ∧
      ∀ i < listener, i < serving.daemon.listeners.length →
        serving.daemon.listeners[i]? = some .stopped
  | .returned => ∀ i < serving.daemon.listeners.length,
      serving.daemon.listeners[i]? = some .stopped

structure Leaving (serving : Serving) : Prop where
  raised : Raised serving
  down : serving.daemon.conn.shutdown = true
  primary : serving.daemon.listeners[0]? = some .stopped
  dealt : dealt serving serving.main

def loops (serving : Serving) : Nat := (serving.daemon.listeners.map distance).sum

/-- The steps left of all the accept loops and of the thread that joins them. -/
def left (serving : Serving) : Nat :=
  loops serving + errands serving.daemon.listeners.length serving.main

theorem sum_distance_le (listeners : List AcceptPhase) :
    (listeners.map distance).sum ≤ 4 * listeners.length := by
  induction listeners with
  | nil => exact Nat.le_refl _
  | cons phase rest ih =>
    have one := distance_le phase
    simp only [List.map_cons,List.sum_cons,List.length_cons]
    omega

theorem loops_daemon {daemon : Daemon} {label : DaemonLabel}
    (down : serving.daemon.conn.shutdown = true)
    (taken : Daemon.step limits serving.daemon label = some daemon) :
    (daemon.listeners.map distance).sum + (turn label).isSome.toNat ≤ loops serving := by
  rcases step_loop down taken with ⟨idle,same⟩ | ⟨listener,phase,now,mine,there,moves,set_⟩
  · rw [idle,same]
    exact Nat.le_refl _
  · have sum := Runs.sum_set distance now there
    have nearer := moves.nearer
    rw [mine,set_,Option.isSome_some,Bool.toNat_true,loops]
    omega

theorem stopped_stays {daemon : Daemon} {label : DaemonLabel} {i : Nat}
    (down : serving.daemon.conn.shutdown = true)
    (taken : Daemon.step limits serving.daemon label = some daemon)
    (stopped : serving.daemon.listeners[i]? = some .stopped) :
    daemon.listeners[i]? = some .stopped := by
  rcases step_loop down taken with ⟨_,same⟩ | ⟨listener,phase,now,_,there,moves,set_⟩
  · rw [same,stopped]
  · by_cases here : listener = i
    · subst here
      rw [there] at stopped
      cases stopped
      cases moves
    · rw [set_,List.getElem?_set_ne here,stopped]

/-- What the threads have dealt with stays so under every step that leaves `main` alone. -/
theorem dealt_stays {main : MainPhase} {label : ServingLabel} (done : dealt serving main)
    (taken : step limits serving label = some next)
    (length : next.daemon.listeners.length = serving.daemon.listeners.length)
    (stays : ∀ i : Nat, serving.daemon.listeners[i]? = some .stopped →
      next.daemon.listeners[i]? = some .stopped) : dealt next main := by
  cases main with
  | accepting => exact done
  | waking listener =>
    intro i before inside
    exact ((done i before (length ▸ inside)).step taken).1
  | joining listener =>
    refine ⟨fun i inside => ((done.1 i (length ▸ inside)).step taken).1,?_⟩
    intro i before inside
    exact stays i (done.2 i before (length ▸ inside))
  | returned =>
    intro i inside
    exact stays i (done i (length ▸ inside))

theorem Leaving.step {label : ServingLabel} (leaving : Leaving serving)
    (taken : answering limits serving label = some next) :
    Leaving next ∧ left next + (leaves label).toNat ≤ left serving := by
  simp only [answering] at taken
  split at taken
  · cases taken
  · rename_i reaching
    have raised := leaving.raised.step taken
    cases step_taken taken with
    | @daemon label drawn backlog daemon drew moved =>
      have length := daemon_length moved
      have stays (i : Nat) := @stopped_stays limits serving daemon label i leaving.down moved
      refine ⟨⟨raised,(Daemon.step_closed leaving.down moved).1,stays 0 leaving.primary,
        dealt_stays leaving.dealt taken length stays⟩,?_⟩
      have lower := loops_daemon leaving.down moved
      simp only [left,loops,leaves,length] at lower ⊢
      omega
    | connect listener =>
      refine ⟨⟨raised,by simp [leaving.down],by simp [leaving.primary],?_⟩,?_⟩
      · exact dealt_stays leaving.dealt taken (by simp) (by simp)
      · simp [left,loops,leaves,knock]
    | @wake waker listener found inside reached =>
      refine ⟨⟨raised,by simp [leaving.down],by simp [leaving.primary],?_⟩,?_⟩
      · have main : (serving.knock listener reached).main = serving.main := by
          cases reached <;> rfl
        have kept := dealt_stays leaving.dealt taken (by simp) (by simp)
        simpa only [main] using kept
      · cases reached <;> simp [left,loops,leaves,knock]
    | ask accepting _ =>
      have done := leaving.dealt
      rw [accepting] at done
      exact done.elim
    | @wakeNext listener waking inside reached =>
      have done := leaving.dealt
      rw [waking] at done
      cases reached with
      | false => exact (reaching rfl).elim
      | true =>
        refine ⟨⟨raised,leaving.down,leaving.primary,?_⟩,?_⟩
        · intro i before within
          by_cases here : i = listener
          · subst here
            exact leaving.raised.wakes taken (by simp only [wakes,waking,if_pos inside])
          · exact ((done i (by omega) within).step taken).1
        · simp only [left,loops,leaves,knock,if_true,errands,waking,Bool.toNat_true]
          omega
    | @woken listener waking outside reached =>
      have done := leaving.dealt
      rw [waking] at done
      refine ⟨⟨raised,leaving.down,leaving.primary,?_,?_⟩,?_⟩
      · intro i within
        exact ((done i (Nat.lt_of_lt_of_le within outside) within).step taken).1
      · intro i before _
        obtain rfl : i = 0 := by omega
        exact leaving.primary
      · simp only [left,loops,leaves,errands,waking,Bool.toNat_true]
        omega
    | @join listener joining stopped =>
      have done := leaving.dealt
      rw [joining] at done
      refine ⟨⟨raised,leaving.down,leaving.primary,?_,?_⟩,?_⟩
      · intro i within
        exact ((done.1 i within).step taken).1
      · intro i before within
        by_cases here : i = listener
        · exact here ▸ stopped
        · exact done.2 i (by omega) within
      · have inside := (List.getElem?_eq_some_iff.mp stopped).1
        simp only [left,loops,leaves,errands,joining,Bool.toNat_true]
        omega
    | @joined listener joining outside =>
      have done := leaving.dealt
      rw [joining] at done
      have past := List.getElem?_eq_none_iff.mp outside
      refine ⟨⟨raised,leaving.down,leaving.primary,?_⟩,?_⟩
      · intro i within
        exact done.2 i (Nat.lt_of_lt_of_le within past) within
      · simp only [left,loops,leaves,errands,joining,Bool.toNat_true]
        omega

theorem leaving_ranked (limits : DaemonLimits) :
    Runs.Ranked (answering limits) Leaving leaves left where
  kept _ _ _ leaving taken := (leaving.step taken).1
  lowered _ _ _ leaving taken := (leaving.step taken).2

/-- Until `serve_listeners` has returned, a loop or the thread that joins them can go on. -/
theorem Leaving.goes (limits : DaemonLimits) (leaving : Leaving serving)
    (serves : serving.main ≠ .returned) :
    ∃ label next, leaves label = true ∧ answering limits serving label = some next := by
  have done := leaving.dealt
  cases main : serving.main with
  | accepting =>
    rw [main] at done
    exact done.elim
  | waking listener =>
    have enabled : ∃ next, answering limits serving (.wakeNext true) = some next := by
      simp only [answering,Serving.step,main]
      by_cases inside : listener < serving.daemon.listeners.length <;> simp [inside]
    obtain ⟨next,taken⟩ := enabled
    exact ⟨.wakeNext true,next,rfl,taken⟩
  | joining listener =>
    rw [main] at done
    have joins (found : serving.daemon.listeners[listener]? = none ∨
        serving.daemon.listeners[listener]? = some .stopped) :
        ∃ next, answering limits serving .join = some next := by
      simp only [answering,Serving.step,main]
      rcases found with found | found <;> simp [found]
    cases found : serving.daemon.listeners[listener]? with
    | none =>
      obtain ⟨next,taken⟩ := joins (.inl found)
      exact ⟨.join,next,rfl,taken⟩
    | some phase =>
      by_cases stopped : phase = .stopped
      · obtain ⟨next,taken⟩ := joins (.inr (stopped ▸ found))
        exact ⟨.join,next,rfl,taken⟩
      · have roused := done.1 listener (List.getElem?_eq_some_iff.mp found).1
        have running : serving.daemon.listeners[listener]? ≠ some .stopped := by
          rw [found]
          exact fun same => stopped (Option.some.inj same)
        obtain ⟨label,next,mine,taken⟩ := roused.turns limits running
        cases label with
        | daemon label drawn =>
          simp only [loopSteps,beq_iff_eq] at mine
          exact ⟨.daemon label drawn,next,by simp [leaves,mine],by simpa [answering] using taken⟩
        | _ => cases mine
  | returned => exact (serves main).elim

theorem Leaving.returned (leaving : Leaving serving) (finished : serving.main = .returned) :
    left serving = 0 := by
  have done := leaving.dealt
  rw [finished] at done
  have none_left : loops serving = 0 := by
    rw [loops,List.sum_eq_zero_iff_forall_eq_nat]
    intro steps member
    obtain ⟨phase,among,rfl⟩ := List.mem_map.mp member
    obtain ⟨i,inside,rfl⟩ := List.mem_iff_getElem.mp among
    have stopped := done i inside
    rw [List.getElem?_eq_getElem inside,Option.some.injEq] at stopped
    rw [stopped]
    rfl
  simp only [left,none_left,finished,errands]

/-- Once the first listener's loop has ended, in whatever way, `serve_listeners` returns. From
the moment its thread asks for the shutdown, with listeners that answer the knock, the accept
loops and that thread take a bounded number of steps in any interleaving, some step of
theirs is enabled until `serve_listeners` has returned, and when it has, every loop has ended. -/
theorem serve_returns (limits : DaemonLimits) (spawned : List Bool) (watched : Bool)
    {front : List ServingLabel}
    (run : Runs.execute (step limits) (serveListeners spawned watched) front = some serving)
    (asked : step limits serving .ask = some next) :
    (∃ way final, (∀ label ∈ way, leaves label = true) ∧
        Runs.execute (answering limits) next way = some final ∧ final.main = .returned) ∧
      ∀ back final, Runs.execute (answering limits) next back = some final →
        back.countP leaves ≤ 6 * next.daemon.listeners.length + 3 ∧
        (final.main ≠ .returned →
          ∃ label after, leaves label = true ∧ answering limits final label = some after) ∧
        (final.main = .returned → ∀ i < final.daemon.listeners.length,
          final.daemon.listeners[i]? = some .stopped) := by
  have raised : Raised serving :=
    Runs.invariant (fun _ _ _ raised taken => Raised.step raised taken) run
      (serveListeners_raised spawned watched)
  have start : Leaving next := by
    have onward := raised.step asked
    cases step_taken asked with
    | ask _ stopped =>
      exact ⟨onward,rfl,stopped,fun i before => absurd before (Nat.not_lt_zero i)⟩
  have bound : left next ≤ 6 * next.daemon.listeners.length + 3 := by
    have each := sum_distance_le next.daemon.listeners
    have waking : next.main = .waking 0 := by
      cases step_taken asked with
      | ask => rfl
    simp only [left,loops,waking,errands]
    omega
  refine ⟨?_,?_⟩
  · obtain ⟨way,final,own,walked,still,zero⟩ := (leaving_ranked limits).settles (by
      intro s leaving remains
      apply leaving.goes limits
      exact fun finished => remains (leaving.returned finished)) start
    refine ⟨way,final,own,walked,?_⟩
    have none_left : errands final.daemon.listeners.length final.main = 0 := by
      simp only [left] at zero
      omega
    have done := still.dealt
    cases main : final.main with
    | accepting =>
      rw [main] at done
      exact done.elim
    | waking | joining =>
      rw [main] at none_left
      simp [errands] at none_left
    | returned => rfl
  · intro back final walked
    have still : Leaving final := Runs.invariant (leaving_ranked limits).kept walked start
    have count := (leaving_ranked limits).count_le start walked
    refine ⟨by omega,still.goes limits,?_⟩
    intro finished
    have done := still.dealt
    rw [finished] at done
    exact done

/-- Two listeners beside the first, of which the second got no thread. -/
theorem serve_returns_refused :
    ∃ next, step ⟨1,false⟩ (serveListeners [true,false] false) .ask = some next ∧
      ∃ way final, (∀ label ∈ way, leaves label = true) ∧
        Runs.execute (answering ⟨1,false⟩) next way = some final ∧ final.main = .returned := by
  have asked : step ⟨1,false⟩ (serveListeners [true,false] false) .ask =
      some ⟨⟨⟨0,0,true⟩,[.stopped,.accepting,.stopped],[],.absent⟩,[0,0,0],[],.waking 0⟩ := by
    decide
  exact ⟨_,asked,(serve_returns ⟨1,false⟩ [true,false] false
    (Runs.execute_nil (serveListeners [true,false] false)) asked).1⟩

end Serving

end SmlMcps
