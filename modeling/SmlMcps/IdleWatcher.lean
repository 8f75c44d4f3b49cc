import SmlMcps.DaemonAccounting

/-! The idle watcher. It looks at the state under the lock, lets go of it, and asks for
the shutdown in a critical section of its own. Whoever is admitted between the two is
served by a daemon on its way out. -/
namespace SmlMcps

/-- The generation the watcher compares with, while it has one. -/
def WatcherPhase.remembered : WatcherPhase → Option Nat
  | .window generation | .checking generation => some generation
  | _ => none

namespace Daemon

variable {limits : DaemonLimits} {daemon next : Daemon} {label : DaemonLabel}

/-- How many connections had been admitted when the watcher's window began, and when it
came to its decision. -/
structure Window where
  began : Nat
  decided : Nat
  deriving DecidableEq

/-- What the watcher's step adds to the history: entering a window, or deciding. -/
def Window.record (before : Daemon) (_ : DaemonLabel) (after : Daemon) (window : Window) : Window :=
  if before.watcher = after.watcher then window
  else match after.watcher with
    | .window _ => { window with began := after.connections.length }
    | .requesting => { window with decided := after.connections.length }
    | _ => window

/-! ## The watcher's moves -/

/-- Every way the watcher's phase can change. Nothing else changes with it until it asks
for the shutdown. -/
inductive WatcherMove (daemon next : Daemon) : Prop where
  | entered (phase : next.watcher = .window daemon.conn.generation)
  | asked (generation : Nat) (before : daemon.watcher = .window generation)
      (phase : next.watcher = .checking generation)
  | decided (generation : Nat) (before : daemon.watcher.remembered = some generation)
      (phase : next.watcher = .requesting) (idle : daemon.conn.active = 0)
      (same : daemon.conn.generation = generation)
  | rested (forgotten : next.watcher.remembered = none) (undecided : next.watcher ≠ .requesting)

theorem lookStep_move (daemon : Daemon) : WatcherMove daemon daemon.lookStep := by
  simp only [lookStep]
  split
  · exact .rested rfl (fun same => by cases same)
  · split
    · exact .rested rfl (fun same => by cases same)
    · exact .entered rfl

theorem wakeStep_move {generation : Nat} (asleep : daemon.watcher = .window generation)
    (timedOut : Bool) : WatcherMove daemon (wakeStep limits daemon generation timedOut) := by
  have remembered : daemon.watcher.remembered = some generation := by rw [asleep]; rfl
  simp only [wakeStep]
  split
  · exact .rested rfl (fun same => by cases same)
  · split
    · rename_i idle
      simp only [Bool.and_eq_true,beq_iff_eq] at idle
      cases checks : limits.busyCheck with
      | true => exact .asked generation asleep rfl
      | false => exact .decided generation remembered rfl idle.1.2 idle.2
    · exact .rested rfl (fun same => by cases same)

theorem checkedStep_move {generation : Nat} (asking : daemon.watcher = .checking generation)
    (busy : Bool) : WatcherMove daemon (daemon.checkedStep generation busy) := by
  have remembered : daemon.watcher.remembered = some generation := by rw [asking]; rfl
  simp only [checkedStep]
  split
  · exact .rested rfl (fun same => by cases same)
  · split
    · exact .rested rfl (fun same => by cases same)
    · rename_i free
      simp only [Bool.or_eq_true,bne_iff_ne,ne_eq,not_or,not_not] at free
      exact .decided generation remembered rfl free.1.2 free.2

theorem admitStep_watcher (index : Nat) :
    (admitStep limits daemon index).watcher = daemon.watcher := by
  simp only [admitStep]
  split <;> rfl

/-- Either a thread other than the watcher moved, or the watcher did and the list of
connections is as it was. -/
theorem watcher_cases (taken : step limits daemon label = some next) :
    next.watcher = daemon.watcher ∨
      (WatcherMove daemon next ∧ admits limits daemon label = false) := by
  cases step_taken taken with
  | @admission index => exact .inl (admitStep_watcher index)
  | accept _ accepted => cases accepted <;> exact .inl rfl
  | spawn _ started => cases started <;> exact .inl rfl
  | look => exact .inr ⟨lookStep_move daemon,rfl⟩
  | wake asleep timedOut => exact .inr ⟨wakeStep_move asleep timedOut,rfl⟩
  | checked asking busy => exact .inr ⟨checkedStep_move asking busy,rfl⟩
  | request => exact .inr ⟨.rested rfl (fun same => by cases same),rfl⟩
  | recheck | release | finish | dropGuard | shutdown => exact .inl rfl

/-! ## What the watcher knows -/

/-- The generation counts the admissions, modulo its width. So the watcher's comparison
tells how many came in its window, up to full turns of the counter. -/
structure Watched (state : Daemon × Window) : Prop where
  counted : state.1.conn.generation = state.1.connections.length % 2^64
  began : ∀ generation, state.1.watcher.remembered = some generation →
    generation = state.2.began % 2^64 ∧ state.2.began ≤ state.1.connections.length
  decided : state.1.watcher = .requesting →
    state.2.decided % 2^64 = state.2.began % 2^64 ∧ state.2.began ≤ state.2.decided ∧
      state.2.decided ≤ state.1.connections.length
  idle : state.1.watcher = .requesting → state.2.decided = state.1.connections.length →
    state.1.conn.active = 0

theorem step_counted (counted : daemon.conn.generation = daemon.connections.length % 2^64)
    (taken : step limits daemon label = some next) :
    next.conn.generation = next.connections.length % 2^64 ∧
      daemon.connections.length ≤ next.connections.length := by
  rcases step_cases taken with ⟨_,admitted⟩ | ⟨_,kept⟩
  · rw [admitted.conn,admitted.connections,List.length_append]
    refine ⟨?_,Nat.le_add_right _ _⟩
    change (daemon.conn.generation + 1) % 2^64 = _
    rw [counted]
    exact Nat.mod_add_mod _ _ _
  · have same : next.conn.generation = daemon.conn.generation := by
      rw [kept.conn]
      split
      · rfl
      · split <;> rfl
    rw [same,kept.length]
    exact ⟨counted,Nat.le_refl _⟩

theorem Keeps.active_le (kept : Keeps daemon label next) :
    next.conn.active ≤ daemon.conn.active := by
  rw [kept.conn]
  split
  · exact Nat.sub_le _ _
  · split <;> exact Nat.le_refl _

theorem Keeps.idle (kept : Keeps daemon label next) (idle : daemon.conn.active = 0) :
    next.conn.active = 0 :=
  Nat.le_zero.mp (idle ▸ kept.active_le)

/-- Another thread moved: the history stays, and an idle daemon stays so unless the list
grows. -/
theorem Watched.other {window : Window} (watched : Watched (daemon,window))
    (taken : step limits daemon label = some next) (still : next.watcher = daemon.watcher) :
    Watched (next,window) := by
  obtain ⟨counted,longer⟩ := step_counted watched.counted taken
  refine ⟨counted,?_,?_,?_⟩
  · intro generation remembered
    rw [show (next,window).1.watcher = daemon.watcher from still] at remembered
    obtain ⟨same,early⟩ := watched.began generation remembered
    exact ⟨same,early.trans longer⟩
  · intro requesting
    obtain ⟨same,early,late⟩ := watched.decided (still.symm.trans requesting)
    exact ⟨same,early,late.trans longer⟩
  · intro requesting all
    rcases step_cases taken with ⟨_,admitted⟩ | ⟨_,kept⟩
    · have late := (watched.decided (still.symm.trans requesting)).2.2
      have grown := congrArg List.length admitted.connections
      simp only [List.length_append,List.length_singleton] at grown
      simp only at all late grown
      omega
    · exact kept.idle (watched.idle (still.symm.trans requesting) (all.trans kept.length))

theorem Watched.entered {window : Window} (watched : Watched (daemon,window))
    (kept : Keeps daemon label next) (taken : step limits daemon label = some next)
    (phase : next.watcher = .window daemon.conn.generation) :
    Watched (next,{ window with began := next.connections.length }) := by
  refine ⟨(step_counted watched.counted taken).1,?_,?_,?_⟩
  · intro generation remembered
    simp only [phase,WatcherPhase.remembered,Option.some.injEq] at remembered
    refine ⟨?_,Nat.le_refl _⟩
    rw [← remembered,watched.counted,kept.length]
  · exact fun requesting => nomatch phase.symm.trans requesting
  · exact fun requesting => nomatch phase.symm.trans requesting

theorem Watched.asked {window : Window} (watched : Watched (daemon,window))
    (taken : step limits daemon label = some next) {generation : Nat}
    (before : daemon.watcher = .window generation) (phase : next.watcher = .checking generation) :
    Watched (next,window) := by
  obtain ⟨counted,longer⟩ := step_counted watched.counted taken
  refine ⟨counted,?_,?_,?_⟩
  · intro known remembered
    simp only [phase,WatcherPhase.remembered,Option.some.injEq] at remembered
    subst remembered
    obtain ⟨same,early⟩ := watched.began generation (by simp only [before]; rfl)
    exact ⟨same,early.trans longer⟩
  · exact fun requesting => nomatch phase.symm.trans requesting
  · exact fun requesting => nomatch phase.symm.trans requesting

theorem Watched.conclude {window : Window} (watched : Watched (daemon,window))
    (kept : Keeps daemon label next) (taken : step limits daemon label = some next)
    {generation : Nat} (before : daemon.watcher.remembered = some generation)
    (phase : next.watcher = .requesting) (idle : daemon.conn.active = 0)
    (same : daemon.conn.generation = generation) :
    Watched (next,{ window with decided := next.connections.length }) := by
  obtain ⟨counted,longer⟩ := step_counted watched.counted taken
  obtain ⟨remembered,early⟩ := watched.began generation before
  refine ⟨counted,?_,?_,?_⟩
  · intro known other
    simp only [phase] at other
    cases other
  · intro _
    refine ⟨?_,early.trans longer,Nat.le_refl _⟩
    change next.connections.length % 2^64 = window.began % 2^64
    rw [kept.length,← watched.counted,← remembered]
    exact same
  · intro _ _
    exact kept.idle idle

theorem step_watched (state : Daemon × Window) (label : DaemonLabel) (next : Daemon × Window)
    (watched : Watched state)
    (observed : Runs.observed (step limits) Window.record state label = some next) :
    Watched next := by
  obtain ⟨taken,recorded⟩ := Runs.observed_step observed
  obtain ⟨daemon,window⟩ := state
  obtain ⟨after,history⟩ := next
  simp only [Window.record] at taken recorded
  rcases watcher_cases taken with still | ⟨moved,unadmitted⟩
  · rw [if_pos still.symm] at recorded
    exact recorded ▸ watched.other taken still
  · have kept : Keeps daemon label after := by
      rcases step_cases taken with ⟨admitted,_⟩ | ⟨_,kept⟩
      · rw [unadmitted] at admitted
        cases admitted
      · exact kept
    by_cases still : daemon.watcher = after.watcher
    · rw [if_pos still] at recorded
      exact recorded ▸ watched.other taken still.symm
    rw [if_neg still] at recorded
    cases moved with
    | entered phase =>
      rw [phase] at recorded
      exact recorded ▸ watched.entered kept taken phase
    | asked generation before phase =>
      rw [phase] at recorded
      exact recorded ▸ watched.asked taken before phase
    | decided generation before phase idle same =>
      rw [phase] at recorded
      exact recorded ▸ watched.conclude kept taken before phase idle same
    | rested forgotten undecided =>
      refine ⟨(step_counted watched.counted taken).1,?_,?_,?_⟩
      · intro generation remembered
        rw [forgotten] at remembered
        cases remembered
      · exact fun requesting => (undecided requesting).elim
      · exact fun requesting => (undecided requesting).elim

theorem start_watched (listeners : Nat) (watched : Bool) (window : Window) :
    Watched (start listeners watched,window) := by
  cases watched <;> exact ⟨rfl,nofun,nofun,nofun⟩

/-! ## The shutdown request -/

/-- Nobody is served, and nobody was admitted since the window began. -/
def Idle (daemon : Daemon) (window : Window) : Prop :=
  daemon.conn.active = 0 ∧ daemon.connections.length = window.began

instance (daemon : Daemon) (window : Window) : Decidable (Idle daemon window) :=
  inferInstanceAs (Decidable (_ ∧ _))

/-- No client was admitted between the watcher's last look and its request, and those
admitted in its window did not take the counter once around. -/
def Undisturbed (daemon : Daemon) (window : Window) : Prop :=
  daemon.connections.length = window.decided ∧ window.decided < window.began + 2^64

theorem Idle.run {window : Window} (idle : Idle daemon window) (down : daemon.conn.shutdown = true)
    {labels : List DaemonLabel} {final : Daemon}
    (run : Runs.execute (step limits) daemon labels = some final) : Idle final window := by
  have kept := @Runs.invariant Daemon DaemonLabel (step limits)
    (fun reached => reached.conn.shutdown = true ∧ Idle reached window) ?_ daemon final labels run
    ⟨down,idle⟩
  · exact kept.2
  · intro reached label next ⟨down,idle⟩ taken
    refine ⟨(step_closed down taken).1,?_,(step_closed down taken).2.trans idle.2⟩
    rcases step_cases taken with ⟨_,admitted⟩ | ⟨_,kept⟩
    · rw [admitted.running] at down
      cases down
    · exact kept.idle idle.1

/-- The watcher's request cuts nobody off, then or later, exactly when no client slipped
in after its decision. -/
theorem idle_shutdown_iff (limits : DaemonLimits) (listeners : Nat) (watched : Bool)
    {labels : List DaemonLabel} {daemon : Daemon} {window : Window}
    (run : Runs.execute (Runs.observed (step limits) Window.record)
      (start listeners watched,⟨0,0⟩) labels = some (daemon,window))
    {next : Daemon} (asked : step limits daemon .request = some next) :
    (∀ rest final, Runs.execute (step limits) next rest = some final → Idle final window) ↔
      Undisturbed daemon window := by
  have known : Watched (daemon,window) :=
    Runs.invariant step_watched run (start_watched listeners watched ⟨0,0⟩)
  obtain ⟨requesting,after⟩ : daemon.watcher = .requesting ∧
      next = (daemon.setConn daemon.conn.requestShutdown).setWatcher .returned := by
    cases step_taken asked with
    | request requesting => exact ⟨requesting,rfl⟩
  have untouched : Idle next window ↔ Idle daemon window := by rw [after]; rfl
  obtain ⟨turns,early,late⟩ := known.decided requesting
  constructor
  · intro idle
    obtain ⟨_,same⟩ := untouched.mp (idle [] next rfl)
    simp only at early late
    constructor <;> omega
  · rintro ⟨nobody,fewer⟩ rest final later
    have same : window.decided = window.began := by
      simp only at turns early
      omega
    have idle : Idle daemon window :=
      ⟨known.idle requesting nobody.symm,nobody.trans same⟩
    exact (untouched.mpr idle).run (by rw [after]; rfl) later

/-- One client came and went, a window passed, the application was not busy. -/
def quietRun : List DaemonLabel :=
  [.look,.accept 0 .arrived,.admission 0,.spawn 0 true,.wake false,.look,.finish 0 .normal,
    .dropGuard 0,.look,.wake true,.checked false]

theorem quiet_shutdown_cuts_nobody :
    Runs.execute (Runs.observed (step ⟨1,true⟩) Window.record) (start 1 true,⟨0,0⟩) quietRun =
        some (⟨⟨0,1,false⟩,[.accepting],[.ended],.requesting⟩,⟨1,1⟩) ∧
      ∀ rest final,
        Runs.execute (step ⟨1,true⟩) ⟨⟨0,1,true⟩,[.accepting],[.ended],.returned⟩ rest = some final →
        Idle final ⟨1,1⟩ := by
  have run : Runs.execute (Runs.observed (step ⟨1,true⟩) Window.record)
      (start 1 true,⟨0,0⟩) quietRun =
      some (⟨⟨0,1,false⟩,[.accepting],[.ended],.requesting⟩,⟨1,1⟩) := by decide
  exact ⟨run,(idle_shutdown_iff ⟨1,true⟩ 1 true run rfl).mpr ⟨rfl,by decide⟩⟩

/-- The client is admitted between the watcher's decision and its request. -/
def cutOffRun : List DaemonLabel := [.look,.wake true,.accept 0 .arrived,.admission 0,.spawn 0 true]

/-- The client is being served when the watcher raises the flag. -/
theorem client_cut_off :
    ¬ ∀ (limits : DaemonLimits) (listeners : Nat) (labels : List DaemonLabel) (daemon : Daemon)
        (window : Window) (next : Daemon),
      Runs.execute (Runs.observed (step limits) Window.record) (start listeners true,⟨0,0⟩)
        labels = some (daemon,window) → daemon.conn.shutdown = false →
      step limits daemon .request = some next →
      next.conn.active = 0 ∧ next.connections.length = window.began := by
  intro claimed
  have run : Runs.execute (Runs.observed (step ⟨1,false⟩) Window.record) (start 1 true,⟨0,0⟩)
      cutOffRun = some (⟨⟨1,1,false⟩,[.accepting],[.serving],.requesting⟩,⟨0,0⟩) := by decide
  have idle := (claimed ⟨1,false⟩ 1 cutOffRun _ _ _ run rfl rfl).1
  cases idle

end Daemon

end SmlMcps
