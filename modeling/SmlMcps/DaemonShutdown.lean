import SmlMcps.DaemonAccounting
import SmlMcps.Library.Progress

/-! The daemon on its way out. An accept loop is parked in `accept` until somebody
connects, so whoever asks for the shutdown puts the flag up first and then connects to
every listener in turn. The serving thread runs the first listener's loop; when that has
ended it asks for the shutdown as well, and joins the others. -/
namespace SmlMcps

/-- Where the serving thread is in `serve_listeners`, and `returned` once it has come out of it. -/
inductive MainPhase where
  | accepting
  | waking (listener : Nat)
  | joining (listener : Nat)
  | returned
  deriving DecidableEq

/-- `backlog` are the connections that wait at each listener. `wakers` are the other
threads inside `request_shutdown`, each with the listener it is to wake next. -/
structure Serving where
  daemon : Daemon
  backlog : List Nat
  wakers : List Nat
  main : MainPhase
  deriving DecidableEq

/-- `drawn` is about an `accept` that failed: whether it had taken a connection. A wake
that is not `reached` is an error, which nobody looks at. -/
inductive ServingLabel where
  | daemon (label : DaemonLabel) (drawn : Bool)
  | connect (listener : Nat)
  | wake (waker : Nat) (reached : Bool)
  | ask
  | wakeNext (reached : Bool)
  | join
  deriving DecidableEq

namespace Serving

/-- The accept loops of the extra listeners, and whether all have their threads. From
the first that has none on, no loop runs. -/
def spawnAccepting : List Bool → List AcceptPhase × Bool
  | [] => ([],true)
  | true :: rest => (.accepting :: (spawnAccepting rest).1,(spawnAccepting rest).2)
  | false :: rest => (List.replicate (rest.length + 1) .stopped,false)

/-- The primary's loop runs when every other one does. -/
def serveListeners (spawned : List Bool) (watched : Bool) : Serving where
  daemon := { Daemon.start 0 watched with
    listeners := (if (spawnAccepting spawned).2 then AcceptPhase.accepting else .stopped) ::
      (spawnAccepting spawned).1 }
  backlog := 0 :: spawned.map fun _ => 0
  wakers := []
  main := .accepting

/-- What `accept` takes off its listener's queue: the connection it returns, perhaps the
one it failed on, and nothing when it was interrupted. -/
def draw (backlog : List Nat) (drawn : Bool) : DaemonLabel → Option (List Nat)
  | .accept listener accepted =>
    if accepted = .arrived ∨ (accepted = .failed ∧ drawn = true) then
      match backlog[listener]? with
      | some (waiting + 1) => some (backlog.set listener waiting)
      | _ => none
    else some backlog
  | _ => some backlog

def knock (serving : Serving) (listener : Nat) (reached : Bool) : Serving :=
  if reached then { serving with backlog := serving.backlog.modify listener (· + 1) } else serving

def step (limits : DaemonLimits) (serving : Serving) (label : ServingLabel) : Option Serving :=
  match label with
  | .daemon label drawn =>
    match draw serving.backlog drawn label,Daemon.step limits serving.daemon label with
    | some backlog,some daemon => some { serving with
        daemon := daemon
        backlog := backlog
        wakers := if Daemon.requests label then serving.wakers ++ [0] else serving.wakers }
    | _,_ => none
  | .connect listener => some (serving.knock listener true)
  | .wake waker reached =>
    match serving.wakers[waker]? with
    | some listener =>
      if listener < serving.daemon.listeners.length then
        some { serving.knock listener reached with
          wakers := serving.wakers.set waker (listener + 1) }
      else none
    | none => none
  | .ask =>
    match serving.main with
    | .accepting =>
      match serving.daemon.listeners[(0 : Nat)]? with
      | some .stopped => some { serving with
          daemon := serving.daemon.setConn serving.daemon.conn.requestShutdown
          main := .waking 0 }
      | _ => none
    | _ => none
  | .wakeNext reached =>
    match serving.main with
    | .waking listener =>
      if listener < serving.daemon.listeners.length then
        some { serving.knock listener reached with main := .waking (listener + 1) }
      else some { serving with main := .joining 1 }
    | _ => none
  | .join =>
    match serving.main with
    | .joining listener =>
      match serving.daemon.listeners[listener]? with
      | some .stopped => some { serving with main := .joining (listener + 1) }
      | some _ => none
      | none => some { serving with main := .returned }
    | _ => none

/-- The listener a step has just woken. -/
def wakes (serving : Serving) : ServingLabel → Option Nat
  | .wake waker true => serving.wakers[waker]?
  | .wakeNext true => match serving.main with
    | .waking listener => if listener < serving.daemon.listeners.length then some listener else none
    | _ => none
  | _ => none

variable {limits : DaemonLimits} {serving next : Serving}

/-! ## An accept loop's own steps -/

/-- The listener whose loop gets on by the step. -/
def turn : DaemonLabel → Option Nat
  | .accept listener accepted => if accepted = .interrupted then none else some listener
  | .recheck listener | .admission listener | .spawn listener _ | .release listener => some listener
  | _ => none

/-- How many steps a loop is from its end, once the flag is up. -/
def distance : AcceptPhase → Nat
  | .stopped => 0
  | .arrived | .retrying => 1
  | .accepting => 2
  | .unspawned _ => 3
  | .slotted _ => 4

theorem distance_le (phase : AcceptPhase) : distance phase ≤ 4 := by
  cases phase <;> simp [distance]

/-- The loop has ended, or is about to look at the flag. -/
def leaving : AcceptPhase → Bool
  | .stopped | .arrived | .retrying => true
  | _ => false

/-- Where a loop goes by a step of its own under the flag. -/
inductive Moves : AcceptPhase → AcceptPhase → Prop where
  | arrived : Moves .accepting .arrived
  | failed : Moves .accepting .retrying
  | rechecked : Moves .retrying .stopped
  | refused : Moves .arrived .stopped
  | spawned (connection : Nat) : Moves (.slotted connection) .accepting
  | unspawned (connection : Nat) : Moves (.slotted connection) (.unspawned connection)
  | released (connection : Nat) : Moves (.unspawned connection) .accepting

theorem Moves.nearer {before after : AcceptPhase} (moves : Moves before after) :
    distance after + 1 ≤ distance before := by
  cases moves <;> exact Nat.le_add_left _ _

theorem Moves.leaving {before after : AcceptPhase} (moves : Moves before after)
    (left : leaving before = true ∨ before = .accepting) : Serving.leaving after = true := by
  cases moves <;> first | rfl | (rcases left with left | left <;> cases left)

/-- Under the flag a step of the daemon moves the loop whose turn it is, and no other. -/
theorem step_loop {daemon after : Daemon} {label : DaemonLabel}
    (down : daemon.conn.shutdown = true) (taken : Daemon.step limits daemon label = some after) :
    (turn label = none ∧ after.listeners = daemon.listeners) ∨
      ∃ listener phase now, turn label = some listener ∧
        daemon.listeners[listener]? = some phase ∧ Moves phase now ∧
        after.listeners = daemon.listeners.set listener now := by
  cases Daemon.step_taken taken with
  | accept accepting accepted =>
    cases accepted with
    | arrived => exact .inr ⟨_,_,_,rfl,accepting,.arrived,rfl⟩
    | interrupted => exact .inl ⟨rfl,rfl⟩
    | failed => exact .inr ⟨_,_,_,rfl,accepting,.failed,rfl⟩
  | recheck retrying =>
    rw [down]
    exact .inr ⟨_,_,_,rfl,retrying,.rechecked,rfl⟩
  | admission arrived =>
    have closed : daemon.conn.admitOne limits.maxConnections = (daemon.conn,.shuttingDown) := by
      rw [ConnState.admitOne,if_pos down]
    simp only [Daemon.admitStep,closed]
    exact .inr ⟨_,_,_,rfl,arrived,.refused,rfl⟩
  | spawn slotted started =>
    cases started with
    | true => exact .inr ⟨_,_,_,rfl,slotted,.spawned _,rfl⟩
    | false => exact .inr ⟨_,_,_,rfl,slotted,.unspawned _,rfl⟩
  | release unspawned => exact .inr ⟨_,_,_,rfl,unspawned,.released _,rfl⟩
  | look =>
    rw [Daemon.lookStep,if_pos down]
    exact .inl ⟨rfl,rfl⟩
  | wake =>
    rw [Daemon.wakeStep,if_pos down]
    exact .inl ⟨rfl,rfl⟩
  | checked =>
    rw [Daemon.checkedStep,if_pos down]
    exact .inl ⟨rfl,rfl⟩
  | _ => exact .inl ⟨rfl,rfl⟩

/-- Only an `accept` takes a connection off a queue, and only off its own listener's. -/
theorem draw_queue {backlog after : List Nat} {drawn : Bool} {label : DaemonLabel} {i waiting : Nat}
    (taken : draw backlog drawn label = some after) (found : backlog[i]? = some waiting) :
    after[i]? = some waiting ∨
      ∃ accepted, label = .accept i accepted ∧ accepted ≠ .interrupted := by
  cases label with
  | accept listener accepted =>
    simp only [draw] at taken
    split at taken
    · rename_i takes
      split at taken
      · cases taken
        by_cases here : listener = i
        · subst here
          refine .inr ⟨accepted,rfl,?_⟩
          rintro rfl
          rcases takes with takes | ⟨takes,_⟩ <;> cases takes
        · rw [List.getElem?_set_ne here]
          exact .inl found
      · cases taken
    · cases taken
      exact .inl found
  | _ =>
    cases taken
    exact .inl found

/-! ## One step of the whole -/

/-- What each step does, and where its thread was. -/
inductive Taken (limits : DaemonLimits) (serving : Serving) : ServingLabel → Serving → Prop where
  | daemon {label : DaemonLabel} {drawn : Bool} {backlog : List Nat} {daemon : Daemon}
      (drew : draw serving.backlog drawn label = some backlog)
      (taken : Daemon.step limits serving.daemon label = some daemon) :
      Taken limits serving (.daemon label drawn) { serving with
        daemon := daemon
        backlog := backlog
        wakers := if Daemon.requests label then serving.wakers ++ [0] else serving.wakers }
  | connect (listener : Nat) : Taken limits serving (.connect listener) (serving.knock listener true)
  | wake {waker listener : Nat} (found : serving.wakers[waker]? = some listener)
      (inside : listener < serving.daemon.listeners.length) (reached : Bool) :
      Taken limits serving (.wake waker reached) { serving.knock listener reached with
        wakers := serving.wakers.set waker (listener + 1) }
  | ask (accepting : serving.main = .accepting)
      (stopped : serving.daemon.listeners[0]? = some .stopped) :
      Taken limits serving .ask { serving with
        daemon := serving.daemon.setConn serving.daemon.conn.requestShutdown
        main := .waking 0 }
  | wakeNext {listener : Nat} (waking : serving.main = .waking listener)
      (inside : listener < serving.daemon.listeners.length) (reached : Bool) :
      Taken limits serving (.wakeNext reached)
        { serving.knock listener reached with main := .waking (listener + 1) }
  | woken {listener : Nat} (waking : serving.main = .waking listener)
      (outside : serving.daemon.listeners.length ≤ listener) (reached : Bool) :
      Taken limits serving (.wakeNext reached) { serving with main := .joining 1 }
  | join {listener : Nat} (joining : serving.main = .joining listener)
      (stopped : serving.daemon.listeners[listener]? = some .stopped) :
      Taken limits serving .join { serving with main := .joining (listener + 1) }
  | joined {listener : Nat} (joining : serving.main = .joining listener)
      (outside : serving.daemon.listeners[listener]? = none) :
      Taken limits serving .join { serving with main := .returned }

theorem step_taken {label : ServingLabel} (taken : step limits serving label = some next) :
    Taken limits serving label next := by
  cases label with
  | daemon label drawn =>
    simp only [step] at taken
    split at taken
    · rename_i drew moved
      cases taken
      exact .daemon drew moved
    · cases taken
  | connect listener =>
    cases taken
    exact .connect listener
  | wake waker reached =>
    simp only [step] at taken
    split at taken
    · rename_i found
      split at taken
      · rename_i inside
        cases taken
        exact .wake found inside reached
      · cases taken
    · cases taken
  | ask =>
    simp only [step] at taken
    split at taken
    · rename_i accepting
      split at taken
      · rename_i stopped
        cases taken
        exact .ask accepting stopped
      · cases taken
    · cases taken
  | wakeNext reached =>
    simp only [step] at taken
    split at taken
    · rename_i waking
      split at taken
      · rename_i inside
        cases taken
        exact .wakeNext waking inside reached
      · rename_i outside
        cases taken
        exact .woken waking (by omega) reached
    · cases taken
  | join =>
    simp only [step] at taken
    split at taken
    · rename_i joining
      split at taken
      · rename_i stopped
        cases taken
        exact .join joining stopped
      · cases taken
      · rename_i outside
        cases taken
        exact .joined joining outside
    · cases taken

/-! ## A listener that was woken -/

/-- The flag is up, and the listener's loop is not parked for good: it will look at the
flag, or finds a connection when it calls `accept`. -/
structure Roused (i : Nat) (serving : Serving) : Prop where
  down : serving.daemon.conn.shutdown = true
  comes : ∃ phase, serving.daemon.listeners[i]? = some phase ∧
    (leaving phase = true ∨ ∃ waiting, serving.backlog[i]? = some (waiting + 1))

/-- How many steps the loop of a listener is from its end. -/
def remaining (i : Nat) (serving : Serving) : Nat :=
  distance (serving.daemon.listeners[i]?.getD .stopped)

/-- The step gets the loop of a listener on. -/
def loopSteps (i : Nat) : ServingLabel → Bool
  | .daemon label _ => turn label == some i
  | _ => false

theorem Roused.rest {i : Nat} (roused : Roused i serving) (down : next.daemon.conn.shutdown = true)
    (loops : next.daemon.listeners = serving.daemon.listeners)
    (queue : ∀ waiting, serving.backlog[i]? = some (waiting + 1) →
      ∃ now, next.backlog[i]? = some (now + 1)) :
    Roused i next ∧ remaining i next ≤ remaining i serving := by
  obtain ⟨phase,found,comes⟩ := roused.comes
  refine ⟨⟨down,phase,loops ▸ found,?_⟩,?_⟩
  · rcases comes with left | ⟨waiting,queued⟩
    · exact .inl left
    · exact .inr (queue waiting queued)
  · rw [remaining,remaining,loops]

theorem knock_queue {i listener waiting : Nat} {reached : Bool}
    (found : serving.backlog[i]? = some (waiting + 1)) :
    ∃ now, (serving.knock listener reached).backlog[i]? = some (now + 1) := by
  cases reached with
  | false => exact ⟨waiting,found⟩
  | true =>
    simp only [knock,if_true,List.getElem?_modify,found]
    split
    · exact ⟨waiting + 1,rfl⟩
    · exact ⟨waiting,rfl⟩

@[simp] theorem knock_daemon (listener : Nat) (reached : Bool) :
    (serving.knock listener reached).daemon = serving.daemon := by
  cases reached <;> rfl

theorem Roused.daemon {i : Nat} (roused : Roused i serving) {label : DaemonLabel} {drawn : Bool}
    {backlog wakers : List Nat} {daemon : Daemon} {main : MainPhase}
    (drew : draw serving.backlog drawn label = some backlog)
    (taken : Daemon.step limits serving.daemon label = some daemon) :
    Roused i ⟨daemon,backlog,wakers,main⟩ ∧
      remaining i ⟨daemon,backlog,wakers,main⟩ + (turn label == some i).toNat ≤
        remaining i serving := by
  obtain ⟨phase,found,comes⟩ := roused.comes
  have down := (Daemon.step_closed roused.down taken).1
  -- a connection that is taken off this queue is taken by this loop
  have queue : leaving phase = true ∨ (∃ waiting, backlog[i]? = some (waiting + 1)) ∨
      phase = .accepting ∧ turn label = some i := by
    rcases comes with left | ⟨waiting,queued⟩
    · exact .inl left
    · rcases draw_queue drew queued with still | ⟨accepted,rfl,took⟩
      · exact .inr (.inl ⟨waiting,still⟩)
      · cases Daemon.step_taken taken with
        | accept accepting _ =>
          rw [accepting] at found
          cases found
          exact .inr (.inr ⟨rfl,if_neg took⟩)
  rcases step_loop roused.down taken with
    ⟨other,loops⟩ | ⟨listener,before,now,mine,there,moves,loops⟩
  · refine ⟨⟨down,phase,loops ▸ found,?_⟩,?_⟩
    · rcases queue with left | queued | ⟨_,mine⟩
      · exact .inl left
      · exact .inr queued
      · rw [other] at mine
        cases mine
    · simp [remaining,loops,other]
  · by_cases here : listener = i
    · subst here
      rw [there] at found
      cases found
      have inside := (List.getElem?_eq_some_iff.mp there).1
      have set_ : daemon.listeners[listener]? = some now := by
        rw [loops,List.getElem?_set_self inside]
      refine ⟨⟨down,now,set_,?_⟩,?_⟩
      · rcases queue with left | queued | ⟨accepting,_⟩
        · exact .inl (moves.leaving (.inl left))
        · exact .inr queued
        · exact .inl (moves.leaving (.inr accepting))
      · simpa [remaining,set_,there,mine] using moves.nearer
    · have kept : daemon.listeners[i]? = some phase := by
        rw [loops,List.getElem?_set_ne here,found]
      refine ⟨⟨down,phase,kept,?_⟩,?_⟩
      · rcases queue with left | queued | ⟨_,turned⟩
        · exact .inl left
        · exact .inr queued
        · rw [mine] at turned
          exact (here (Option.some.inj turned)).elim
      · have other : (turn label == some i) = false := by
          rw [mine]
          simpa using here
        simp [remaining,kept,found,other]

theorem Roused.step {i : Nat} {label : ServingLabel} (roused : Roused i serving)
    (taken : step limits serving label = some next) :
    Roused i next ∧ remaining i next + (loopSteps i label).toNat ≤ remaining i serving := by
  cases step_taken taken with
  | daemon drew moved => exact roused.daemon drew moved
  | connect | wake | wakeNext =>
    exact roused.rest (by simp [roused.down]) (by simp) fun _ queued => knock_queue queued
  | ask => exact roused.rest rfl rfl fun waiting queued => ⟨waiting,queued⟩
  | woken | join | joined => exact roused.rest roused.down rfl fun waiting queued => ⟨waiting,queued⟩

theorem daemon_enabled {label : DaemonLabel} {drawn : Bool} {backlog : List Nat} {daemon : Daemon}
    (drew : draw serving.backlog drawn label = some backlog)
    (taken : Daemon.step limits serving.daemon label = some daemon) :
    ∃ next, Serving.step limits serving (.daemon label drawn) = some next := by
  simp only [step,drew,taken,Option.some.injEq,exists_eq']

/-- The loop of a listener that was woken never hangs. -/
theorem Roused.turns (limits : DaemonLimits) {i : Nat} (roused : Roused i serving)
    (running : serving.daemon.listeners[i]? ≠ some .stopped) :
    ∃ label next, loopSteps i label = true ∧ Serving.step limits serving label = some next := by
  obtain ⟨phase,found,comes⟩ := roused.comes
  have turned (label : DaemonLabel) (mine : turn label = some i)
      (drew : ∃ backlog, draw serving.backlog false label = some backlog)
      (taken : ∃ daemon, Daemon.step limits serving.daemon label = some daemon) :
      ∃ label next, loopSteps i label = true ∧ Serving.step limits serving label = some next := by
    obtain ⟨backlog,drew⟩ := drew
    obtain ⟨daemon,taken⟩ := taken
    obtain ⟨next,enabled⟩ := daemon_enabled drew taken
    exact ⟨.daemon label false,next,by simp [loopSteps,mine],enabled⟩
  cases phase with
  | stopped => exact (running found).elim
  | accepting =>
    rcases comes with left | ⟨waiting,queued⟩
    · cases left
    · apply turned (.accept i .arrived) rfl
      · exact ⟨serving.backlog.set i waiting,by simp [draw,queued]⟩
      · exact ⟨serving.daemon.acceptStep i .arrived,by simp only [Daemon.step,found]⟩
  | retrying =>
    apply turned (.recheck i) rfl ⟨serving.backlog,rfl⟩
    exact ⟨_,by simp only [Daemon.step,found]; rfl⟩
  | arrived =>
    apply turned (.admission i) rfl ⟨serving.backlog,rfl⟩
    exact ⟨_,by simp only [Daemon.step,found]; rfl⟩
  | slotted connection =>
    apply turned (.spawn i true) rfl ⟨serving.backlog,rfl⟩
    exact ⟨_,by simp only [Daemon.step,found]; rfl⟩
  | unspawned connection =>
    apply turned (.release i) rfl ⟨serving.backlog,rfl⟩
    exact ⟨_,by simp only [Daemon.step,found]; rfl⟩

theorem roused_ranked (limits : DaemonLimits) (i : Nat) :
    Runs.Ranked (step limits) (Roused i) (loopSteps i) (remaining i) where
  kept _ _ _ roused taken := (roused.step taken).1
  lowered _ _ _ roused taken := (roused.step taken).2

/-! ## The flag goes up before the knocking -/

/-- Whoever wakes listeners has put the flag up, and each listener has its queue. -/
structure Raised (serving : Serving) : Prop where
  queues : serving.backlog.length = serving.daemon.listeners.length
  asked : serving.wakers ≠ [] ∨ serving.main ≠ .accepting →
    serving.daemon.conn.shutdown = true

theorem daemon_length {daemon after : Daemon} {label : DaemonLabel}
    (taken : Daemon.step limits daemon label = some after) :
    after.listeners.length = daemon.listeners.length := by
  cases Daemon.step_taken taken with
  | accept _ accepted => cases accepted <;> simp [Daemon.acceptStep,Daemon.setListener]
  | admission _ =>
    unfold Daemon.admitStep
    split <;> simp [Daemon.setListener,Daemon.setConn]
  | spawn _ started => cases started <;> simp [Daemon.spawnStep,Daemon.setListener,Daemon.setConnection]
  | recheck | release => simp [Daemon.setListener,Daemon.giveBack,Daemon.setConnection,Daemon.setConn]
  | look =>
    unfold Daemon.lookStep
    split
    · rfl
    · split <;> rfl
  | wake =>
    unfold Daemon.wakeStep
    split
    · rfl
    · split <;> rfl
  | checked =>
    unfold Daemon.checkedStep
    split
    · rfl
    · split <;> rfl
  | _ => rfl

theorem daemon_requested {daemon after : Daemon} {label : DaemonLabel}
    (taken : Daemon.step limits daemon label = some after) (asks : Daemon.requests label = true) :
    after.conn.shutdown = true := by
  cases Daemon.step_taken taken with
  | shutdown | request => rfl
  | _ => cases asks

theorem draw_length {backlog after : List Nat} {drawn : Bool} {label : DaemonLabel}
    (taken : draw backlog drawn label = some after) : after.length = backlog.length := by
  cases label with
  | accept listener accepted =>
    simp only [draw] at taken
    split at taken
    · split at taken
      · cases taken
        exact List.length_set
      · cases taken
    · cases taken
      rfl
  | _ =>
    cases taken
    rfl

theorem knock_length (listener : Nat) (reached : Bool) :
    (serving.knock listener reached).backlog.length = serving.backlog.length := by
  cases reached <;> simp [knock]

theorem Raised.step {label : ServingLabel} (raised : Raised serving)
    (taken : step limits serving label = some next) : Raised next := by
  cases step_taken taken with
  | @daemon label drawn backlog daemon drew moved =>
    refine ⟨(draw_length drew).trans (raised.queues.trans (daemon_length moved).symm),?_⟩
    intro asked
    cases asks : Daemon.requests label with
    | true => exact daemon_requested moved asks
    | false =>
      rw [asks] at asked
      exact (Daemon.step_closed (raised.asked asked) moved).1
  | connect listener =>
    refine ⟨?_,fun asked => ?_⟩
    · rw [knock_length,knock_daemon,raised.queues]
    · rw [knock_daemon]
      exact raised.asked asked
  | @wake waker listener found _ reached =>
    refine ⟨(knock_length listener reached).trans ?_,fun _ => ?_⟩
    · rw [knock_daemon,raised.queues]
    · rw [knock_daemon]
      exact raised.asked (.inl (List.ne_nil_of_mem (List.mem_of_getElem? found)))
  | ask => exact ⟨raised.queues,fun _ => rfl⟩
  | @wakeNext listener waking _ reached =>
    refine ⟨(knock_length listener reached).trans ?_,fun _ => ?_⟩
    · rw [knock_daemon,raised.queues]
    · rw [knock_daemon]
      exact raised.asked (.inr (by simp [waking]))
  | woken waking => exact ⟨raised.queues,fun _ => raised.asked (.inr (by simp [waking]))⟩
  | join joining | joined joining =>
    exact ⟨raised.queues,fun _ => raised.asked (.inr (by simp [joining]))⟩

theorem spawnAccepting_length (spawned : List Bool) :
    (spawnAccepting spawned).1.length = spawned.length := by
  induction spawned with
  | nil => rfl
  | cons started rest ih =>
    cases started with
    | true => simp [spawnAccepting,ih]
    | false => simp [spawnAccepting]

theorem serveListeners_raised (spawned : List Bool) (watched : Bool) :
    Raised (serveListeners spawned watched) := by
  refine ⟨by simp [serveListeners,spawnAccepting_length],?_⟩
  rintro (asked | asked) <;> exact (asked rfl).elim

theorem Raised.knocked {i : Nat} (raised : Raised serving)
    (inside : i < serving.daemon.listeners.length) (down : serving.daemon.conn.shutdown = true)
    (wakers : List Nat) (main : MainPhase) :
    Roused i { serving.knock i true with wakers := wakers, main := main } := by
  have queued : i < serving.backlog.length := by
    rw [raised.queues]
    exact inside
  refine ⟨down,_,List.getElem?_eq_getElem inside,.inr ⟨serving.backlog[i],?_⟩⟩
  simp [knock,queued]

/-- A listener that has been reached is roused. -/
theorem Raised.wakes {i : Nat} {label : ServingLabel} (raised : Raised serving)
    (taken : Serving.step limits serving label = some next) (woken : wakes serving label = some i) :
    Roused i next := by
  cases step_taken taken with
  | @wake waker listener found inside reached =>
    cases reached with
    | false => cases woken
    | true =>
      simp only [Serving.wakes,found,Option.some.injEq] at woken
      subst woken
      apply raised.knocked inside
      exact raised.asked (.inl (List.ne_nil_of_mem (List.mem_of_getElem? found)))
  | @wakeNext listener waking inside reached =>
    cases reached with
    | false => cases woken
    | true =>
      simp only [Serving.wakes,waking,if_pos inside,Option.some.injEq] at woken
      subst woken
      apply raised.knocked inside
      exact raised.asked (.inr (by simp [waking]))
  | @woken listener waking outside reached =>
    cases reached with
    | false => cases woken
    | true =>
      simp only [Serving.wakes,waking,if_neg (Nat.not_lt.mpr outside)] at woken
      cases woken
  | _ => cases woken

/-- However the threads interleave, no wake-up is lost. Once a listener was reached by a
thread that asks for the shutdown, its accept loop makes at most four more steps and has
ended with the fourth, and until then it is never parked: a step of its own is enabled in
every state. -/
theorem wake_never_lost (limits : DaemonLimits) (spawned : List Bool) (watched : Bool)
    {front back : List ServingLabel} {label : ServingLabel} {i : Nat} {final : Serving}
    (run : Runs.execute (step limits) (serveListeners spawned watched) front = some serving)
    (taken : step limits serving label = some next) (woken : wakes serving label = some i)
    (later : Runs.execute (step limits) next back = some final) :
    back.countP (loopSteps i) ≤ 4 ∧
      (back.countP (loopSteps i) = 4 → final.daemon.listeners[i]? = some .stopped) ∧
      (final.daemon.listeners[i]? = some .stopped ∨
        ∃ own after, loopSteps i own = true ∧ step limits final own = some after) := by
  have raised : Raised serving :=
    Runs.invariant (fun _ _ _ raised taken => Raised.step raised taken) run
      (serveListeners_raised spawned watched)
  have roused := raised.wakes taken woken
  have bound := (roused_ranked limits i).count_le roused later
  have still : Roused i final := Runs.invariant (roused_ranked limits i).kept later roused
  obtain ⟨phase,found,_⟩ := still.comes
  have four : remaining i next ≤ 4 := distance_le _
  refine ⟨by omega,?_,?_⟩
  · intro all
    have none_left : distance phase = 0 := by
      have here : remaining i final = distance phase := by rw [remaining,found]; rfl
      omega
    cases phase <;> first | exact found | cases none_left
  · by_cases running : final.daemon.listeners[i]? = some .stopped
    · exact .inl running
    · exact .inr (still.turns limits running)

/-- A stop while a connection waits for its thread, which cannot be had. -/
theorem wake_never_lost_stop :
    ∃ serving next final,
      Runs.execute (step ⟨1,false⟩) (serveListeners [true] false)
        [.connect 1,.daemon (.accept 1 .arrived) false,.daemon (.admission 1) false,
          .daemon .shutdown false,.wake 0 false] = some serving ∧
      step ⟨1,false⟩ serving (.wake 0 true) = some next ∧
      Runs.execute (step ⟨1,false⟩) next [.daemon (.spawn 1 false) false,
        .daemon (.release 1) false,.daemon (.accept 1 .arrived) false,
        .daemon (.admission 1) false] = some final ∧
      final.daemon.listeners[1]? = some .stopped := by
  have run : Runs.execute (step ⟨1,false⟩) (serveListeners [true] false)
      [.connect 1,.daemon (.accept 1 .arrived) false,.daemon (.admission 1) false,
        .daemon .shutdown false,.wake 0 false] =
      some ⟨⟨⟨1,1,true⟩,[.accepting,.slotted 0],[.waiting],.absent⟩,[0,0],[1],.accepting⟩ := by
    decide
  have taken : step ⟨1,false⟩
      ⟨⟨⟨1,1,true⟩,[.accepting,.slotted 0],[.waiting],.absent⟩,[0,0],[1],.accepting⟩ (.wake 0 true) =
      some ⟨⟨⟨1,1,true⟩,[.accepting,.slotted 0],[.waiting],.absent⟩,[0,1],[2],.accepting⟩ := by
    decide
  have later : Runs.execute (step ⟨1,false⟩)
      ⟨⟨⟨1,1,true⟩,[.accepting,.slotted 0],[.waiting],.absent⟩,[0,1],[2],.accepting⟩
      [.daemon (.spawn 1 false) false,.daemon (.release 1) false,
        .daemon (.accept 1 .arrived) false,.daemon (.admission 1) false] =
      some ⟨⟨⟨0,1,true⟩,[.accepting,.stopped],[.ended],.absent⟩,[0,0],[2],.accepting⟩ := by
    decide
  exact ⟨_,_,_,run,taken,later,
    (wake_never_lost ⟨1,false⟩ [true] false run taken (by decide) later).2.1 (by decide)⟩

end Serving

end SmlMcps
