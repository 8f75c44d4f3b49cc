import SmlMcps.DaemonState

/-! Connection accounting. Whoever took a slot gives it back once: the guard of its
thread, or the accept loop when the thread could not be had. So the active count is the
number of connections that still have theirs. -/
namespace SmlMcps

namespace Daemon

variable {limits : DaemonLimits} {daemon next : Daemon}

/-- The connections admitted and not yet ended. -/
def live (daemon : Daemon) : Nat := daemon.connections.countP ConnPhase.live

/-- The slot a listener's accept loop is responsible for. -/
def claim (daemon : Daemon) (index : Nat) : Option Nat :=
  (daemon.listeners[index]?).bind AcceptPhase.slot

/-- The slots the accept loops are responsible for: each is of a connection whose thread
has not run, and no two loops share one. -/
structure Claims (daemon : Daemon) : Prop where
  waiting : ∀ index connection, daemon.claim index = some connection →
    daemon.connections[connection]? = some .waiting
  apart : ∀ first second connection, daemon.claim first = some connection →
    daemon.claim second = some connection → first = second

structure Accounted (limits : DaemonLimits) (daemon : Daemon) : Prop where
  exact_ : daemon.conn.active = daemon.live
  bounded : daemon.conn.active ≤ limits.maxConnections
  claims : daemon.Claims

/-! ## Setting one thread's phase -/

@[simp] theorem claim_setConnection (index connection : Nat) (phase : ConnPhase) :
    (daemon.setConnection connection phase).claim index = daemon.claim index := rfl

@[simp] theorem claim_setConn (index : Nat) (conn : ConnState) :
    (daemon.setConn conn).claim index = daemon.claim index := rfl

@[simp] theorem claim_setWatcher (index : Nat) (phase : WatcherPhase) :
    (daemon.setWatcher phase).claim index = daemon.claim index := rfl

theorem claim_setListener {index other : Nat} {phase : AcceptPhase} {connection : Nat}
    (claimed : (daemon.setListener index phase).claim other = some connection) :
    (other = index ∧ phase.slot = some connection) ∨
      (other ≠ index ∧ daemon.claim other = some connection) := by
  by_cases here : other = index
  · subst here
    left
    refine ⟨rfl,?_⟩
    simp only [claim,setListener,List.getElem?_set_self'] at claimed
    cases found : daemon.listeners[other]? with
    | none => simp [found] at claimed
    | some old => simpa [found] using claimed
  · right
    refine ⟨here,?_⟩
    simpa [claim,setListener,List.getElem?_set_ne (Ne.symm here)] using claimed

/-- A phase that claims nothing keeps the claims. -/
theorem Claims.setListener (claims : daemon.Claims) (index : Nat) {phase : AcceptPhase}
    (free : phase.slot = none) : (daemon.setListener index phase).Claims := by
  constructor
  · intro other connection claimed
    rcases claim_setListener claimed with ⟨_,slot⟩ | ⟨_,old⟩
    · rw [free] at slot
      cases slot
    · exact claims.waiting other connection old
  · intro first second connection one two
    rcases claim_setListener one with ⟨_,slot⟩ | ⟨_,old⟩
    · rw [free] at slot
      cases slot
    · rcases claim_setListener two with ⟨_,slot⟩ | ⟨_,older⟩
      · rw [free] at slot
        cases slot
      · exact claims.apart first second connection old older

/-- A loop may become responsible for a waiting connection that is no other loop's. -/
theorem Claims.take (claims : daemon.Claims) {index connection : Nat} {phase : AcceptPhase}
    (slot : phase.slot = some connection)
    (waiting : daemon.connections[connection]? = some .waiting)
    (others : ∀ other, other ≠ index → daemon.claim other ≠ some connection) :
    (daemon.setListener index phase).Claims := by
  constructor
  · intro other known claimed
    rcases claim_setListener claimed with ⟨_,taken⟩ | ⟨_,old⟩
    · rw [slot] at taken
      cases taken
      exact waiting
    · exact claims.waiting other known old
  · intro first second known one two
    rcases claim_setListener one with ⟨here,taken⟩ | ⟨apart,old⟩
    · rcases claim_setListener two with ⟨there,_⟩ | ⟨away,older⟩
      · exact here.trans there.symm
      · rw [slot] at taken
        cases taken
        exact (others second away older).elim
    · rcases claim_setListener two with ⟨_,taken⟩ | ⟨_,older⟩
      · rw [slot] at taken
        cases taken
        exact (others first apart old).elim
      · exact claims.apart first second known old older

theorem Claims.inside (claims : daemon.Claims) {index connection : Nat}
    (claimed : daemon.claim index = some connection) : connection < daemon.connections.length :=
  (List.getElem?_eq_some_iff.mp (claims.waiting index connection claimed)).1

theorem Claims.append (claims : daemon.Claims) (conn : ConnState) (phase : ConnPhase) :
    { daemon with conn := conn, connections := daemon.connections ++ [phase] : Daemon }.Claims where
  waiting index connection claimed :=
    (List.getElem?_append_left (claims.inside claimed)).trans
      (claims.waiting index connection claimed)
  apart := claims.apart

/-- A connection that no accept loop is responsible for may change. -/
theorem Claims.setConnection (claims : daemon.Claims) {connection : Nat}
    (unclaimed : ∀ index, daemon.claim index ≠ some connection) (phase : ConnPhase) :
    (daemon.setConnection connection phase).Claims := by
  constructor
  · intro index other claimed
    have different : connection ≠ other := by
      intro same
      exact unclaimed index (same ▸ claimed)
    simp only [Daemon.setConnection]
    rw [List.getElem?_set_ne different]
    exact claims.waiting index other claimed
  · exact claims.apart

theorem Claims.unclaimed (claims : daemon.Claims) {connection : Nat} {phase : ConnPhase}
    (found : daemon.connections[connection]? = some phase) (running : phase ≠ .waiting) (index : Nat) :
    daemon.claim index ≠ some connection := by
  intro claimed
  rw [claims.waiting index connection claimed] at found
  exact running (Option.some.inj found).symm

/-! ## The count -/

theorem live_setConnection {connection : Nat} {old phase : ConnPhase}
    (found : daemon.connections[connection]? = some old) :
    (daemon.setConnection connection phase).live + old.live.toNat =
      daemon.live + phase.live.toNat := by
  obtain ⟨inside,same⟩ := List.getElem?_eq_some_iff.mp found
  have counted : (daemon.setConnection connection phase).live =
      daemon.live - (if old.live then 1 else 0) + (if phase.live then 1 else 0) := by
    rw [← same]
    exact List.countP_set inside
  have held : old.live.toNat ≤ daemon.live := by
    cases alive : old.live with
    | false => exact Nat.zero_le _
    | true => exact List.countP_pos_iff.mpr ⟨old,List.mem_of_getElem? found,alive⟩
  rw [counted]
  clear counted same
  generalize old.live = before at held ⊢
  cases before <;> cases phase.live <;> simp at held ⊢ <;> omega

/-- A slot that is given back was counted. -/
theorem giveBack_accounted {limits : DaemonLimits} (accounted : Accounted limits daemon)
    {connection : Nat} {phase : ConnPhase}
    (found : daemon.connections[connection]? = some phase) (alive : phase.live = true) :
    1 ≤ daemon.conn.active ∧
      (daemon.giveBack connection).conn.active = (daemon.giveBack connection).live ∧
      (daemon.giveBack connection).conn.active ≤ limits.maxConnections := by
  have moved := @live_setConnection (daemon.setConn daemon.conn.release) connection phase .ended found
  have same : (daemon.setConn daemon.conn.release).live = daemon.live := rfl
  have counted : (daemon.giveBack connection).live + 1 = daemon.live := by
    rw [alive,same] at moved
    exact moved
  have exact_ := accounted.exact_
  have bounded := accounted.bounded
  have active : (daemon.giveBack connection).conn.active = daemon.conn.active - 1 := rfl
  omega

/-! ## Every step -/

theorem admit_cases (conn : ConnState) (max : Nat) :
    (conn.admitOne max = (conn,.shuttingDown) ∧ conn.shutdown = true) ∨
      (conn.admitOne max = (conn,.full) ∧ conn.shutdown = false) ∨
      (conn.admitOne max = (⟨conn.active + 1,(conn.generation + 1) % 2^64,false⟩,.admitted) ∧
        conn.shutdown = false ∧ conn.active < max) := by
  obtain ⟨active,generation,shutdown⟩ := conn
  cases shutdown with
  | true => exact .inl ⟨rfl,rfl⟩
  | false =>
    by_cases full : max ≤ active
    · exact .inr (.inl ⟨by simp [ConnState.admitOne,full],rfl⟩)
    · exact .inr (.inr ⟨by simp [ConnState.admitOne,full],rfl,Nat.lt_of_not_le full⟩)

theorem admitStep_accounted (accounted : Accounted limits daemon) (index : Nat) :
    Accounted limits (admitStep limits daemon index) := by
  obtain ⟨exact_,bounded,claims⟩ := accounted
  unfold admitStep
  rcases admit_cases daemon.conn limits.maxConnections with ⟨down,_⟩ | ⟨full,_⟩ | ⟨taken,_,room⟩
  · rw [down]
    exact ⟨exact_,bounded,claims.setListener index rfl⟩
  · rw [full]
    exact ⟨exact_,bounded,claims.setListener index rfl⟩
  · rw [taken]
    refine ⟨?_,room,?_⟩
    · simpa [live,ConnPhase.live] using exact_
    · refine (claims.append _ .waiting).take rfl List.getElem?_concat_length ?_
      intro other _ claimed
      exact Nat.lt_irrefl _ (claims.inside claimed)

/-- A listener's slot is nobody else's, so it is free once the listener lets go of it. -/
theorem Claims.letGo (claims : daemon.Claims) {index connection : Nat} {phase : AcceptPhase}
    (owned : daemon.claim index = some connection) (free : phase.slot = none) (other : Nat) :
    (daemon.setListener index phase).claim other ≠ some connection := by
  intro claimed
  rcases claim_setListener claimed with ⟨_,slot⟩ | ⟨apart,old⟩
  · rw [free] at slot
    cases slot
  · exact apart (claims.apart other index connection old owned)

theorem spawnStep_accounted (accounted : Accounted limits daemon) {index connection : Nat}
    (slotted : daemon.listeners[index]? = some (.slotted connection)) (started : Bool) :
    Accounted limits (daemon.spawnStep index connection started) := by
  obtain ⟨exact_,bounded,claims⟩ := accounted
  have owned : daemon.claim index = some connection := by simp [claim,slotted,AcceptPhase.slot]
  have waiting := claims.waiting index connection owned
  cases started with
  | true =>
    have moved := @live_setConnection daemon connection .waiting .serving waiting
    have kept : (daemon.setConnection connection .serving).live = daemon.live := by
      simpa [ConnPhase.live] using moved
    refine ⟨exact_.trans kept.symm,bounded,?_⟩
    have freed := claims.setListener index (rfl : AcceptPhase.accepting.slot = none)
    exact freed.setConnection (claims.letGo owned rfl) .serving
  | false =>
    refine ⟨exact_,bounded,claims.take rfl waiting ?_⟩
    intro other apart claimed
    exact apart (claims.apart other index connection claimed owned)

theorem release_accounted (accounted : Accounted limits daemon) {index connection : Nat}
    (unspawned : daemon.listeners[index]? = some (.unspawned connection)) :
    Accounted limits ((daemon.giveBack connection).setListener index .accepting) := by
  have claims := accounted.claims
  have owned : daemon.claim index = some connection := by simp [claim,unspawned,AcceptPhase.slot]
  obtain ⟨_,exact_,bounded⟩ :=
    giveBack_accounted accounted (claims.waiting index connection owned) rfl
  have freed := claims.setListener index (rfl : AcceptPhase.accepting.slot = none)
  have given := freed.setConnection (claims.letGo owned rfl) .ended
  exact ⟨exact_,bounded,given.waiting,given.apart⟩

theorem finish_accounted (accounted : Accounted limits daemon) {connection : Nat}
    (serving : daemon.connections[connection]? = some .serving) (how : Ending) :
    Accounted limits (daemon.setConnection connection (.ending how)) := by
  have moved := @live_setConnection daemon connection .serving (.ending how) serving
  have kept : (daemon.setConnection connection (.ending how)).live = daemon.live := by
    simpa [ConnPhase.live] using moved
  exact ⟨accounted.exact_.trans kept.symm,accounted.bounded,
    accounted.claims.setConnection (accounted.claims.unclaimed serving nofun) _⟩

theorem dropGuard_accounted (accounted : Accounted limits daemon) {connection : Nat} {how : Ending}
    (ending : daemon.connections[connection]? = some (.ending how)) :
    Accounted limits (daemon.giveBack connection) := by
  obtain ⟨_,exact_,bounded⟩ := giveBack_accounted accounted ending rfl
  have given := accounted.claims.setConnection (accounted.claims.unclaimed ending nofun) .ended
  exact ⟨exact_,bounded,given.waiting,given.apart⟩

theorem watch_accounted (accounted : Accounted limits daemon) (conn : ConnState)
    (phase : WatcherPhase) (same : conn.active = daemon.conn.active) :
    Accounted limits ((daemon.setConn conn).setWatcher phase) :=
  ⟨same.trans accounted.exact_,same ▸ accounted.bounded,accounted.claims.waiting,
    accounted.claims.apart⟩

theorem setListener_accounted (accounted : Accounted limits daemon) (index : Nat)
    {phase : AcceptPhase} (free : phase.slot = none) :
    Accounted limits (daemon.setListener index phase) :=
  ⟨accounted.exact_,accounted.bounded,accounted.claims.setListener index free⟩

/-! ## One step -/

/-- What each step does, and where its thread was. -/
inductive Taken (limits : DaemonLimits) (daemon : Daemon) : DaemonLabel → Daemon → Prop where
  | accept {index : Nat} (accepting : daemon.listeners[index]? = some .accepting)
      (accepted : Accepted) :
      Taken limits daemon (.accept index accepted) (daemon.acceptStep index accepted)
  | recheck {index : Nat} (retrying : daemon.listeners[index]? = some .retrying) :
      Taken limits daemon (.recheck index)
        (daemon.setListener index (if daemon.conn.shutdown then .stopped else .accepting))
  | admission {index : Nat} (arrived : daemon.listeners[index]? = some .arrived) :
      Taken limits daemon (.admission index) (admitStep limits daemon index)
  | spawn {index connection : Nat} (slotted : daemon.listeners[index]? = some (.slotted connection))
      (started : Bool) :
      Taken limits daemon (.spawn index started) (daemon.spawnStep index connection started)
  | release {index connection : Nat}
      (unspawned : daemon.listeners[index]? = some (.unspawned connection)) :
      Taken limits daemon (.release index)
        ((daemon.giveBack connection).setListener index .accepting)
  | finish {connection : Nat} (serving : daemon.connections[connection]? = some .serving)
      (how : Ending) :
      Taken limits daemon (.finish connection how) (daemon.setConnection connection (.ending how))
  | dropGuard {connection : Nat} {how : Ending}
      (ending : daemon.connections[connection]? = some (.ending how)) :
      Taken limits daemon (.dropGuard connection) (daemon.giveBack connection)
  | shutdown : Taken limits daemon .shutdown (daemon.setConn daemon.conn.requestShutdown)
  | look (awake : daemon.watcher = .locking ∨ daemon.watcher = .dozing) :
      Taken limits daemon .look daemon.lookStep
  | wake {generation : Nat} (asleep : daemon.watcher = .window generation) (timedOut : Bool) :
      Taken limits daemon (.wake timedOut) (wakeStep limits daemon generation timedOut)
  | checked {generation : Nat} (asking : daemon.watcher = .checking generation) (busy : Bool) :
      Taken limits daemon (.checked busy) (daemon.checkedStep generation busy)
  | request (requesting : daemon.watcher = .requesting) :
      Taken limits daemon .request
        ((daemon.setConn daemon.conn.requestShutdown).setWatcher .returned)

theorem step_taken {label : DaemonLabel} (taken : step limits daemon label = some next) :
    Taken limits daemon label next := by
  cases label with
  | accept index accepted =>
    simp only [step] at taken
    split at taken <;> cases taken
    rename_i accepting
    exact .accept accepting accepted
  | recheck index =>
    simp only [step] at taken
    split at taken <;> cases taken
    rename_i retrying
    exact .recheck retrying
  | admission index =>
    simp only [step] at taken
    split at taken <;> cases taken
    rename_i arrived
    exact .admission arrived
  | spawn index started =>
    simp only [step] at taken
    split at taken <;> cases taken
    rename_i slotted
    exact .spawn slotted started
  | release index =>
    simp only [step] at taken
    split at taken <;> cases taken
    rename_i unspawned
    exact .release unspawned
  | finish connection how =>
    simp only [step] at taken
    split at taken <;> cases taken
    rename_i serving
    exact .finish serving how
  | dropGuard connection =>
    simp only [step] at taken
    split at taken <;> cases taken
    rename_i ending
    exact .dropGuard ending
  | shutdown =>
    cases taken
    exact .shutdown
  | look =>
    simp only [step] at taken
    split at taken <;> cases taken
    · rename_i locking
      exact .look (.inl locking)
    · rename_i dozing
      exact .look (.inr dozing)
  | wake timedOut =>
    simp only [step] at taken
    split at taken <;> cases taken
    rename_i asleep
    exact .wake asleep timedOut
  | checked busy =>
    simp only [step] at taken
    split at taken <;> cases taken
    rename_i asking
    exact .checked asking busy
  | request =>
    simp only [step] at taken
    split at taken <;> cases taken
    rename_i requesting
    exact .request requesting

theorem step_accounted (daemon : Daemon) (label : DaemonLabel) (next : Daemon)
    (accounted : Accounted limits daemon) (taken : step limits daemon label = some next) :
    Accounted limits next := by
  cases step_taken taken with
  | @accept index _ accepted =>
    cases accepted with
    | arrived => exact setListener_accounted accounted index rfl
    | interrupted => exact accounted
    | failed => exact setListener_accounted accounted index rfl
  | @recheck index =>
    split <;> exact setListener_accounted accounted index rfl
  | @admission index => exact admitStep_accounted accounted index
  | spawn slotted started => exact spawnStep_accounted accounted slotted started
  | release unspawned => exact release_accounted accounted unspawned
  | finish serving how => exact finish_accounted accounted serving how
  | dropGuard ending => exact dropGuard_accounted accounted ending
  | shutdown => exact watch_accounted accounted _ daemon.watcher rfl
  | look =>
    unfold lookStep
    split
    · exact watch_accounted accounted daemon.conn _ rfl
    · split <;> exact watch_accounted accounted daemon.conn _ rfl
  | wake =>
    unfold wakeStep
    split
    · exact watch_accounted accounted daemon.conn _ rfl
    · split <;> exact watch_accounted accounted daemon.conn _ rfl
  | checked =>
    unfold checkedStep
    split
    · exact watch_accounted accounted daemon.conn _ rfl
    · split <;> exact watch_accounted accounted daemon.conn _ rfl
  | request => exact watch_accounted accounted _ _ rfl

theorem start_accounted (limits : DaemonLimits) (listeners : Nat) (watched : Bool) :
    Accounted limits (start listeners watched) := by
  have free (index : Nat) : (start listeners watched).claim index = none := by
    simp only [claim,start,List.getElem?_replicate]
    split <;> rfl
  refine ⟨rfl,Nat.zero_le _,?_,?_⟩
  · intro index connection claimed
    rw [free] at claimed
    cases claimed
  · intro first second connection claimed
    rw [free] at claimed
    cases claimed

/-! ## What a step does to the shared state -/

/-- The step gives a slot back. -/
def gives : DaemonLabel → Bool
  | .release _ | .dropGuard _ => true
  | _ => false

/-- The step asks for the shutdown. -/
def requests : DaemonLabel → Bool
  | .shutdown | .request => true
  | _ => false

structure Admits (daemon : Daemon) (next : Daemon) : Prop where
  running : daemon.conn.shutdown = false
  conn : next.conn = ⟨daemon.conn.active + 1,(daemon.conn.generation + 1) % 2^64,false⟩
  connections : next.connections = daemon.connections ++ [.waiting]
  watcher : next.watcher = daemon.watcher

/-- Only an admission lengthens the list of connections; what else happens to the state
under the lock is a release or a request to stop. -/
structure Keeps (daemon : Daemon) (label : DaemonLabel) (next : Daemon) : Prop where
  length : next.connections.length = daemon.connections.length
  conn : next.conn = if gives label then daemon.conn.release
    else if requests label then daemon.conn.requestShutdown else daemon.conn

theorem admitStep_cases (limits : DaemonLimits) (daemon : Daemon) (index : Nat) :
    (admits limits daemon (.admission index) = true ∧ Admits daemon (admitStep limits daemon index)) ∨
      (admits limits daemon (.admission index) = false ∧
        (admitStep limits daemon index).conn = daemon.conn ∧
        (admitStep limits daemon index).connections = daemon.connections) := by
  simp only [admits,admitStep]
  rcases admit_cases daemon.conn limits.maxConnections with ⟨down,_⟩ | ⟨full,_⟩ |
    ⟨taken,running,_⟩
  · rw [down]
    exact .inr ⟨rfl,rfl,rfl⟩
  · rw [full]
    exact .inr ⟨rfl,rfl,rfl⟩
  · rw [taken]
    exact .inl ⟨rfl,running,rfl,rfl,rfl⟩

@[simp] theorem lookStep_conn : daemon.lookStep.conn = daemon.conn := by
  simp only [lookStep]
  split
  · rfl
  · split <;> rfl

@[simp] theorem lookStep_connections : daemon.lookStep.connections = daemon.connections := by
  simp only [lookStep]
  split
  · rfl
  · split <;> rfl

@[simp] theorem wakeStep_conn (generation : Nat) (timedOut : Bool) :
    (wakeStep limits daemon generation timedOut).conn = daemon.conn := by
  simp only [wakeStep]
  split
  · rfl
  · split <;> rfl

@[simp] theorem wakeStep_connections (generation : Nat) (timedOut : Bool) :
    (wakeStep limits daemon generation timedOut).connections = daemon.connections := by
  simp only [wakeStep]
  split
  · rfl
  · split <;> rfl

@[simp] theorem checkedStep_conn (generation : Nat) (busy : Bool) :
    (daemon.checkedStep generation busy).conn = daemon.conn := by
  simp only [checkedStep]
  split
  · rfl
  · split <;> rfl

@[simp] theorem checkedStep_connections (generation : Nat) (busy : Bool) :
    (daemon.checkedStep generation busy).connections = daemon.connections := by
  simp only [checkedStep]
  split
  · rfl
  · split <;> rfl

theorem step_cases {label : DaemonLabel} (taken : step limits daemon label = some next) :
    (admits limits daemon label = true ∧ Admits daemon next) ∨
      (admits limits daemon label = false ∧ Keeps daemon label next) := by
  cases step_taken taken with
  | @admission index =>
    rcases admitStep_cases limits daemon index with admitted | ⟨refused,conn,connections⟩
    · exact .inl admitted
    · exact .inr ⟨refused,congrArg List.length connections,conn⟩
  | accept _ accepted => cases accepted <;> exact .inr ⟨rfl,rfl,rfl⟩
  | spawn _ started =>
    cases started with
    | true => exact .inr ⟨rfl,List.length_set,rfl⟩
    | false => exact .inr ⟨rfl,rfl,rfl⟩
  | release | finish | dropGuard => exact .inr ⟨rfl,List.length_set,rfl⟩
  | recheck | shutdown | request => exact .inr ⟨rfl,rfl,rfl⟩
  | look => exact .inr ⟨rfl,congrArg List.length lookStep_connections,lookStep_conn⟩
  | wake =>
    exact .inr ⟨rfl,congrArg List.length (wakeStep_connections _ _),wakeStep_conn _ _⟩
  | checked =>
    exact .inr ⟨rfl,congrArg List.length (checkedStep_connections _ _),checkedStep_conn _ _⟩

/-- Once the shutdown is asked for it stays so, and nothing more is admitted. -/
theorem step_closed {label : DaemonLabel} (down : daemon.conn.shutdown = true)
    (taken : step limits daemon label = some next) :
    next.conn.shutdown = true ∧ next.connections.length = daemon.connections.length := by
  rcases step_cases taken with ⟨_,admitted⟩ | ⟨_,kept⟩
  · rw [admitted.running] at down
    cases down
  · refine ⟨?_,kept.length⟩
    rw [kept.conn]
    split
    · exact down
    · split
      · rfl
      · exact down

theorem run_closed {labels : List DaemonLabel} {final : Daemon}
    (down : daemon.conn.shutdown = true)
    (run : Runs.execute (step limits) daemon labels = some final) :
    final.conn.shutdown = true ∧ final.connections.length = daemon.connections.length := by
  apply @Runs.invariant Daemon DaemonLabel (step limits) (fun reached =>
    reached.conn.shutdown = true ∧ reached.connections.length = daemon.connections.length) ?_
    daemon final labels run ⟨down,rfl⟩
  intro reached label next ⟨down,same⟩ taken
  obtain ⟨still,length⟩ := step_closed down taken
  exact ⟨still,length.trans same⟩

/-- A slot that goes back was counted, so the count never has to stop at zero. -/
theorem step_gives {label : DaemonLabel} (accounted : Accounted limits daemon)
    (given : gives label = true) (taken : step limits daemon label = some next) :
    next.conn.active + 1 = daemon.conn.active := by
  have counted : 1 ≤ daemon.conn.active := by
    cases step_taken taken with
    | @release index connection unspawned =>
      have owned : daemon.claim index = some connection := by
        simp [claim,unspawned,AcceptPhase.slot]
      exact (giveBack_accounted accounted (accounted.claims.waiting index connection owned) rfl).1
    | dropGuard ending => exact (giveBack_accounted accounted ending rfl).1
    | _ => cases given
  rcases step_cases taken with ⟨admitted,_⟩ | ⟨_,kept⟩
  · cases label <;> first | cases admitted | cases given
  · rw [kept.conn,if_pos given]
    exact Nat.sub_add_cancel counted

/-! ## Every slot comes back -/

/-- Every connection whose thread has not run is the responsibility of an accept loop. -/
def Attended (daemon : Daemon) : Prop :=
  ∀ connection : Nat, daemon.connections[connection]? = some .waiting →
    ∃ index, daemon.claim index = some connection

theorem claim_setListener_other {index other : Nat} (apart : other ≠ index) (phase : AcceptPhase) :
    (daemon.setListener index phase).claim other = daemon.claim other := by
  simp [claim,setListener,List.getElem?_set_ne (Ne.symm apart)]

theorem claim_setListener_self {index : Nat} {old : AcceptPhase}
    (found : daemon.listeners[index]? = some old) (phase : AcceptPhase) :
    (daemon.setListener index phase).claim index = phase.slot := by
  obtain ⟨inside,_⟩ := List.getElem?_eq_some_iff.mp found
  simp [claim,setListener,List.getElem?_set_self inside]

theorem setConnection_waiting {connection other : Nat} {phase : ConnPhase}
    (running : phase ≠ .waiting)
    (waiting : (daemon.setConnection connection phase).connections[other]? = some .waiting) :
    connection ≠ other ∧ daemon.connections[other]? = some .waiting := by
  by_cases same : connection = other
  · subst same
    simp only [setConnection,List.getElem?_set_self'] at waiting
    cases found : daemon.connections[connection]? with
    | none => simp [found] at waiting
    | some old => exact (running (by simpa [found] using waiting)).elim
  · refine ⟨same,?_⟩
    simpa only [setConnection,List.getElem?_set_ne same] using waiting

/-- A loop that is responsible for nothing may move. -/
theorem Attended.setListener (attended : daemon.Attended) {index : Nat}
    (free : daemon.claim index = none) (phase : AcceptPhase) :
    (daemon.setListener index phase).Attended := by
  intro connection waiting
  obtain ⟨other,claimed⟩ := attended connection waiting
  have apart : other ≠ index := by
    rintro rfl
    rw [free] at claimed
    cases claimed
  exact ⟨other,(claim_setListener_other apart phase).trans claimed⟩

/-- A connection whose thread runs, or is over, needs no loop. -/
theorem Attended.setConnection (attended : daemon.Attended) (connection : Nat) {phase : ConnPhase}
    (running : phase ≠ .waiting) : (daemon.setConnection connection phase).Attended := by
  intro other waiting
  obtain ⟨_,before⟩ := setConnection_waiting running waiting
  exact attended other before

theorem Attended.letGo (attended : daemon.Attended) {index connection : Nat} {phase : ConnPhase}
    (owned : daemon.claim index = some connection) (running : phase ≠ .waiting)
    (next : AcceptPhase) :
    ((daemon.setConnection connection phase).setListener index next).Attended := by
  intro other waiting
  obtain ⟨apart,before⟩ := setConnection_waiting running waiting
  obtain ⟨loop,claimed⟩ := attended other before
  have different : loop ≠ index := by
    rintro rfl
    rw [owned] at claimed
    exact apart (Option.some.inj claimed)
  exact ⟨loop,(claim_setListener_other different next).trans claimed⟩

theorem admitStep_attended (attended : daemon.Attended) {index : Nat}
    (arrived : daemon.listeners[index]? = some .arrived) :
    (admitStep limits daemon index).Attended := by
  have free : daemon.claim index = none := by simp [claim,arrived,AcceptPhase.slot]
  unfold admitStep
  rcases admit_cases daemon.conn limits.maxConnections with ⟨down,_⟩ | ⟨full,_⟩ | ⟨taken,_,_⟩
  · rw [down]
    exact attended.setListener free .stopped
  · rw [full]
    exact attended.setListener free .accepting
  · rw [taken]
    intro connection waiting
    -- the connection just admitted is this loop's, every older one is still its loop's
    rcases Nat.lt_trichotomy connection daemon.connections.length with inside | rfl | beyond
    · simp only [List.getElem?_append_left inside] at waiting
      exact attended.setListener free (.slotted daemon.connections.length) connection waiting
    · exact ⟨index,claim_setListener_self arrived _⟩
    · rw [List.getElem?_eq_none (by simp only [List.length_append,List.length_singleton]; omega)]
        at waiting
      cases waiting

theorem spawnStep_attended (attended : daemon.Attended) {index connection : Nat}
    (slotted : daemon.listeners[index]? = some (.slotted connection)) (started : Bool) :
    (daemon.spawnStep index connection started).Attended := by
  have owned : daemon.claim index = some connection := by simp [claim,slotted,AcceptPhase.slot]
  cases started with
  | true => exact attended.letGo owned (by decide : ConnPhase.serving ≠ .waiting) .accepting
  | false =>
    intro other waiting
    obtain ⟨loop,claimed⟩ := attended other waiting
    by_cases here : loop = index
    · subst here
      rw [owned] at claimed
      cases claimed
      exact ⟨loop,claim_setListener_self slotted _⟩
    · exact ⟨loop,(claim_setListener_other here _).trans claimed⟩

theorem step_attended (daemon : Daemon) (label : DaemonLabel) (next : Daemon)
    (attended : daemon.Attended) (taken : step limits daemon label = some next) :
    next.Attended := by
  have released : (daemon.setConn daemon.conn.release).Attended := attended
  have ended : ConnPhase.ended ≠ .waiting := by decide
  cases step_taken taken with
  | @accept index accepting accepted =>
    have free : daemon.claim index = none := by simp [claim,accepting,AcceptPhase.slot]
    cases accepted with
    | arrived => exact attended.setListener free .arrived
    | interrupted => exact attended
    | failed => exact attended.setListener free .retrying
  | @recheck index retrying =>
    exact attended.setListener (by simp [claim,retrying,AcceptPhase.slot]) _
  | admission arrived => exact admitStep_attended attended arrived
  | spawn slotted started => exact spawnStep_attended attended slotted started
  | @release index connection unspawned =>
    have owned : daemon.claim index = some connection := by
      simp [claim,unspawned,AcceptPhase.slot]
    exact released.letGo owned ended .accepting
  | @finish connection _ how => exact attended.setConnection connection (by cases how <;> decide)
  | @dropGuard connection => exact released.setConnection connection ended
  | shutdown | request => exact attended
  | look =>
    unfold lookStep
    split
    · exact attended
    · split <;> exact attended
  | wake =>
    unfold wakeStep
    split
    · exact attended
    · split <;> exact attended
  | checked =>
    unfold checkedStep
    split
    · exact attended
    · split <;> exact attended

theorem start_attended (listeners : Nat) (watched : Bool) :
    (start listeners watched).Attended := by
  intro connection waiting
  cases waiting

/-- Once its handler is over, nothing but the drop of its guard moves a connection. -/
theorem step_ending {label : DaemonLabel} {connection : Nat} {how : Ending}
    (claims : daemon.Claims) (ending : daemon.connections[connection]? = some (.ending how))
    (kept : label ≠ .dropGuard connection) (taken : step limits daemon label = some next) :
    next.connections[connection]? = some (.ending how) := by
  have unclaimed := claims.unclaimed ending nofun
  have other {moved : Nat} (phase : ConnPhase) (apart : moved ≠ connection) :
      (daemon.connections.set moved phase)[connection]? = some (.ending how) :=
    (List.getElem?_set_ne apart).trans ending
  cases step_taken taken with
  | accept _ accepted => cases accepted <;> exact ending
  | @admission index =>
    rcases admitStep_cases limits daemon index with ⟨_,admitted⟩ | ⟨_,_,same⟩
    · obtain ⟨inside,_⟩ := List.getElem?_eq_some_iff.mp ending
      rw [admitted.connections,List.getElem?_append_left inside]
      exact ending
    · rw [same]
      exact ending
  | @spawn index moved slotted started =>
    cases started with
    | false => exact ending
    | true =>
      refine other .serving ?_
      rintro rfl
      exact unclaimed index (by simp [claim,slotted,AcceptPhase.slot])
  | @release index moved unspawned =>
    refine other .ended ?_
    rintro rfl
    exact unclaimed index (by simp [claim,unspawned,AcceptPhase.slot])
  | @finish moved serving how' =>
    refine other (.ending how') ?_
    rintro rfl
    rw [ending] at serving
    cases serving
  | @dropGuard moved =>
    refine other .ended ?_
    rintro rfl
    exact kept rfl
  | recheck | shutdown | request => exact ending
  | look =>
    rw [lookStep_connections]
    exact ending
  | wake =>
    rw [wakeStep_connections]
    exact ending
  | checked =>
    rw [checkedStep_connections]
    exact ending

/-- The slot of `connection` goes back: it was counted, and nothing else is given up. -/
structure GaveBack (daemon next : Daemon) (connection : Nat) : Prop where
  active : next.conn.active + 1 = daemon.conn.active
  connections : next.connections = daemon.connections.set connection .ended

/-- The way of every connection that still has its slot is open, up to the step that gives
the slot back: a spawn that fails is followed by a release by hand, and a handler's end,
whichever it is, by the drop of the guard. -/
structure Returns (limits : DaemonLimits) (daemon : Daemon) : Prop where
  waiting : ∀ connection : Nat, daemon.connections[connection]? = some .waiting →
    ∃ index : Nat, daemon.listeners[index]? = some (.slotted connection) ∨
      daemon.listeners[index]? = some (.unspawned connection)
  spawned : ∀ index connection : Nat, daemon.listeners[index]? = some (.slotted connection) →
    ∃ next, step limits daemon (.spawn index true) = some next ∧ next.conn = daemon.conn ∧
      next.connections = daemon.connections.set connection .serving
  refused : ∀ index connection : Nat, daemon.listeners[index]? = some (.slotted connection) →
    ∃ next, step limits daemon (.spawn index false) = some next ∧ next.conn = daemon.conn ∧
      next.connections = daemon.connections ∧
      next.listeners[index]? = some (.unspawned connection)
  unspawned : ∀ index connection : Nat, daemon.listeners[index]? = some (.unspawned connection) →
    ∃ next, step limits daemon (.release index) = some next ∧ GaveBack daemon next connection
  serving : ∀ connection : Nat, daemon.connections[connection]? = some .serving →
    ∀ how, ∃ next, step limits daemon (.finish connection how) = some next ∧
      next.conn = daemon.conn ∧
      next.connections = daemon.connections.set connection (.ending how)
  ending : ∀ (connection : Nat) (how : Ending),
    daemon.connections[connection]? = some (.ending how) →
    ∃ next, step limits daemon (.dropGuard connection) = some next ∧
      GaveBack daemon next connection
  stays : ∀ (connection : Nat) (how : Ending),
    daemon.connections[connection]? = some (.ending how) →
    ∀ label next, label ≠ .dropGuard connection → step limits daemon label = some next →
      next.connections[connection]? = some (.ending how)

theorem Accounted.returns (accounted : Accounted limits daemon) (attended : daemon.Attended) :
    daemon.Returns limits where
  waiting connection waiting := by
    obtain ⟨index,claimed⟩ := attended connection waiting
    refine ⟨index,?_⟩
    simp only [claim] at claimed
    cases found : daemon.listeners[index]? with
    | none => simp [found] at claimed
    | some phase =>
      cases phase <;> simp_all [AcceptPhase.slot]
  spawned index connection slotted :=
    ⟨daemon.spawnStep index connection true,by simp only [step,slotted],rfl,rfl⟩
  refused index connection slotted := by
    obtain ⟨inside,_⟩ := List.getElem?_eq_some_iff.mp slotted
    exact ⟨daemon.spawnStep index connection false,by simp only [step,slotted],rfl,rfl,
      List.getElem?_set_self inside⟩
  unspawned index connection unspawned := by
    have taken : step limits daemon (.release index) =
        some ((daemon.giveBack connection).setListener index .accepting) := by
      simp only [step,unspawned]
    exact ⟨_,taken,step_gives accounted rfl taken,rfl⟩
  serving connection serving how :=
    ⟨daemon.setConnection connection (.ending how),by simp only [step,serving],rfl,rfl⟩
  ending connection how ending := by
    have taken : step limits daemon (.dropGuard connection) = some (daemon.giveBack connection) := by
      simp only [step,ending]
    exact ⟨_,taken,step_gives accounted rfl taken,rfl⟩
  stays connection how ending label next kept taken :=
    step_ending accounted.claims ending kept taken

/-- In every run of the daemon the count is exact and within its ceiling, a slot that
goes back was counted, a refusal leaves no trace, after a shutdown request nobody is
admitted any more, and no slot is lost on any way out. -/
theorem connections_accounted (limits : DaemonLimits) (listeners : Nat) (watched : Bool)
    {labels : List DaemonLabel} {daemon : Daemon}
    (run : Runs.execute (step limits) (start listeners watched) labels = some daemon) :
    daemon.conn.active = daemon.live ∧ daemon.conn.active ≤ limits.maxConnections ∧
      (∀ label next, gives label = true → step limits daemon label = some next →
        next.conn.active + 1 = daemon.conn.active) ∧
      (∀ index next, admits limits daemon (.admission index) = false →
        step limits daemon (.admission index) = some next →
        next.conn = daemon.conn ∧ next.connections = daemon.connections) ∧
      (daemon.conn.shutdown = true → ∀ rest final,
        Runs.execute (step limits) daemon rest = some final →
        final.conn.shutdown = true ∧ final.connections.length = daemon.connections.length) ∧
      daemon.Returns limits := by
  have accounted : Accounted limits daemon :=
    Runs.invariant step_accounted run (start_accounted limits listeners watched)
  have attended : daemon.Attended :=
    Runs.invariant step_attended run (start_attended listeners watched)
  refine ⟨accounted.exact_,accounted.bounded,?_,?_,?_,accounted.returns attended⟩
  · intro label next given taken
    exact step_gives accounted given taken
  · intro index next refused taken
    cases step_taken taken
    rcases admitStep_cases limits daemon index with ⟨admitted,_⟩ | ⟨_,untouched⟩
    · rw [refused] at admitted
      cases admitted
    · exact untouched
  · intro down rest final later
    exact run_closed down later

/-- A thread that cannot be had, a refusal, a handler that panics, a stop. -/
def oneSlotRun : List DaemonLabel :=
  [.accept 0 .arrived,.admission 0,.spawn 0 false,.release 0,.accept 0 .arrived,.admission 0,
    .spawn 0 true,.accept 1 .arrived,.admission 1,.finish 1 .panicked,.shutdown]

theorem one_slot_accounted :
    ∃ daemon next, Runs.execute (step ⟨1,false⟩) (start 2 false) oneSlotRun = some daemon ∧
      daemon.conn.active = 1 ∧ daemon.conn.active = daemon.live ∧ daemon.conn.active ≤ 1 ∧
      step ⟨1,false⟩ daemon (.dropGuard 1) = some next ∧ GaveBack daemon next 1 ∧
      next.conn.active = 0 := by
  have run : Runs.execute (step ⟨1,false⟩) (start 2 false) oneSlotRun =
      some ⟨⟨1,2,true⟩,[.accepting,.accepting],[.ended,.ending .panicked],.absent⟩ := by decide
  obtain ⟨exact_,bounded,_,_,_,returns⟩ := connections_accounted ⟨1,false⟩ 2 false run
  obtain ⟨next,taken,back⟩ := returns.ending 1 .panicked rfl
  exact ⟨_,next,run,rfl,exact_,bounded,taken,back,Nat.succ.inj back.active⟩

end Daemon

end SmlMcps
