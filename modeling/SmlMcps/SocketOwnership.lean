import SmlMcps.SocketState

/-! The claim on a socket path. Whoever touches the socket file holds it, and a daemon
holds it for as long as it is bound, so nobody unlinks a live daemon's socket. -/
namespace SmlMcps

/-- The process is between taking the claim and releasing it. -/
def Process.holds : Process → Bool
  | .daemon _ .starting => false
  | .daemon _ _ => true
  | .shim (.holding _) | .shim (.condemned _) | .shim (.unlinked _) | .shim (.releasing _) => true
  | _ => false

/-- The process is a daemon between binding the path and releasing its claim. -/
def Process.bound : Process → Bool
  | .daemon _ .bound | .daemon _ .listening | .daemon _ .serving | .daemon _ .cleaning
  | .daemon _ .cleaned | .daemon _ .closing => true
  | _ => false

theorem Process.holds_of_bound {process : Process} (bound : process.bound = true) :
    process.holds = true := by
  cases process with
  | daemon publishes phase => cases phase <;> first | rfl | cases bound
  | _ => cases bound

/-! ## One step of one process -/

/-- The lock discipline: what a process may do to the files, by what it holds. Only one
thing is done without the claim: the removal of a PID file by a shim. -/
def Lawful (sight : Sight) (process : Process) (op : FileOp) (next : Process) : Prop :=
  match op with
  | .claim => sight.free = true
  | .release => process.holds = true ∧ next.holds = false
  | .bind | .removeSocket | .publish => process.holds = true
  | .removePid => process.holds = true ∨ process = .shim .removing ∧ next.holds = false
  | .nothing | .spawn _ => next.holds = true → process.holds = true

theorem daemon_lawful {sight : Sight} {publishes : Bool} {phase : DaemonPhase} {outcome : Outcome}
    {next : Option DaemonPhase} {op : FileOp}
    (acted : phase.act publishes sight outcome = some (next,op)) :
    Lawful sight (.daemon publishes phase) op (next.elim .ended (.daemon publishes)) := by
  cases phase with
  | starting =>
    cases outcome with
    | yes =>
      simp only [DaemonPhase.act] at acted
      split at acted <;> cases acted
      · assumption
      · exact nofun
    | _ => cases acted; exact nofun
  | claimed =>
    simp only [DaemonPhase.act] at acted
    split at acted
    · cases acted
      exact fun _ => rfl
    · cases outcome with
      | yes =>
        simp only at acted
        split at acted <;> cases acted
        exact fun _ => rfl
      | _ =>
        cases acted
        exact fun _ => rfl
  | cleared =>
    cases outcome with
    | yes =>
      simp only [DaemonPhase.act] at acted
      split at acted <;> cases acted
      rfl
    | _ =>
      cases acted
      exact fun _ => rfl
  | listening =>
    cases outcome with
    | yes =>
      cases acted
      cases publishes
      · exact fun _ => rfl
      · rfl
    | _ =>
      cases acted
      exact fun _ => rfl
  | cleaned =>
    cases outcome with
    | yes =>
      cases acted
      cases publishes
      · exact fun _ => rfl
      · exact .inl rfl
    | _ =>
      cases acted
      exact fun _ => rfl
  | closing =>
    cases outcome <;> cases acted <;> exact ⟨rfl,rfl⟩
  | condemned | bound | serving | cleaning =>
    cases outcome <;> cases acted <;> first | rfl | exact fun _ => rfl

theorem shim_lawful {sight : Sight} {phase : ShimPhase} {outcome : Outcome}
    {next : Option ShimPhase} {op : FileOp} (acted : phase.act sight outcome = some (next,op)) :
    Lawful sight (.shim phase) op (next.elim .ended .shim) := by
  cases phase with
  | arriving | socketThere | noSocket =>
    cases outcome with
    | _ =>
      simp only [ShimPhase.act] at acted
      first
        | (cases acted; exact nofun)
        | (split at acted <;> cases acted; exact nofun)
  | looking =>
    cases acted
    cases sight.present <;> exact nofun
  | grace socket =>
    cases outcome with
    | yes =>
      simp only [ShimPhase.act] at acted
      split at acted <;> cases acted
      exact nofun
    | _ =>
      cases acted
      cases socket <;> exact nofun
  | clearing withPid =>
    cases outcome with
    | yes =>
      simp only [ShimPhase.act] at acted
      split at acted <;> cases acted
      assumption
    | no => cases acted; exact nofun
    | unknown =>
      simp only [ShimPhase.act] at acted
      split at acted <;> cases acted
      exact nofun
  | holding withPid =>
    cases outcome with
    | yes =>
      simp only [ShimPhase.act] at acted
      split at acted <;> cases acted
      exact fun _ => rfl
    | _ =>
      cases acted
      exact fun _ => rfl
  | condemned withPid =>
    cases outcome <;> cases acted <;> first | rfl | exact fun _ => rfl
  | unlinked withPid =>
    cases withPid <;> cases outcome <;> cases acted <;> first | exact .inl rfl | exact fun _ => rfl
  | releasing connected =>
    cases connected <;> cases outcome <;> cases acted <;> exact ⟨rfl,rfl⟩
  | removing =>
    cases outcome <;> cases acted <;> first | exact .inr ⟨rfl,rfl⟩ | exact nofun
  | spawning => cases outcome <;> cases acted <;> exact nofun

theorem act_lawful {sight : Sight} {process next : Process} {outcome : Outcome} {op : FileOp}
    (acted : process.act sight outcome = some (next,op)) : Lawful sight process op next := by
  cases process with
  | daemon publishes phase =>
    obtain ⟨⟨later,done⟩,moved,same⟩ := Option.map_eq_some_iff.mp acted
    cases same
    exact daemon_lawful moved
  | shim phase =>
    obtain ⟨⟨later,done⟩,moved,same⟩ := Option.map_eq_some_iff.mp acted
    cases same
    exact shim_lawful moved
  | ended => cases acted

namespace SocketWorld

variable {world next : SocketWorld} {label : SocketLabel}

/-! ## Every step -/

/-- What a step did: a process appeared, died, or acted. -/
inductive Taken (world : SocketWorld) : SocketLabel → SocketWorld → Prop
  | daemon (publishes : Bool) : Taken world (.startDaemon publishes)
      { world with processes := world.processes ++ [.daemon publishes .starting] }
  | shim : Taken world .startShim { world with processes := world.processes ++ [.shim .arriving] }
  | acted {index : Nat} {outcome : Outcome} {process later : Process} {op : FileOp}
      (known : world.processes[index]? = some process)
      (moved : process.act world.sight outcome = some (later,op)) :
      Taken world (.act index outcome) ((world.setProcess index later).perform index op)
  | crashed {index : Nat} {process : Process} (known : world.processes[index]? = some process) :
      Taken world (.crash index) (world.crash index)

theorem step_taken (taken : world.step label = some next) : Taken world label next := by
  cases label with
  | startDaemon publishes =>
    cases taken
    exact .daemon publishes
  | startShim =>
    cases taken
    exact .shim
  | act index outcome =>
    simp only [step,Option.bind_eq_bind,Option.bind_eq_some_iff] at taken
    obtain ⟨process,known,⟨later,op⟩,moved,reached⟩ := taken
    cases reached
    exact .acted known moved
  | crash index =>
    simp only [step] at taken
    split at taken
    · cases taken
    · cases taken
    · rename_i process _ known
      cases taken
      exact .crashed known

/-- The processes of a world, after one of them has moved on: that one, others as they
were, and one that has just been spawned. -/
theorem acted_processes {index other : Nat} {later process : Process} {op : FileOp}
    (found : ((world.setProcess index later).perform index op).processes[other]? = some process) :
    (other = index ∧ process = later) ∨
      (other ≠ index ∧ world.processes[other]? = some process) ∨
      ∃ publishes, op = .spawn publishes ∧ other = world.processes.length ∧
        process = .daemon publishes .starting := by
  have inner {processes : List Process} (same : processes = world.processes.set index later)
      (here : processes[other]? = some process) :
      (other = index ∧ process = later) ∨ (other ≠ index ∧ world.processes[other]? = some process) := by
    rw [same] at here
    by_cases at_ : index = other
    · subst at_
      rw [List.getElem?_set_self'] at here
      obtain ⟨_,_,rfl⟩ := Option.map_eq_some_iff.mp here
      exact .inl ⟨rfl,rfl⟩
    · rw [List.getElem?_set_ne at_] at here
      exact .inr ⟨Ne.symm at_,here⟩
  cases op with
  | spawn publishes =>
    simp only [perform,setProcess] at found
    rcases Nat.lt_or_ge other (world.processes.set index later).length with inside | beyond
    · rw [List.getElem?_append_left inside] at found
      rcases inner rfl found with moved | kept
      · exact .inl moved
      · exact .inr (.inl kept)
    · rw [List.getElem?_append_right beyond] at found
      have place := (List.getElem?_eq_some_iff.mp found).1
      simp only [List.length_set,List.length_singleton] at place beyond
      exact .inr (.inr ⟨publishes,rfl,by omega,List.mem_singleton.mp (List.mem_of_getElem? found)⟩)
  | _ =>
    rcases inner rfl found with moved | kept
    · exact .inl moved
    · exact .inr (.inl kept)

theorem crash_processes {index other : Nat} {process : Process}
    (found : (world.crash index).processes[other]? = some process) :
    (other = index ∧ process = .ended) ∨ (other ≠ index ∧ world.processes[other]? = some process) := by
  have same : (world.crash index).processes = world.processes.set index .ended := by
    simp only [crash,setProcess]
    split <;> rfl
  rw [same] at found
  by_cases at_ : index = other
  · subst at_
    rw [List.getElem?_set_self'] at found
    obtain ⟨_,_,rfl⟩ := Option.map_eq_some_iff.mp found
    exact .inl ⟨rfl,rfl⟩
  · rw [List.getElem?_set_ne at_] at found
    exact .inr ⟨Ne.symm at_,found⟩

theorem started_processes {processes : List Process} {newcomer process : Process} {other : Nat}
    (found : (processes ++ [newcomer])[other]? = some process) :
    processes[other]? = some process ∨ (other = processes.length ∧ process = newcomer) := by
  rcases Nat.lt_or_ge other processes.length with inside | beyond
  · rw [List.getElem?_append_left inside] at found
    exact .inl found
  · rw [List.getElem?_append_right beyond] at found
    have place := (List.getElem?_eq_some_iff.mp found).1
    simp only [List.length_singleton] at place
    exact .inr ⟨by omega,List.mem_singleton.mp (List.mem_of_getElem? found)⟩

/-! ## The claim -/

/-- Whoever thinks it holds the claim does. -/
def Claimed (world : SocketWorld) : Prop :=
  ∀ (index : Nat) process, world.processes[index]? = some process → process.holds = true →
    world.files.claim = some index

theorem start_claimed (socket pidFile : Bool) : Claimed (start socket pidFile) := by
  intro index process found
  simp [start] at found

/-- What a process does to the lock. -/
theorem perform_claim (world : SocketWorld) (index : Nat) (op : FileOp) :
    (world.perform index op).files.claim = match op with
      | .claim => some index
      | .release => none
      | _ => world.files.claim := by
  cases op <;> rfl

theorem perform_socket (world : SocketWorld) (index : Nat) (op : FileOp) :
    (world.perform index op).files.socket = match op with
      | .bind => some (some index)
      | .removeSocket => none
      | _ => world.files.socket := by
  cases op <;> rfl

theorem acted_self {index : Nat} {process later : Process} {op : FileOp}
    (known : world.processes[index]? = some process) :
    ((world.setProcess index later).perform index op).processes[index]? = some later := by
  have inside := (List.getElem?_eq_some_iff.mp known).1
  have set_ : (world.processes.set index later)[index]? = some later :=
    List.getElem?_set_self inside
  cases op with
  | spawn publishes =>
    simp only [perform,setProcess]
    rw [List.getElem?_append_left (by rwa [List.length_set])]
    exact set_
  | _ => exact set_

theorem crash_files (world : SocketWorld) (index : Nat) :
    (world.crash index).files.socket = world.files.socket ∧
      (world.crash index).files.pidFile = world.files.pidFile := by
  simp only [crash,setProcess]
  split <;> exact ⟨rfl,rfl⟩

theorem Claimed.act (claimed : Claimed world) {index : Nat} {outcome : Outcome}
    {process later : Process} {op : FileOp} (known : world.processes[index]? = some process)
    (moved : process.act world.sight outcome = some (later,op)) :
    Claimed ((world.setProcess index later).perform index op) := by
  have lawful := act_lawful moved
  have kept : (world.setProcess index later).files.claim = world.files.claim := rfl
  intro other standing found holds
  rw [perform_claim,kept]
  rcases acted_processes found with ⟨rfl,rfl⟩ | ⟨apart,before⟩ | ⟨publishes,_,_,rfl⟩
  · cases op with
    | claim => rfl
    | release =>
      rw [lawful.2] at holds
      cases holds
    | removePid =>
      rcases lawful with held | ⟨_,free⟩
      · exact claimed other process known held
      · rw [free] at holds
        cases holds
    | bind | removeSocket | publish => exact claimed other process known lawful
    | nothing | spawn => exact claimed other process known (lawful holds)
  · have held := claimed other standing before holds
    cases op with
    | claim =>
      have free : world.files.claim.isNone = true := lawful
      rw [held] at free
      cases free
    | release =>
      have mine := claimed index process known lawful.1
      rw [held] at mine
      exact (apart (Option.some.inj mine)).elim
    | _ => exact held
  · cases holds

theorem Claimed.crash (claimed : Claimed world) (index : Nat) : Claimed (world.crash index) := by
  intro other standing found holds
  rcases crash_processes found with ⟨_,rfl⟩ | ⟨apart,before⟩
  · cases holds
  · have held := claimed other standing before holds
    simp only [SocketWorld.crash]
    rw [if_neg]
    · exact held
    · intro mine
      rw [held] at mine
      exact apart (Option.some.inj mine)

theorem Claimed.started (claimed : Claimed world) {newcomer : Process}
    (free : newcomer.holds = false) :
    Claimed { world with processes := world.processes ++ [newcomer] } := by
  intro other standing found holds
  rcases started_processes found with before | ⟨_,rfl⟩
  · exact claimed other standing before holds
  · rw [free] at holds
    cases holds

theorem step_claimed (world : SocketWorld) (label : SocketLabel) (next : SocketWorld)
    (claimed : Claimed world) (taken : world.step label = some next) : Claimed next := by
  cases step_taken taken with
  | daemon publishes => exact claimed.started rfl
  | shim => exact claimed.started rfl
  | acted known moved => exact claimed.act known moved
  | crashed known => exact claimed.crash _

/-! ## Ownership -/

/-- The socket file goes only by the hand of a process that holds the claim. -/
theorem unlinked_by (taken : world.step label = some next)
    (there : world.files.socket ≠ none) (gone : next.files.socket = none) :
    ∃ actor outcome process, label = .act actor outcome ∧
      world.processes[actor]? = some process ∧ process.holds = true := by
  cases step_taken taken with
  | daemon | shim => exact (there gone).elim
  | @crashed index process known =>
    refine (there ?_).elim
    simp only [SocketWorld.crash,setProcess] at gone
    split at gone <;> exact gone
  | @acted index outcome process later op known moved =>
    have lawful := act_lawful moved
    cases op with
    | removeSocket => exact ⟨index,outcome,process,rfl,known,lawful⟩
    | bind => cases gone
    | _ => exact (there gone).elim

/-- At most one live daemon is between binding the path and releasing its claim, and
nobody else unlinks the socket file meanwhile. -/
theorem socket_owned (socket pidFile : Bool) {labels : List SocketLabel} {world : SocketWorld}
    (run : Runs.execute step (start socket pidFile) labels = some world) :
    (∀ (first second : Nat) one two, world.processes[first]? = some one →
      world.processes[second]? = some two → one.bound = true → two.bound = true →
      first = second) ∧
    ∀ label next, world.step label = some next → world.files.socket ≠ none →
      next.files.socket = none → ∃ actor outcome, label = .act actor outcome ∧
        ∀ (index : Nat) process, world.processes[index]? = some process →
          process.bound = true → index = actor := by
  have claimed : Claimed world := Runs.invariant step_claimed run (start_claimed socket pidFile)
  constructor
  · intro first second one two left right boundOne boundTwo
    have mine := claimed first one left (Process.holds_of_bound boundOne)
    have yours := claimed second two right (Process.holds_of_bound boundTwo)
    exact Option.some.inj (mine.symm.trans yours)
  · intro label next taken there gone
    obtain ⟨actor,outcome,process,same,known,holds⟩ := unlinked_by taken there gone
    refine ⟨actor,outcome,same,?_⟩
    intro index standing found bound
    have mine := claimed index standing found (Process.holds_of_bound bound)
    have yours := claimed actor process known holds
    exact Option.some.inj (mine.symm.trans yours)

/-- Two daemons on a stale socket: the first clears and binds it, the second is refused;
the first dies, a shim clears what it left and starts a third, which is about to unlink its
own socket. -/
def twoDaemons : List SocketLabel :=
  [.startDaemon true,.startDaemon true,.act 0 .yes,.act 1 .yes,.act 0 .no,.act 0 .yes,
    .act 0 .yes,.act 0 .yes,.act 0 .yes,.crash 0,.startShim,.act 2 .no,.act 2 .yes,.act 2 .no,
    .act 2 .yes,.act 2 .no,.act 2 .yes,.act 2 .yes,.act 2 .yes,.act 2 .yes,.act 3 .yes,
    .act 3 .yes,.act 3 .yes,.act 3 .yes,.act 3 .yes,.act 3 .yes]

/-- The third daemon alone is there, done serving. -/
def thirdDaemon : SocketWorld :=
  ⟨⟨some 3,some (some 3),some (some 3)⟩,[.ended,.ended,.ended,.daemon true .cleaning]⟩

theorem two_daemons_owned :
    Runs.execute step (start true false) twoDaemons = some thirdDaemon ∧
    (Process.daemon true .cleaning).bound = true ∧
    (∀ (first second : Nat) one two, thirdDaemon.processes[first]? = some one →
      thirdDaemon.processes[second]? = some two → one.bound = true → two.bound = true →
      first = second) ∧
    ∃ next, thirdDaemon.step (.act 3 .yes) = some next ∧ next.files.socket = none ∧
      ∃ actor outcome, SocketLabel.act 3 .yes = .act actor outcome ∧
        ∀ (index : Nat) process, thirdDaemon.processes[index]? = some process →
          process.bound = true → index = actor := by
  have run : Runs.execute step (start true false) twoDaemons = some thirdDaemon := by decide
  have owned := socket_owned true false run
  exact ⟨run,by decide,owned.1,_,rfl,rfl,owned.2 (.act 3 .yes) _ rfl (by decide) rfl⟩

end SocketWorld

end SmlMcps
