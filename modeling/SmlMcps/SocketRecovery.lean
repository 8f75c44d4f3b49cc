import SmlMcps.Library.Progress
import SmlMcps.SocketOwnership

/-! What becomes of a socket path once nothing fails any more. Whatever crashes have left
there and however many shims come at once, a daemon ends up serving, and only one: nobody
gives up who has not seen somebody else that will not. -/
namespace SmlMcps

/-! ## Steps that do not fail -/

/-- The most steps until the daemon serves. -/
@[simp] def DaemonPhase.remaining : DaemonPhase → Nat
  | .starting => 6
  | .claimed => 5
  | .condemned => 4
  | .cleared => 3
  | .bound => 2
  | .listening => 1
  | _ => 0

/-- With those of the daemon that the shim may start. -/
@[simp] def ShimPhase.remaining : ShimPhase → Nat
  | .arriving => 16
  | .looking => 15
  | .socketThere | .noSocket => 14
  | .grace _ => 13
  | .clearing _ => 12
  | .holding _ => 11
  | .condemned _ => 10
  | .unlinked _ => 9
  | .releasing _ | .removing => 8
  | .spawning => 7

def DaemonPhase.calm : DaemonPhase → Outcome → Bool
  | .claimed, outcome => outcome != .unknown
  | .starting, outcome | .condemned, outcome | .cleared, outcome | .bound, outcome
  | .listening, outcome => outcome == .yes
  | _, _ => false

/-- What is at the path belongs to this user, and a daemon can be started. -/
def ShimPhase.calm : ShimPhase → Outcome → Bool
  | .arriving, outcome => outcome != .unknown
  | .spawning, outcome => outcome != .no
  | _, _ => true

namespace Process

@[simp] def remaining : Process → Nat
  | .daemon _ phase => phase.remaining
  | .shim phase => phase.remaining
  | .ended => 0

/-- A daemon's own calls succeed, and once it serves it stays. Most of what a shim tries may
fail. -/
def calm : Process → Outcome → Bool
  | .daemon _ phase, outcome => phase.calm outcome
  | .shim phase, outcome => phase.calm outcome
  | .ended, _ => false

/-- Done, or connected, and not going to start anything. -/
def leaving : Process → Bool
  | .daemon _ .cleaning | .daemon _ .cleaned | .daemon _ .closing => true
  | .shim (.releasing connected) => connected
  | _ => false

def resting : Process → Bool
  | .daemon _ .serving | .ended => true
  | _ => false

def listens : Process → Bool
  | .daemon _ phase => phase.listens
  | _ => false

/-- What a daemon that has cleared the path knows of the socket file. -/
def Sees (index : Nat) (process : Process) (socket : Option (Option Nat)) : Prop :=
  match process with
  | .daemon _ .cleared => socket = none
  | .daemon _ .bound | .daemon _ .listening | .daemon _ .serving => socket = some (some index)
  | _ => True

theorem holds_of_listens {process : Process} (listens : process.listens = true) :
    process.holds = true := by
  cases process with
  | daemon publishes phase => cases phase <;> first | rfl | cases listens
  | _ => cases listens

theorem sees_of_free {process : Process} (free : process.holds = false) (index : Nat)
    (socket : Option (Option Nat)) : process.Sees index socket := by
  cases process with
  | daemon publishes phase => cases phase <;> trivial
  | _ => trivial

end Process

/-- The steps of the daemon that is started. -/
@[simp] def FileOp.remaining : FileOp → Nat
  | .spawn _ => DaemonPhase.starting.remaining
  | _ => 0

/-! ## One step of one process -/

/-- What a daemon's step can be. It `leaves` when a call of its own fails, or when it is done
serving. -/
inductive DaemonMove (publishes : Bool) (sight : Sight) :
    DaemonPhase → Outcome → Option DaemonPhase → FileOp → Prop
  | claims (free : sight.free = true) :
      DaemonMove publishes sight .starting .yes (some .claimed) .claim
  | refused (taken : sight.free = false) :
      DaemonMove publishes sight .starting .yes none .nothing
  | unanswered {outcome : Outcome} (failed : DaemonPhase.starting.calm outcome = false) :
      DaemonMove publishes sight .starting outcome none .nothing
  | finds {outcome : Outcome} (absent : sight.present = false) :
      DaemonMove publishes sight .claimed outcome (some .cleared) .nothing
  | meets (answers : sight.answers = true) :
      DaemonMove publishes sight .claimed .yes (some .closing) .nothing
  | condemns : DaemonMove publishes sight .claimed .no (some .condemned) .nothing
  | clears : DaemonMove publishes sight .condemned .yes (some .cleared) .removeSocket
  | binds : DaemonMove publishes sight .cleared .yes (some .bound) .bind
  | listens : DaemonMove publishes sight .bound .yes (some .listening) .nothing
  | serves : DaemonMove publishes sight .listening .yes (some .serving)
      (if publishes then .publish else .nothing)
  | leaves {phase later : DaemonPhase} {outcome : Outcome} {op : FileOp}
      (begun : phase ≠ .starting) (failed : phase.calm outcome = false)
      (gone : (Process.daemon publishes later).leaving = true) (unclaimed : op ≠ .claim) :
      DaemonMove publishes sight phase outcome (some later) op
  | releases {outcome : Outcome} : DaemonMove publishes sight .closing outcome none .release

/-- What a shim's step can be: `onward` while it does not have the claim, `works` while it
has. -/
inductive ShimMove (sight : Sight) : ShimPhase → Outcome → Option ShimPhase → FileOp → Prop
  | connects {phase : ShimPhase} {outcome : Outcome} (answers : sight.answers = true)
      (free : (Process.shim phase).holds = false) : ShimMove sight phase outcome none .nothing
  | fails {phase : ShimPhase} {outcome : Outcome} (failed : phase.calm outcome = false)
      (free : (Process.shim phase).holds = false) : ShimMove sight phase outcome none .nothing
  | onward {phase later : ShimPhase} {outcome : Outcome} {op : FileOp}
      (nearer : later.remaining < phase.remaining) (free : (Process.shim phase).holds = false)
      (still : (Process.shim later).holds = false) (light : op = .nothing ∨ op = .removePid) :
      ShimMove sight phase outcome (some later) op
  | claims {withPid : Bool} (free : sight.free = true) :
      ShimMove sight (.clearing withPid) .yes (some (.holding withPid)) .claim
  | meets {withPid : Bool} (answers : sight.answers = true) :
      ShimMove sight (.holding withPid) .yes (some (.releasing true)) .nothing
  | works {phase later : ShimPhase} {outcome : Outcome} {op : FileOp}
      (nearer : later.remaining < phase.remaining) (still : (Process.shim later).holds = true)
      (staying : (Process.shim later).leaving = false)
      (light : op = .nothing ∨ op = .removePid ∨ op = .removeSocket) :
      ShimMove sight phase outcome (some later) op
  | releases {connected : Bool} {outcome : Outcome} : ShimMove sight (.releasing connected) outcome
      (if connected then none else some .spawning) .release
  | spawns {outcome : Outcome} (publishes : Bool) :
      ShimMove sight .spawning outcome none (.spawn publishes)

section Act

variable {sight : Sight} {process next : Process} {outcome : Outcome} {op : FileOp}

theorem daemon_move {publishes : Bool} {phase : DaemonPhase} {later : Option DaemonPhase}
    (moved : phase.act publishes sight outcome = some (later,op)) :
    DaemonMove publishes sight phase outcome later op := by
  cases phase with
  | starting =>
    cases outcome with
    | yes =>
      simp only [DaemonPhase.act] at moved
      split at moved
      · rename_i free
        cases moved
        exact .claims free
      · rename_i taken
        cases moved
        exact .refused (by simpa using taken)
    | _ =>
      cases moved
      exact .unanswered rfl
  | claimed =>
    simp only [DaemonPhase.act] at moved
    split at moved
    · rename_i absent
      cases moved
      exact .finds (by simpa using absent)
    · cases outcome with
      | yes =>
        simp only at moved
        split at moved <;> cases moved
        exact .meets (by assumption)
      | no =>
        cases moved
        exact .condemns
      | unknown =>
        cases moved
        exact .leaves (by decide) rfl rfl (by decide)
  | cleared =>
    cases outcome with
    | yes =>
      simp only [DaemonPhase.act] at moved
      split at moved <;> cases moved
      exact .binds
    | _ =>
      cases moved
      exact .leaves (by decide) rfl rfl (by decide)
  | cleaned =>
    cases outcome <;> cases publishes <;> cases moved <;> exact .leaves (by decide) rfl rfl (by decide)
  | closing => cases outcome <;> cases moved <;> exact .releases
  | condemned | bound | listening | serving | cleaning =>
    cases outcome <;> cases moved <;>
      first
        | exact .clears
        | exact .listens
        | exact .serves
        | exact .leaves (by decide) rfl rfl (by decide)

theorem shim_move {phase : ShimPhase} {later : Option ShimPhase}
    (moved : phase.act sight outcome = some (later,op)) : ShimMove sight phase outcome later op := by
  have met (connected : (if sight.answers then some (none,.nothing) else none) = some (later,op))
      (free : (Process.shim phase).holds = false) : ShimMove sight phase outcome later op := by
    split at connected <;> cases connected
    exact .connects (by assumption) free
  have light : FileOp.nothing = .nothing ∨ FileOp.nothing = .removePid := .inl rfl
  cases phase with
  | arriving =>
    cases outcome with
    | yes => exact met moved rfl
    | no =>
      cases moved
      exact .onward (by decide) rfl rfl light
    | unknown =>
      cases moved
      exact .fails rfl rfl
  | looking =>
    cases moved
    cases sight.present <;> exact .onward (by decide) rfl rfl light
  | socketThere | noSocket =>
    cases outcome <;> simp only [ShimPhase.act] at moved <;>
      first
        | (split at moved <;> cases moved; exact .onward (by decide) rfl rfl light)
        | (cases moved; exact .onward (by decide) rfl rfl light)
  | grace socket =>
    cases outcome with
    | yes => exact met moved rfl
    | _ =>
      cases moved
      cases socket <;> exact .onward (by simp) rfl rfl light
  | clearing withPid =>
    cases outcome with
    | yes =>
      simp only [ShimPhase.act] at moved
      split at moved <;> cases moved
      exact .claims (by assumption)
    | no =>
      cases moved
      exact .onward (by simp) rfl rfl light
    | unknown => exact met moved rfl
  | holding withPid =>
    cases outcome with
    | yes =>
      simp only [ShimPhase.act] at moved
      split at moved <;> cases moved
      exact .meets (by assumption)
    | _ =>
      cases moved
      exact .works (by simp) rfl rfl (.inl rfl)
  | condemned withPid =>
    cases outcome <;> cases moved <;> exact .works (by simp) rfl rfl (by simp)
  | unlinked withPid =>
    cases withPid <;> cases outcome <;> cases moved <;> exact .works (by simp) rfl rfl (by simp)
  | releasing connected =>
    cases connected <;> cases outcome <;> cases moved <;> exact .releases
  | removing =>
    cases outcome <;> cases moved <;> exact .onward (by decide) rfl rfl (by simp)
  | spawning =>
    cases outcome with
    | no =>
      cases moved
      exact .fails rfl rfl
    | _ =>
      cases moved
      exact .spawns _

/-- The step of a process is one of its daemon or of its shim. -/
theorem act_moves (acted : process.act sight outcome = some (next,op)) :
    (∃ publishes phase later, process = .daemon publishes phase ∧
      next = later.elim .ended (.daemon publishes) ∧
      DaemonMove publishes sight phase outcome later op) ∨
    ∃ phase later, process = .shim phase ∧ next = later.elim .ended .shim ∧
      ShimMove sight phase outcome later op := by
  cases process with
  | daemon publishes phase =>
    obtain ⟨⟨later,done⟩,moved,same⟩ := Option.map_eq_some_iff.mp acted
    cases same
    exact .inl ⟨publishes,phase,later,rfl,rfl,daemon_move moved⟩
  | shim phase =>
    obtain ⟨⟨later,done⟩,moved,same⟩ := Option.map_eq_some_iff.mp acted
    cases same
    exact .inr ⟨phase,later,rfl,rfl,shim_move moved⟩
  | ended => cases acted

theorem ShimPhase.remaining_pos (phase : ShimPhase) : 0 < phase.remaining := by
  cases phase <;> simp

theorem Process.holds_of_leaving {process : Process} (gone : process.leaving = true) :
    process.holds = true := by
  cases process with
  | daemon publishes phase => cases phase <;> first | rfl | cases gone
  | shim phase => cases phase <;> first | rfl | cases gone
  | ended => cases gone

/-- The claim is not forgotten. -/
theorem act_keeps (acted : process.act sight outcome = some (next,op)) :
    (op = .claim → next.holds = true) ∧
      (process.holds = true → op ≠ .release → next.holds = true) := by
  rcases act_moves acted with ⟨publishes,phase,later,rfl,rfl,move⟩ | ⟨phase,later,rfl,rfl,move⟩
  · cases move with
    | claims => exact ⟨fun _ => rfl,nofun⟩
    | refused | unanswered => exact ⟨nofun,nofun⟩
    | serves => exact ⟨fun _ => rfl,fun _ _ => rfl⟩
    | leaves begun failed gone unclaimed =>
      exact ⟨fun same => (unclaimed same).elim,fun _ _ => Process.holds_of_leaving gone⟩
    | releases => exact ⟨nofun,fun _ kept => (kept rfl).elim⟩
    | finds | meets | condemns | clears | binds | listens => exact ⟨nofun,fun _ _ => rfl⟩
  · cases move with
    | connects answers free | fails failed free =>
      exact ⟨nofun,fun holds => by rw [free] at holds; cases holds⟩
    | onward nearer free still light =>
      refine ⟨?_,fun holds => by rw [free] at holds; cases holds⟩
      rintro rfl
      simp at light
    | claims => exact ⟨fun _ => rfl,nofun⟩
    | meets => exact ⟨nofun,fun _ _ => rfl⟩
    | works nearer still => exact ⟨fun _ => still,fun _ _ => still⟩
    | releases => exact ⟨nofun,fun _ kept => (kept rfl).elim⟩
    | spawns => exact ⟨nofun,nofun⟩

/-- Where no call fails, each step brings the process nearer to its end or to serving. -/
theorem act_nearer (acted : process.act sight outcome = some (next,op))
    (calm : process.calm outcome = true) :
    next.remaining + op.remaining + 1 ≤ process.remaining := by
  rcases act_moves acted with ⟨publishes,phase,later,rfl,rfl,move⟩ | ⟨phase,later,rfl,rfl,move⟩
  · cases move with
    | unanswered failed | leaves begun failed =>
      rw [Process.calm,failed] at calm
      cases calm
    | releases => cases calm
    | serves => cases publishes <;> simp
    | claims | refused | finds | meets | condemns | clears | binds | listens => simp
  · cases move with
    | connects | fails => exact phase.remaining_pos
    | onward nearer free still light => rcases light with rfl | rfl <;> exact nearer
    | works nearer still staying light => rcases light with rfl | rfl | rfl <;> exact nearer
    | @releases connected => cases connected <;> simp
    | claims | meets | spawns => simp

/-- A daemon that takes the path for cleared, bound or served is right, as far as it goes by
its own steps. -/
theorem act_sees {world : SocketWorld} {index : Nat}
    (present : sight.present = world.files.socket.isSome)
    (sees : process.Sees index world.files.socket)
    (acted : process.act sight outcome = some (next,op)) (later : Process) :
    next.Sees index ((world.setProcess index later).perform index op).files.socket := by
  rcases act_moves acted with ⟨publishes,phase,after,rfl,rfl,move⟩ | ⟨phase,after,rfl,rfl,move⟩
  · cases move with
    | finds absent => exact (by simpa [present] using absent : world.files.socket = none)
    | clears | binds => rfl
    | serves => cases publishes <;> exact sees
    | listens => exact sees
    | @leaves _ after _ _ _ _ gone => cases after <;> trivial
    | claims | refused | unanswered | meets | condemns | releases => trivial
  · cases after <;> trivial

/-- Where no call fails, nobody who holds the claim finds another that answers, and so no
daemon gives up once it has the claim, and no shim that has it is connected. -/
theorem act_stays (acted : process.act sight outcome = some (next,op))
    (calm : process.calm outcome = true) (staying : process.leaving = false)
    (alone : sight.answers = true → process.holds = true → process.listens = true) :
    next.leaving = false := by
  rcases act_moves acted with ⟨publishes,phase,later,rfl,rfl,move⟩ | ⟨phase,later,rfl,rfl,move⟩
  · cases move with
    | meets answers => exact absurd (alone answers rfl) nofun
    | leaves begun failed =>
      rw [Process.calm,failed] at calm
      cases calm
    | claims | refused | unanswered | finds | condemns | clears | binds | listens | serves
    | releases => rfl
  · cases move with
    | @onward _ later _ _ _ _ still =>
      cases gone : (Process.shim later).leaving with
      | false => exact gone
      | true => exact absurd (Process.holds_of_leaving gone) (by simp [still])
    | meets answers => exact absurd (alone answers rfl) nofun
    | works nearer still stays => exact stays
    | releases =>
      cases staying
      rfl
    | connects | fails | claims | spawns => rfl

/-- Who ends has started a daemon, or was turned away by somebody who answers or holds the
claim. -/
theorem act_ends (acted : process.act sight outcome = some (.ended,op))
    (calm : process.calm outcome = true) (staying : process.leaving = false) :
    (∃ publishes, op = .spawn publishes) ∨
      process.holds = false ∧ op = .nothing ∧ (sight.answers = true ∨ sight.free = false) := by
  rcases act_moves acted with ⟨publishes,phase,later,rfl,gone,move⟩ | ⟨phase,later,rfl,gone,move⟩
  · cases move with
    | refused taken => exact .inr ⟨rfl,rfl,.inr taken⟩
    | unanswered failed =>
      rw [Process.calm,failed] at calm
      cases calm
    | releases => cases calm
    | claims | finds | meets | condemns | clears | binds | listens | serves | leaves => cases gone
  · cases move with
    | connects answers free => exact .inr ⟨free,rfl,.inl answers⟩
    | fails failed =>
      rw [Process.calm,failed] at calm
      cases calm
    | releases =>
      cases staying
      cases gone
    | spawns publishes => exact .inl ⟨publishes,rfl⟩
    | onward | claims | meets | works => cases gone

/-- Nobody is stuck before it has ended or serves. -/
theorem act_enabled {index : Nat} {socket : Option (Option Nat)} (sight : Sight)
    (present : sight.present = socket.isSome) (sees : process.Sees index socket)
    (staying : process.leaving = false) (busy : process.resting = false) :
    ∃ outcome, process.calm outcome = true ∧ (process.act sight outcome).isSome = true := by
  cases process with
  | daemon publishes phase =>
    cases phase with
    | starting =>
      refine ⟨.yes,rfl,?_⟩
      cases free : sight.free <;> simp [Process.act,DaemonPhase.act,free]
    | claimed =>
      refine ⟨.no,rfl,?_⟩
      cases there : sight.present <;> simp [Process.act,DaemonPhase.act,there]
    | cleared =>
      have absent : sight.present = false := by
        rw [present,show socket = none from sees]
        rfl
      exact ⟨.yes,rfl,by simp [Process.act,DaemonPhase.act,absent]⟩
    | condemned | bound | listening => exact ⟨.yes,rfl,rfl⟩
    | serving => cases busy
    | cleaning | cleaned | closing => cases staying
  | shim phase =>
    cases phase with
    | arriving | grace | clearing | holding => exact ⟨.no,rfl,rfl⟩
    | socketThere | noSocket => exact ⟨.unknown,rfl,rfl⟩
    | unlinked withPid => cases withPid <;> exact ⟨.yes,rfl,rfl⟩
    | releasing connected =>
      cases staying
      exact ⟨.yes,rfl,rfl⟩
    | looking | condemned | removing | spawning => exact ⟨.yes,rfl,rfl⟩
  | ended => cases busy

end Act

/-- The process that is started. -/
def FileOp.spawned : FileOp → List Process
  | .spawn publishes => [.daemon publishes .starting]
  | _ => []

namespace SocketWorld

variable {world next final : SocketWorld} {label : SocketLabel}

/-! ## Every reachable state -/

theorem perform_processes (world : SocketWorld) (index : Nat) (op : FileOp) :
    (world.perform index op).processes = world.processes ++ op.spawned := by
  cases op <;> simp [perform,FileOp.spawned]

theorem acted_other {index other : Nat} {standing : Process} (later : Process) (op : FileOp)
    (apart : other ≠ index) (known : world.processes[other]? = some standing) :
    ((world.setProcess index later).perform index op).processes[other]? = some standing := by
  have inside := (List.getElem?_eq_some_iff.mp known).1
  rw [perform_processes,List.getElem?_append_left (by simpa [setProcess] using inside)]
  rw [setProcess,List.getElem?_set_ne (Ne.symm apart),known]

theorem crash_claim (world : SocketWorld) (index : Nat) :
    (world.crash index).files.claim =
      if world.files.claim = some index then none else world.files.claim := by
  simp only [SocketWorld.crash,setProcess]
  split <;> rfl

/-- Who has the claim, knows. -/
def Held (world : SocketWorld) : Prop :=
  ∀ index, world.files.claim = some index →
    ∃ process, world.processes[index]? = some process ∧ process.holds = true

/-- Every daemon that has cleared the path is right about the socket file. -/
def Seen (world : SocketWorld) : Prop :=
  ∀ (index : Nat) process, world.processes[index]? = some process →
    process.Sees index world.files.socket

theorem Held.act (held : Held world) {index : Nat} {outcome : Outcome}
    {process later : Process} {op : FileOp} (known : world.processes[index]? = some process)
    (moved : process.act world.sight outcome = some (later,op)) :
    Held ((world.setProcess index later).perform index op) := by
  obtain ⟨takes,keeps⟩ := act_keeps moved
  intro other mine
  rw [perform_claim] at mine
  have kept (unreleased : op ≠ .release) (before : world.files.claim = some other) :
      ∃ process, ((world.setProcess index later).perform index op).processes[other]? =
        some process ∧ process.holds = true := by
    obtain ⟨standing,found,holds⟩ := held other before
    by_cases same : other = index
    · subst same
      rw [known,Option.some.injEq] at found
      subst found
      exact ⟨later,acted_self known,keeps holds unreleased⟩
    · exact ⟨standing,acted_other later op same found,holds⟩
  cases op with
  | claim =>
    cases mine
    exact ⟨later,acted_self known,takes rfl⟩
  | release => cases mine
  | _ => exact kept nofun mine

theorem Held.crash (held : Held world) (index : Nat) : Held (world.crash index) := by
  intro other mine
  rw [crash_claim] at mine
  split at mine
  · cases mine
  · rename_i apart
    obtain ⟨standing,found,holds⟩ := held other mine
    have processes : (world.crash index).processes = world.processes.set index .ended := by
      simp only [SocketWorld.crash,setProcess]
      split <;> rfl
    refine ⟨standing,?_,holds⟩
    rw [processes,List.getElem?_set_ne,found]
    rintro rfl
    exact apart mine

theorem Held.started (held : Held world) (newcomer : Process) :
    Held { world with processes := world.processes ++ [newcomer] } := by
  intro other mine
  obtain ⟨standing,found,holds⟩ := held other mine
  refine ⟨standing,?_,holds⟩
  rw [List.getElem?_append_left (List.getElem?_eq_some_iff.mp found).1,found]

theorem Seen.act (seen : Seen world) (claimed : Claimed world) {index : Nat} {outcome : Outcome}
    {process later : Process} {op : FileOp} (known : world.processes[index]? = some process)
    (moved : process.act world.sight outcome = some (later,op)) :
    Seen ((world.setProcess index later).perform index op) := by
  intro other standing found
  rcases acted_processes found with ⟨rfl,rfl⟩ | ⟨apart,before⟩ | ⟨publishes,_,_,rfl⟩
  · exact act_sees rfl (seen other process known) moved _
  · -- only the holder of the claim touches the file, and `other` sees it while it holds
    have sees := seen other standing before
    cases holds : standing.holds with
    | false => exact Process.sees_of_free holds other _
    | true =>
      have mine := claimed other standing before holds
      have untouched (held : process.holds = true) : False := by
        have yours := claimed index process known held
        rw [mine] at yours
        exact apart (Option.some.inj yours)
      rw [perform_socket]
      have lawful := act_lawful moved
      cases op with
      | bind | removeSocket => exact (untouched lawful).elim
      | _ => exact sees
  · trivial

theorem Seen.crash (seen : Seen world) (index : Nat) : Seen (world.crash index) := by
  intro other standing found
  rw [(crash_files world index).1]
  rcases crash_processes found with ⟨_,rfl⟩ | ⟨_,before⟩
  · trivial
  · exact seen other standing before

theorem Seen.started (seen : Seen world) {newcomer : Process} (free : newcomer.holds = false) :
    Seen { world with processes := world.processes ++ [newcomer] } := by
  intro other standing found
  rcases started_processes found with before | ⟨_,rfl⟩
  · exact seen other standing before
  · exact Process.sees_of_free free other _

/-- What holds in every state, whatever crashes and fails. -/
structure Sound (world : SocketWorld) : Prop where
  claimed : Claimed world
  held : Held world
  seen : Seen world

theorem step_sound (world : SocketWorld) (label : SocketLabel) (next : SocketWorld)
    (sound : Sound world) (taken : world.step label = some next) : Sound next := by
  refine ⟨step_claimed world label next sound.claimed taken,?_,?_⟩
  · cases step_taken taken with
    | daemon | shim => exact sound.held.started _
    | acted known moved => exact sound.held.act known moved
    | crashed known => exact sound.held.crash _
  · cases step_taken taken with
    | daemon | shim => exact sound.seen.started rfl
    | acted known moved => exact sound.seen.act sound.claimed known moved
    | crashed known => exact sound.seen.crash _

theorem start_sound (socket pidFile : Bool) : Sound (start socket pidFile) := by
  refine ⟨start_claimed socket pidFile,nofun,?_⟩
  intro index process found
  simp [start] at found

/-! ## Recovery -/

/-- Processes come and act, none dies, and no call fails. -/
def recovering (world : SocketWorld) (label : SocketLabel) : Option SocketWorld :=
  match label with
  | .startDaemon _ | .startShim => world.step label
  | .act index outcome =>
    if world.processes[index]?.any (·.calm outcome) then world.step label else none
  | .crash _ => none

def acts : SocketLabel → Bool
  | .act _ _ => true
  | _ => false

/-- The steps of a process that comes. -/
def newcomer : SocketLabel → Nat
  | .startDaemon _ => DaemonPhase.starting.remaining
  | .startShim => ShimPhase.arriving.remaining
  | _ => 0

def remaining (world : SocketWorld) : Nat := (world.processes.map Process.remaining).sum

def Alive (world : SocketWorld) : Prop :=
  ∃ (index : Nat) (process : Process), world.processes[index]? = some process ∧ process ≠ .ended

def Staying (world : SocketWorld) : Prop :=
  ∀ (index : Nat) process, world.processes[index]? = some process → process.leaving = false

inductive Recovered (world : SocketWorld) : SocketLabel → SocketWorld → Prop
  | daemon (publishes : Bool) : Recovered world (.startDaemon publishes)
      { world with processes := world.processes ++ [.daemon publishes .starting] }
  | shim : Recovered world .startShim
      { world with processes := world.processes ++ [.shim .arriving] }
  | acted {index : Nat} {outcome : Outcome} {process later : Process} {op : FileOp}
      (known : world.processes[index]? = some process) (calm : process.calm outcome = true)
      (moved : process.act world.sight outcome = some (later,op)) :
      Recovered world (.act index outcome) ((world.setProcess index later).perform index op)

theorem recovering_step (taken : recovering world label = some next) :
    world.step label = some next := by
  cases label with
  | startDaemon publishes => exact taken
  | startShim => exact taken
  | act index outcome =>
    simp only [recovering] at taken
    split at taken
    · exact taken
    · cases taken
  | crash index => cases taken

theorem recovering_recovered (taken : recovering world label = some next) :
    Recovered world label next := by
  cases step_taken (recovering_step taken) with
  | daemon publishes => exact .daemon publishes
  | shim => exact .shim
  | acted known moved =>
    refine .acted known ?_ moved
    simp only [recovering,known,Option.any_some] at taken
    split at taken
    · assumption
    · cases taken
  | crashed => cases taken

theorem recovering_nearer (world : SocketWorld) (label : SocketLabel) (next : SocketWorld)
    (taken : recovering world label = some next) :
    next.remaining + (acts label).toNat ≤ world.remaining + newcomer label := by
  cases recovering_recovered taken with
  | daemon | shim => simp [remaining,acts,newcomer]
  | @acted index outcome process later op known calm moved =>
    have nearer := act_nearer moved calm
    have sum := Runs.sum_set Process.remaining later known
    have spawned : (op.spawned.map Process.remaining).sum = op.remaining := by
      cases op <;> simp [FileOp.spawned]
    simp only [remaining,perform_processes,List.map_append,List.sum_append,spawned,setProcess,
      acts,newcomer,Bool.toNat_true]
    omega

/-- A path that answers has a daemon that listens. -/
theorem listener_of_answers (answers : world.answers = true) :
    ∃ (maker : Nat) (process : Process), world.processes[maker]? = some process ∧
      process.listens = true := by
  simp only [SocketWorld.answers] at answers
  split at answers
  · rename_i maker _
    split at answers
    · rename_i publishes phase found
      exact ⟨maker,_,found,answers⟩
    · cases answers
  · cases answers

theorem Claimed.listens (claimed : Claimed world) {index : Nat} {process : Process}
    (known : world.processes[index]? = some process) (answers : world.answers = true)
    (holds : process.holds = true) : process.listens = true := by
  obtain ⟨maker,listener,found,listens⟩ := listener_of_answers answers
  have theirs := claimed maker listener found (Process.holds_of_listens listens)
  rw [claimed index process known holds,Option.some.injEq] at theirs
  subst theirs
  rw [known,Option.some.injEq] at found
  exact found ▸ listens

theorem Staying.step (staying : Staying world) (claimed : Claimed world)
    (taken : recovering world label = some next) : Staying next := by
  intro other standing found
  cases recovering_recovered taken with
  | daemon | shim =>
    rcases started_processes found with before | ⟨_,rfl⟩
    · exact staying other standing before
    · rfl
  | @acted index outcome process later op known calm moved =>
    rcases acted_processes found with ⟨rfl,rfl⟩ | ⟨_,before⟩ | ⟨publishes,_,_,rfl⟩
    · exact act_stays moved calm (staying other process known)
        (fun answers holds => claimed.listens known answers holds)
    · exact staying other standing before
    · rfl

/-- After every step somebody is there: whoever ends leaves the daemon it started, or whoever
turned it away. -/
theorem recovering_alive (sound : Sound world) (staying : Staying world)
    (taken : recovering world label = some next) : Alive next := by
  cases recovering_recovered taken with
  | daemon | shim => exact ⟨world.processes.length,_,List.getElem?_concat_length,nofun⟩
  | @acted index outcome process later op known calm moved =>
    by_cases gone : later = .ended
    · subst gone
      rcases act_ends moved calm (staying index process known) with ⟨publishes,rfl⟩ | met
      · refine ⟨world.processes.length,.daemon publishes .starting,?_,nofun⟩
        simp [perform_processes,setProcess,FileOp.spawned]
      · obtain ⟨free,rfl,met⟩ := met
        -- whoever turned it away holds the claim, which it does not
        have other {standing : Process} {place : Nat}
            (found : world.processes[place]? = some standing) (holds : standing.holds = true) :
            Alive ((world.setProcess index .ended).perform index .nothing) := by
          refine ⟨place,standing,acted_other .ended .nothing ?_ found,?_⟩
          · rintro rfl
            rw [known,Option.some.injEq] at found
            rw [found,holds] at free
            cases free
          · rintro rfl
            cases holds
        rcases met with answers | unfree
        · obtain ⟨maker,listener,found,listens⟩ := listener_of_answers answers
          exact other found (Process.holds_of_listens listens)
        · obtain ⟨holder,mine⟩ : ∃ holder, world.files.claim = some holder := by
            cases claim : world.files.claim with
            | none => simp [sight,claim] at unfree
            | some holder => exact ⟨holder,rfl⟩
          obtain ⟨standing,found,holds⟩ := sound.held holder mine
          exact other found holds
    · exact ⟨index,later,acted_self known,gone⟩

/-- What is kept while processes recover. -/
structure Recovers (world : SocketWorld) : Prop where
  sound : Sound world
  staying : Staying world

theorem recovering_recovers (world : SocketWorld) (label : SocketLabel) (next : SocketWorld)
    (recovers : Recovers world) (taken : recovering world label = some next) : Recovers next :=
  ⟨step_sound world label next recovers.sound (recovering_step taken),
    recovers.staying.step recovers.sound.claimed taken⟩

theorem run_alive {labels : List SocketLabel} (recovers : Recovers world)
    (run : Runs.execute recovering world labels = some final) (some_ : Alive world ∨ labels ≠ []) :
    Alive final := by
  induction labels generalizing world with
  | nil =>
    cases run
    exact some_.resolve_right fun moved => moved rfl
  | cons label rest ih =>
    rw [Runs.execute_cons,Option.bind_eq_some_iff] at run
    obtain ⟨next,taken,later⟩ := run
    exact ih (recovering_recovers world label next recovers taken) later
      (.inl (recovering_alive recovers.sound recovers.staying taken))

/-- One daemon serves at the path, and nobody else is there. -/
def Served (world : SocketWorld) : Prop :=
  world.answers = true ∧ ∃ (index : Nat) (publishes : Bool),
    world.processes[index]? = some (.daemon publishes .serving) ∧
      ∀ (other : Nat) process, world.processes[other]? = some process → process ≠ .ended →
        other = index

theorem Recovers.served (recovers : Recovers world) (alive : Alive world)
    (resting : ∀ (index : Nat) process, world.processes[index]? = some process →
      process.resting = true) : Served world := by
  have serving {index : Nat} {process : Process} (found : world.processes[index]? = some process)
      (alive : process ≠ .ended) : ∃ publishes, process = .daemon publishes .serving := by
    have rests := resting index process found
    cases process with
    | daemon publishes phase =>
      cases phase with
      | serving => exact ⟨publishes,rfl⟩
      | _ => cases rests
    | shim => cases rests
    | ended => exact (alive rfl).elim
  obtain ⟨index,process,found,alive⟩ := alive
  obtain ⟨publishes,rfl⟩ := serving found alive
  have mine := recovers.sound.claimed index _ found rfl
  refine ⟨?_,index,publishes,found,?_⟩
  · have sees : world.files.socket = some (some index) := recovers.sound.seen index _ found
    simp [SocketWorld.answers,sees,found,DaemonPhase.listens]
  · intro other process there living
    obtain ⟨_,rfl⟩ := serving there living
    have theirs := recovers.sound.claimed other _ there rfl
    rw [mine,Option.some.injEq] at theirs
    exact theirs.symm

/-- Let anything have happened at the path, crashes and failures at any point, as long as
nobody is on its way out. If from then on no call fails and no process dies or goes idle, then
however many shims and daemons come and however their steps interleave, they take a bounded
number of steps, and when there is none left to take and anybody was there or came, one daemon
serves, it is the one that the path leads to, and everybody else is done. -/
theorem path_recovers (socket pidFile : Bool) {history labels : List SocketLabel}
    (run : Runs.execute step (start socket pidFile) history = some world)
    (staying : Staying world) (calm : Runs.execute recovering world labels = some final) :
    labels.countP acts ≤ world.remaining + (labels.map newcomer).sum ∧
      ((∃ index outcome next, recovering final (.act index outcome) = some next) ∨
        (Alive world ∨ labels ≠ [] → Served final)) := by
  have recovers : Recovers world := ⟨Runs.invariant step_sound run (start_sound socket pidFile),staying⟩
  have still : Recovers final := Runs.invariant recovering_recovers calm recovers
  constructor
  · have charged := Runs.charged_le recovering_nearer calm
    omega
  · by_cases resting : ∀ (index : Nat) process, final.processes[index]? = some process →
      process.resting = true
    · exact .inr fun some_ => still.served (run_alive recovers calm some_) resting
    · push Not at resting
      obtain ⟨index,process,found,busy⟩ := resting
      obtain ⟨outcome,ready,acted⟩ := @act_enabled process index final.files.socket final.sight rfl
        (still.sound.seen index process found) (still.staying index process found)
        (by simpa using busy)
      obtain ⟨⟨later,op⟩,moved⟩ := Option.isSome_iff_exists.mp acted
      refine .inl ⟨index,outcome,(final.setProcess index later).perform index op,?_⟩
      simp [recovering,step,found,ready,moved]

/-- A daemon dies between binding the path and listening at it, and a shim that means to clear
the path dies with the claim. -/
def twoCrashes : List SocketLabel :=
  [.startDaemon true,.act 0 .yes,.act 0 .yes,.act 0 .yes,.crash 0,.startShim,.act 1 .no,.act 1 .yes,
    .act 1 .unknown,.act 1 .yes,.crash 1]

/-- Two shims come; the daemon of the one that finds the other clearing the path is refused. -/
def twoShims : List SocketLabel :=
  [.startShim,.startShim,.act 2 .no,.act 3 .no,.act 2 .yes,.act 3 .yes,.act 2 .unknown,
    .act 3 .unknown,.act 2 .yes,.act 3 .no,.act 3 .yes,.act 4 .yes,.act 2 .no,.act 2 .yes,
    .act 2 .yes,.act 2 .yes,.act 2 .yes,.act 5 .yes,.act 5 .yes,.act 5 .yes,.act 5 .yes,.act 5 .yes]

theorem path_recovers_shims :
    ∃ world final, Runs.execute step (start false false) twoCrashes = some world ∧
      world.files = ⟨none,some (some 0),none⟩ ∧
      Runs.execute recovering world twoShims = some final ∧
      final.files = ⟨some 5,some (some 5),some (some 5)⟩ ∧
      ((∃ index outcome next, recovering final (.act index outcome) = some next) ∨
        (Alive world ∨ twoShims ≠ [] → Served final)) := by
  refine ⟨_,_,rfl,rfl,rfl,rfl,?_⟩
  refine (@path_recovers _ _ false false twoCrashes twoShims rfl ?_ rfl).2
  intro index process found
  match index with
  | 0 | 1 =>
    cases found
    rfl
  | _ + 2 => cases found

end SocketWorld

end SmlMcps
