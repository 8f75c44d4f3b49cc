import Mathlib.Logic.Function.Basic
import SmlMcps.SocketOwnership

/-! The PID file. A daemon publishes it under its claim, and a shim that found a socket
file removes it under the claim too. A shim that found none removes it without: what a
daemon publishes between the look and the removal goes with it. -/
namespace SmlMcps

/-- A live daemon that has bound the socket and not begun its cleanup. -/
def Process.attached : Process → Bool
  | .daemon _ .bound | .daemon _ .listening | .daemon _ .serving => true
  | _ => false

/-- A daemon in this phase, or one that ended, may have published its PID. -/
def Process.published : Process → Bool
  | .daemon true .serving | .daemon true .cleaning | .daemon true .cleaned
  | .daemon true .closing | .ended => true
  | _ => false

/-- A shim that found no socket file, up to the removal of the PID file. -/
def Process.sawNoSocket : Process → Bool
  | .shim .noSocket | .shim (.grace false) | .shim .removing => true
  | _ => false

theorem Process.bound_of_attached {process : Process} (attached : process.attached = true) :
    process.bound = true := by
  cases process with
  | daemon publishes phase => cases phase <;> first | rfl | cases attached
  | _ => cases attached

namespace SocketWorld

/-- The daemons that published their PID, in order, and how many had when each shim
found no socket file. -/
structure Publications where
  published : List Nat
  since : Nat → Nat

def Publications.none : Publications := ⟨[],fun _ => 0⟩

/-- The process has just gone from one phase to the other. -/
def moved (before after : SocketWorld) (index : Nat) (earlier later : Process) : Bool :=
  before.processes[index]? == some earlier && after.processes[index]? == some later

def Publications.record (before : SocketWorld) (label : SocketLabel) (after : SocketWorld)
    (history : Publications) : Publications :=
  match label with
  | .act index _ =>
    if moved before after index (.daemon true .listening) (.daemon true .serving) then
      { history with published := history.published ++ [index] }
    else if moved before after index (.shim .looking) (.shim .noSocket) then
      { history with since := Function.update history.since index history.published.length }
    else history
  | _ => history

/-- The step keeps the PID file of every live daemon that is bound and not in its own
cleanup, unless it is that daemon's. -/
def KeepsPid (world : SocketWorld) (label : SocketLabel) (next : SocketWorld) : Prop :=
  ∀ (daemon : Nat) process, world.files.pidFile = some (some daemon) →
    world.processes[daemon]? = some process → process.attached = true →
    next.files.pidFile = some (some daemon) ∨ ∃ outcome, label = .act daemon outcome

/-- When a shim that found no socket file removes the PID file, no daemon that has
published its PID since is still serving. -/
def Undisturbed (state : SocketWorld × Publications) (label : SocketLabel) : Prop :=
  ∀ shim, label = .act shim .yes → state.1.processes[shim]? = some (.shim .removing) →
    ∀ daemon ∈ state.2.published.drop (state.2.since shim),
      state.1.processes[daemon]? ≠ some (.daemon true .serving)

/-! ## What one process may do -/

/-- The order in which a process goes about it, as far as the two files tell. -/
structure Orderly (sight : Sight) (outcome : Outcome) (process : Process) (op : FileOp)
    (next : Process) : Prop where
  attaches : next.attached = true → process.attached = true ∨ op = .bind
  detaches : op = .removeSocket → next.attached = false
  serves : next = .daemon true .serving → process = .daemon true .listening ∧ op = .publish
  publishes : op = .publish → process = .daemon true .listening ∧ next = .daemon true .serving
  published : process.published = true → next.published = true
  sees : next.sawNoSocket = true → process.sawNoSocket = true ∨
    process = .shim .looking ∧ next = .shim .noSocket ∧ sight.present = false
  removes : process = .shim .removing → op = .removePid → outcome = .yes

/-- A step that binds nothing, publishes nothing and ends no service. -/
def calm (process : Process) (op : FileOp) (next : Process) : Bool :=
  (!next.attached || process.attached) && next != .daemon true .serving &&
    (!process.published || next.published) && (!next.sawNoSocket || process.sawNoSocket) &&
    process != .shim .removing && op != .publish && (op != .removeSocket || !next.attached)

theorem Orderly.plain {sight : Sight} {outcome : Outcome} {process next : Process} {op : FileOp}
    (settled : calm process op next = true) : Orderly sight outcome process op next := by
  simp only [calm,Bool.and_eq_true,Bool.or_eq_true,Bool.not_eq_true',bne_iff_ne] at settled
  obtain ⟨⟨⟨⟨⟨⟨attached,unserving⟩,published⟩,sees⟩,unremoving⟩,unpublishing⟩,socket⟩ := settled
  constructor
  · intro now
    exact .inl (attached.resolve_left (by simp [now]))
  · intro same
    exact socket.resolve_left (by simp [same])
  · exact fun same => (unserving same).elim
  · exact fun same => (unpublishing same).elim
  · intro before
    exact published.resolve_left (by simp [before])
  · intro now
    exact .inl (sees.resolve_left (by simp [now]))
  · exact fun same => (unremoving same).elim

theorem bind_orderly (sight : Sight) (outcome : Outcome) (publishes : Bool) :
    Orderly sight outcome (.daemon publishes .cleared) .bind (.daemon publishes .bound) where
  attaches _ := .inr rfl
  detaches same := by cases same
  serves same := by cases same
  publishes same := by cases same
  published before := by simp [Process.published] at before
  sees now := by cases now
  removes same := by cases same

theorem publish_orderly (sight : Sight) (outcome : Outcome) :
    Orderly sight outcome (.daemon true .listening) .publish (.daemon true .serving) where
  attaches _ := .inl rfl
  detaches same := by cases same
  serves _ := ⟨rfl,rfl⟩
  publishes _ := ⟨rfl,rfl⟩
  published before := by cases before
  sees now := by cases now
  removes same := by cases same

theorem daemon_orderly {sight : Sight} {publishes : Bool} {phase : DaemonPhase} {outcome : Outcome}
    {next : Option DaemonPhase} {op : FileOp}
    (acted : phase.act publishes sight outcome = some (next,op)) :
    Orderly sight outcome (.daemon publishes phase) op (next.elim .ended (.daemon publishes)) := by
  cases phase with
  | starting =>
    cases outcome with
    | yes =>
      simp only [DaemonPhase.act] at acted
      split at acted <;> cases acted <;> cases publishes <;> exact .plain rfl
    | _ => cases acted; cases publishes <;> exact .plain rfl
  | claimed =>
    simp only [DaemonPhase.act] at acted
    split at acted
    · cases acted
      cases publishes <;> exact .plain rfl
    · cases outcome with
      | yes =>
        simp only at acted
        split at acted <;> cases acted
        cases publishes <;> exact .plain rfl
      | _ => cases acted; cases publishes <;> exact .plain rfl
  | cleared =>
    cases outcome with
    | yes =>
      simp only [DaemonPhase.act] at acted
      split at acted <;> cases acted
      exact bind_orderly sight .yes publishes
    | _ => cases acted; cases publishes <;> exact .plain rfl
  | listening =>
    cases outcome with
    | yes =>
      cases acted
      cases publishes with
      | true => exact publish_orderly sight .yes
      | false => exact .plain rfl
    | _ => cases acted; cases publishes <;> exact .plain rfl
  | condemned | bound | serving | cleaning | cleaned | closing =>
    cases publishes <;> cases outcome <;> cases acted <;> exact .plain rfl

/-- A shim attaches nothing; what counts is when it found no socket file. -/
theorem looked_orderly (sight : Sight) (outcome : Outcome) (absent : sight.present = false) :
    Orderly sight outcome (.shim .looking) .nothing (.shim .noSocket) where
  attaches now := by cases now
  detaches same := by cases same
  serves same := by cases same
  publishes same := by cases same
  published before := by cases before
  sees _ := .inr ⟨rfl,rfl,absent⟩
  removes same := by cases same

theorem removing_orderly {sight : Sight} {outcome : Outcome} {op : FileOp}
    (acted : (ShimPhase.removing).act sight outcome = some (some .spawning,op)) :
    Orderly sight outcome (.shim .removing) op (.shim .spawning) where
  attaches now := by cases now
  detaches same := by cases outcome <;> cases acted <;> cases same
  serves same := by cases same
  publishes same := by cases outcome <;> cases acted <;> cases same
  published before := by cases before
  sees now := by cases now
  removes _ same := by cases outcome <;> cases acted <;> first | rfl | cases same

theorem shim_orderly {sight : Sight} {phase : ShimPhase} {outcome : Outcome}
    {next : Option ShimPhase} {op : FileOp} (acted : phase.act sight outcome = some (next,op)) :
    Orderly sight outcome (.shim phase) op (next.elim .ended .shim) := by
  cases phase with
  | looking =>
    cases acted
    cases there : sight.present with
    | true => exact .plain rfl
    | false => exact looked_orderly sight outcome there
  | removing =>
    have later : next = some .spawning := by cases outcome <;> cases acted <;> rfl
    subst later
    exact removing_orderly acted
  | arriving | socketThere | noSocket =>
    cases outcome with
    | _ =>
      simp only [ShimPhase.act] at acted
      first
        | (cases acted; exact .plain rfl)
        | (split at acted <;> cases acted; exact .plain rfl)
  | grace socket =>
    cases outcome with
    | yes =>
      simp only [ShimPhase.act] at acted
      split at acted <;> cases acted
      cases socket <;> exact .plain rfl
    | _ => cases acted; cases socket <;> exact .plain rfl
  | clearing withPid | holding withPid =>
    cases outcome with
    | _ =>
      simp only [ShimPhase.act] at acted
      first
        | (cases acted; exact .plain rfl)
        | (split at acted <;> cases acted; exact .plain rfl)
  | condemned withPid => cases outcome <;> cases acted <;> exact .plain rfl
  | unlinked withPid => cases withPid <;> cases outcome <;> cases acted <;> exact .plain rfl
  | releasing connected => cases connected <;> cases outcome <;> cases acted <;> exact .plain rfl
  | spawning => cases outcome <;> cases acted <;> exact .plain rfl

theorem act_orderly {sight : Sight} {process next : Process} {outcome : Outcome} {op : FileOp}
    (acted : process.act sight outcome = some (next,op)) :
    Orderly sight outcome process op next := by
  cases process with
  | daemon publishes phase =>
    obtain ⟨⟨later,done⟩,moved,same⟩ := Option.map_eq_some_iff.mp acted
    cases same
    exact daemon_orderly moved
  | shim phase =>
    obtain ⟨⟨later,done⟩,moved,same⟩ := Option.map_eq_some_iff.mp acted
    cases same
    exact shim_orderly moved
  | ended => cases acted

/-! ## The invariant -/

variable {world next : SocketWorld} {label : SocketLabel} {history : Publications}

/-- The socket file of an attached daemon is there, and the PID file names a serving one.
Whoever serves now published after a shim found no socket file. -/
structure Kept (state : SocketWorld × Publications) : Prop where
  claimed : Claimed state.1
  socket : ∀ (daemon : Nat) process, state.1.processes[daemon]? = some process →
    process.attached = true → state.1.files.socket = some (some daemon)
  named : ∀ daemon, state.1.files.pidFile = some (some daemon) →
    ∃ process, state.1.processes[daemon]? = some process ∧ process.published = true
  since : ∀ shim, state.2.since shim ≤ state.2.published.length
  unseen : ∀ (shim : Nat) process, state.1.processes[shim]? = some process →
    process.sawNoSocket = true → ∀ daemon,
    state.1.processes[daemon]? = some (.daemon true .serving) →
    daemon ∈ state.2.published.drop (state.2.since shim)
  kept : ∀ daemon, state.1.processes[daemon]? = some (.daemon true .serving) →
    state.1.files.pidFile = some (some daemon)

theorem start_kept (socket pidFile : Bool) : Kept (start socket pidFile,.none) where
  claimed := start_claimed socket pidFile
  socket daemon process found := by simp [start] at found
  named daemon found := by cases pidFile <;> cases found
  since _ := Nat.le_refl _
  unseen shim process found := by simp [start] at found
  kept daemon found := by simp [start] at found

theorem perform_pidFile (world : SocketWorld) (index : Nat) (op : FileOp) :
    (world.perform index op).files.pidFile = match op with
      | .publish => some (some index)
      | .removePid => none
      | _ => world.files.pidFile := by
  cases op <;> rfl

/-- The history after a step of one process: published, found no socket, or neither. -/
theorem record_cases {index : Nat} {outcome : Outcome} {process later : Process} {op : FileOp}
    (known : world.processes[index]? = some process) (history : Publications) :
    let after := Publications.record world (.act index outcome)
      ((world.setProcess index later).perform index op) history
    (process = .daemon true .listening ∧ later = .daemon true .serving ∧
      after = { history with published := history.published ++ [index] }) ∨
    (process = .shim .looking ∧ later = .shim .noSocket ∧
      after = { history with
        since := Function.update history.since index history.published.length }) ∨
    (after = history ∧ ¬(process = .daemon true .listening ∧ later = .daemon true .serving) ∧
      ¬(process = .shim .looking ∧ later = .shim .noSocket)) := by
  have change (earlier final : Process) :
      moved world ((world.setProcess index later).perform index op) index earlier final = true ↔
        process = earlier ∧ later = final := by
    simp only [moved,known,acted_self known,Bool.and_eq_true,beq_iff_eq,Option.some.injEq]
  simp only [Publications.record]
  by_cases publishes : process = .daemon true .listening ∧ later = .daemon true .serving
  · rw [if_pos ((change _ _).mpr publishes)]
    exact .inl ⟨publishes.1,publishes.2,rfl⟩
  · rw [if_neg (fun yes => publishes ((change _ _).mp yes))]
    by_cases looks : process = .shim .looking ∧ later = .shim .noSocket
    · rw [if_pos ((change _ _).mpr looks)]
      exact .inr (.inl ⟨looks.1,looks.2,rfl⟩)
    · rw [if_neg (fun yes => looks ((change _ _).mp yes))]
      exact .inr (.inr ⟨rfl,publishes,looks⟩)

/-! ## The PID file of a serving daemon -/

/-- Nobody else's step takes it away, if the step is undisturbed. -/
theorem Kept.survives {state : SocketWorld × Publications} (kept : Kept state) {index : Nat}
    {outcome : Outcome} {process later : Process} {op : FileOp}
    (known : state.1.processes[index]? = some process)
    (acted : process.act state.1.sight outcome = some (later,op))
    (undisturbed : Undisturbed state (.act index outcome)) {daemon : Nat} (apart : daemon ≠ index)
    (serving : state.1.processes[daemon]? = some (.daemon true .serving)) :
    ((state.1.setProcess index later).perform index op).files.pidFile = some (some daemon) := by
  have lawful := act_lawful acted
  have orderly := act_orderly acted
  have here : (state.1.setProcess index later).files.pidFile = some (some daemon) :=
    kept.kept daemon serving
  have alone (holds : process.holds = true) : False := by
    have mine := kept.claimed index process known holds
    have yours := kept.claimed daemon _ serving rfl
    exact apart (Option.some.inj (yours.symm.trans mine))
  rw [perform_pidFile]
  cases op with
  | publish => exact (alone lawful).elim
  | removePid =>
    rcases lawful with holds | ⟨removing,_⟩
    · exact (alone holds).elim
    · have yes := orderly.removes removing rfl
      subst removing yes
      have listed := kept.unseen index _ known rfl daemon serving
      exact (undisturbed index rfl known daemon listed serving).elim
  | _ => exact here

/-- Named and attached is serving, and published. -/
theorem Kept.serving_of_named {state : SocketWorld × Publications} (kept : Kept state)
    {daemon : Nat} {process : Process} (named : state.1.files.pidFile = some (some daemon))
    (found : state.1.processes[daemon]? = some process) (attached : process.attached = true) :
    state.1.processes[daemon]? = some (.daemon true .serving) := by
  obtain ⟨standing,there,published⟩ := kept.named daemon named
  rw [there] at found
  cases found
  cases process with
  | daemon publishes phase =>
    cases phase <;> first
      | contradiction
      | cases publishes <;> first | exact there | contradiction
  | _ => cases attached

/-! ### One process acts -/

section Acted

variable {index : Nat} {outcome : Outcome} {process later : Process} {op : FileOp}

theorem Kept.act_socket (kept : Kept (world,history))
    (known : world.processes[index]? = some process)
    (acted : process.act world.sight outcome = some (later,op)) {daemon : Nat} {standing : Process}
    (found : ((world.setProcess index later).perform index op).processes[daemon]? = some standing)
    (attached : standing.attached = true) :
    ((world.setProcess index later).perform index op).files.socket = some (some daemon) := by
  have lawful := act_lawful acted
  have orderly := act_orderly acted
  rw [perform_socket]
  rcases acted_processes found with ⟨rfl,rfl⟩ | ⟨apart,before⟩ | ⟨_,_,_,rfl⟩
  · rcases orderly.attaches attached with already | rfl
    · have here : (world.setProcess daemon standing).files.socket = some (some daemon) :=
        kept.socket daemon process known already
      cases op with
      | bind => rfl
      | removeSocket =>
        rw [orderly.detaches rfl] at attached
        cases attached
      | _ => exact here
    · rfl
  · have here : (world.setProcess index later).files.socket = some (some daemon) :=
      kept.socket daemon standing before attached
    have alone (holds : process.holds = true) : False := by
      have mine := kept.claimed index process known holds
      have yours := kept.claimed daemon standing before
        (Process.holds_of_bound (Process.bound_of_attached attached))
      exact apart (Option.some.inj (yours.symm.trans mine))
    cases op with
    | bind => exact (alone lawful).elim
    | removeSocket => exact (alone lawful).elim
    | _ => exact here
  · cases attached

theorem Kept.act_named (kept : Kept (world,history))
    (known : world.processes[index]? = some process)
    (acted : process.act world.sight outcome = some (later,op)) {daemon : Nat}
    (named : ((world.setProcess index later).perform index op).files.pidFile =
      some (some daemon)) :
    ∃ standing, ((world.setProcess index later).perform index op).processes[daemon]? =
      some standing ∧ standing.published = true := by
  have orderly := act_orderly acted
  have before (same : world.files.pidFile = some (some daemon)) :
      ∃ standing, ((world.setProcess index later).perform index op).processes[daemon]? =
        some standing ∧ standing.published = true := by
    obtain ⟨standing,there,published⟩ := kept.named daemon same
    by_cases here : daemon = index
    · subst here
      rw [show world.processes[daemon]? = some process from known] at there
      cases there
      exact ⟨later,acted_self known,orderly.published published⟩
    · refine ⟨standing,?_,published⟩
      have set_ : (world.processes.set index later)[daemon]? = some standing :=
        (List.getElem?_set_ne (Ne.symm here)).trans there
      cases op with
      | spawn publishes =>
        simp only [perform,setProcess]
        rw [List.getElem?_append_left (List.getElem?_eq_some_iff.mp set_).1]
        exact set_
      | _ => exact set_
  rw [perform_pidFile] at named
  cases op with
  | publish =>
    cases named
    obtain ⟨_,rfl⟩ := orderly.publishes rfl
    exact ⟨_,acted_self known,rfl⟩
  | removePid => cases named
  | _ => exact before named

theorem Kept.act_since (kept : Kept (world,history))
    (known : world.processes[index]? = some process) (shim : Nat) :
    let after := Publications.record world (.act index outcome)
      ((world.setProcess index later).perform index op) history
    after.since shim ≤ after.published.length := by
  have bounded : history.since shim ≤ history.published.length := kept.since shim
  rcases @record_cases world index outcome process later op known history with
    ⟨_,_,same⟩ | ⟨_,_,same⟩ | ⟨same,_⟩
  · simp only [same,List.length_append]
    exact Nat.le_trans bounded (Nat.le_add_right _ _)
  · simp only [same]
    by_cases here : shim = index
    · subst here
      exact Nat.le_of_eq (Function.update_self ..)
    · rw [Function.update_of_ne here]
      exact bounded
  · simp only [same]
    exact bounded

theorem Kept.act_unseen (kept : Kept (world,history))
    (known : world.processes[index]? = some process)
    (acted : process.act world.sight outcome = some (later,op)) {shim daemon : Nat}
    {standing : Process}
    (found : ((world.setProcess index later).perform index op).processes[shim]? = some standing)
    (saw : standing.sawNoSocket = true)
    (serving : ((world.setProcess index later).perform index op).processes[daemon]? =
      some (.daemon true .serving)) :
    let after := Publications.record world (.act index outcome)
      ((world.setProcess index later).perform index op) history
    daemon ∈ after.published.drop (after.since shim) := by
  have orderly := act_orderly acted
  have listed {standing : Process} (there : world.processes[shim]? = some standing)
      (saw : standing.sawNoSocket = true)
      (serving : world.processes[daemon]? = some (.daemon true .serving)) :
      daemon ∈ history.published.drop (history.since shim) :=
    kept.unseen shim standing there saw daemon serving
  have bounded : history.since shim ≤ history.published.length := kept.since shim
  rcases @record_cases world index outcome process later op known history with
    ⟨rfl,rfl,same⟩ | ⟨rfl,rfl,same⟩ | ⟨same,unpublished,sighted⟩
  · simp only [same]
    rw [List.drop_append_of_le_length bounded,List.mem_append]
    rcases acted_processes found with ⟨_,rfl⟩ | ⟨_,there⟩ | ⟨_,_,_,rfl⟩
    · cases saw
    · rcases acted_processes serving with ⟨rfl,_⟩ | ⟨_,before⟩ | ⟨_,_,_,new⟩
      · exact .inr (List.mem_singleton_self _)
      · exact .inl (listed there saw before)
      · cases new
    · cases saw
  · simp only [same]
    rcases acted_processes serving with ⟨_,new⟩ | ⟨_,before⟩ | ⟨_,_,_,new⟩
    · cases new
    · rcases acted_processes found with ⟨rfl,rfl⟩ | ⟨apart,there⟩ | ⟨_,_,_,rfl⟩
      · -- the daemon's socket file is what the shim looked for
        rcases orderly.sees rfl with no | ⟨_,_,absent⟩
        · cases no
        · have socket : world.files.socket = some (some daemon) := kept.socket daemon _ before rfl
          simp only [sight,socket] at absent
          cases absent
      · rw [Function.update_of_ne apart]
        exact listed there saw before
      · cases saw
    · cases new
  · simp only [same]
    have before : world.processes[daemon]? = some (.daemon true .serving) := by
      rcases acted_processes serving with ⟨_,new⟩ | ⟨_,before⟩ | ⟨_,_,_,new⟩
      · exact (unpublished ⟨(orderly.serves new.symm).1,new.symm⟩).elim
      · exact before
      · cases new
    rcases acted_processes found with ⟨rfl,rfl⟩ | ⟨_,there⟩ | ⟨_,_,_,rfl⟩
    · rcases orderly.sees saw with already | ⟨looking,found,_⟩
      · exact listed known already before
      · exact (sighted ⟨looking,found⟩).elim
    · exact listed there saw before
    · cases saw

theorem Kept.acted (kept : Kept (world,history))
    (known : world.processes[index]? = some process)
    (acted : process.act world.sight outcome = some (later,op))
    (undisturbed : Undisturbed (world,history) (.act index outcome)) :
    Kept ((world.setProcess index later).perform index op,
      .record world (.act index outcome) ((world.setProcess index later).perform index op)
        history) where
  claimed := Claimed.act kept.claimed known acted
  socket _ _ found attached := kept.act_socket known acted found attached
  named _ named := kept.act_named known acted named
  since shim := @Kept.act_since _ _ _ outcome _ _ _ kept known shim
  unseen _ _ found saw _ serving := kept.act_unseen known acted found saw serving
  kept daemon serving := by
    rcases acted_processes serving with ⟨rfl,new⟩ | ⟨apart,before⟩ | ⟨_,_,_,new⟩
    · rw [perform_pidFile,((act_orderly acted).serves new.symm).2]
    · exact kept.survives known acted undisturbed apart before
    · cases new

end Acted

/-- A step that touches neither file, attaches nobody and forgets no publisher. -/
theorem Kept.calm (kept : Kept (world,history)) (claimed : Claimed next)
    (socket : next.files.socket = world.files.socket)
    (pidFile : next.files.pidFile = world.files.pidFile)
    (old : ∀ (index : Nat) process, next.processes[index]? = some process →
      world.processes[index]? = some process ∨
        process.attached = false ∧ process.sawNoSocket = false)
    (listed : ∀ (index : Nat) process, world.processes[index]? = some process →
      process.published = true →
        ∃ later, next.processes[index]? = some later ∧ later.published = true) :
    Kept (next,history) where
  claimed := claimed
  socket daemon process found attached := by
    rcases old daemon process found with before | ⟨idle,_⟩
    · exact socket.trans (kept.socket daemon process before attached)
    · rw [idle] at attached
      cases attached
  named daemon named := by
    obtain ⟨process,there,published⟩ := kept.named daemon (pidFile.symm.trans named)
    exact listed daemon process there published
  since := kept.since
  unseen shim process found saw daemon serving := by
    rcases old daemon _ serving with before | ⟨idle,_⟩
    · rcases old shim process found with there | ⟨_,idle⟩
      · exact kept.unseen shim process there saw daemon before
      · rw [idle] at saw
        cases saw
    · cases idle
  kept daemon serving := by
    rcases old daemon _ serving with before | ⟨idle,_⟩
    · exact pidFile.trans (kept.kept daemon before)
    · cases idle

theorem Kept.started (kept : Kept (world,history)) {newcomer : Process}
    (free : newcomer.holds = false) (idle : newcomer.attached = false)
    (looking : newcomer.sawNoSocket = false) :
    Kept ({ world with processes := world.processes ++ [newcomer] },history) := by
  refine kept.calm (Claimed.started kept.claimed free) rfl rfl ?_ ?_
  · intro index process found
    rcases started_processes found with before | ⟨_,rfl⟩
    · exact .inl before
    · exact .inr ⟨idle,looking⟩
  · intro index process there published
    have inside := (List.getElem?_eq_some_iff.mp there).1
    exact ⟨process,(List.getElem?_append_left inside).trans there,published⟩

theorem Kept.crashed (kept : Kept (world,history)) (index : Nat) :
    Kept (world.crash index,history) := by
  refine kept.calm (Claimed.crash kept.claimed index) (crash_files world index).1
    (crash_files world index).2 ?_ ?_
  · intro other process found
    rcases crash_processes found with ⟨_,rfl⟩ | ⟨_,before⟩
    · exact .inr ⟨rfl,rfl⟩
    · exact .inl before
  · intro other process there published
    have same : (world.crash index).processes = world.processes.set index .ended := by
      simp only [crash,setProcess]
      split <;> rfl
    rw [same]
    by_cases here : index = other
    · subst here
      exact ⟨.ended,List.getElem?_set_self (List.getElem?_eq_some_iff.mp there).1,rfl⟩
    · exact ⟨process,(List.getElem?_set_ne here).trans there,published⟩

theorem step_kept (state : SocketWorld × Publications) (label : SocketLabel)
    (after : SocketWorld × Publications) (kept : Kept state) (undisturbed : Undisturbed state label)
    (taken : Runs.observed step Publications.record state label = some after) : Kept after := by
  obtain ⟨world,history⟩ := state
  obtain ⟨reached,later⟩ := after
  obtain ⟨stepped,recorded⟩ := Runs.observed_step taken
  rw [show later = _ from recorded]
  cases step_taken stepped with
  | daemon publishes => exact kept.started rfl rfl rfl
  | shim => exact kept.started rfl rfl rfl
  | acted known moved => exact kept.acted known moved undisturbed
  | crashed known => exact kept.crashed _

/-! ## When the PID file is kept -/

/-- After an undisturbed run the next step keeps the PID file of a live daemon exactly if
it is undisturbed. -/
theorem pid_file_kept_iff (socket pidFile : Bool) {labels : List SocketLabel}
    {state : SocketWorld × Publications}
    (guarded : Runs.Guarded (Runs.observed step Publications.record) Undisturbed
      (start socket pidFile,.none) labels)
    (run : Runs.execute (Runs.observed step Publications.record) (start socket pidFile,.none)
      labels = some state) (taken : state.1.step label = some next) :
    KeepsPid state.1 label next ↔ Undisturbed state label := by
  have kept : Kept state := Runs.guarded_invariant step_kept guarded run (start_kept socket pidFile)
  constructor
  · rintro keeps shim rfl removing daemon _ serving
    have named := kept.kept daemon serving
    rcases keeps daemon _ named serving rfl with same | ⟨outcome,other⟩
    · cases step_taken taken with
      | acted known moved =>
        rw [removing] at known
        cases known
        cases moved
        cases same
    · cases other
      rw [removing] at serving
      cases serving
  · intro undisturbed daemon process named found attached
    have serving := kept.serving_of_named named found attached
    cases step_taken taken with
    | daemon | shim => exact .inl named
    | crashed known => exact .inl ((crash_files state.1 _).2.trans named)
    | @acted index outcome actor later op known moved =>
      by_cases here : daemon = index
      · subst here
        exact .inr ⟨outcome,rfl⟩
      · exact .inl (kept.survives known moved undisturbed here serving)

instance Undisturbed.instDecidable (state : SocketWorld × Publications) :
    (label : SocketLabel) → Decidable (Undisturbed state label)
  | .act shim .yes =>
    decidable_of_iff (state.1.processes[shim]? = some (.shim .removing) →
      ∀ daemon ∈ state.2.published.drop (state.2.since shim),
        state.1.processes[daemon]? ≠ some (.daemon true .serving))
      ⟨fun calm _ same => by cases same; exact calm,fun undisturbed => undisturbed shim rfl⟩
  | .act _ .no | .act _ .unknown | .startDaemon _ | .startShim | .crash _ => isTrue nofun

/-- A shim finds no socket file and a PID file that names nobody; a daemon comes up. -/
def comingUp : List SocketLabel :=
  [.startShim,.act 0 .no,.act 0 .no,.act 0 .no,.startDaemon true,.act 1 .yes,.act 1 .yes,
    .act 1 .yes,.act 1 .yes]

/-- The shim removes the stale PID file before the daemon publishes its own. -/
theorem removed_before_published :
    ∃ state next, Runs.execute (Runs.observed step Publications.record) (start false true,.none)
        (comingUp ++ [.act 0 .yes,.act 1 .yes]) = some state ∧
      state.1.step (.act 0 .yes) = some next ∧ state.1.files.pidFile = some (some 1) ∧
      KeepsPid state.1 (.act 0 .yes) next := by
  refine ⟨_,_,rfl,rfl,rfl,?_⟩
  have guarded : Runs.Guarded (Runs.observed step Publications.record) Undisturbed
      (start false true,.none) (comingUp ++ [.act 0 .yes,.act 1 .yes]) := by decide
  exact (pid_file_kept_iff false true guarded rfl rfl).mpr (by decide)

/-- The shim removes the PID file the daemon has just published. -/
theorem removed_after_published :
    ∃ world next, Runs.execute step (start false true) (comingUp ++ [.act 1 .yes]) = some world ∧
      world.step (.act 0 .yes) = some next ∧ world.files.pidFile = some (some 1) ∧
      world.processes[1]? = some (.daemon true .serving) ∧ next.files.pidFile = none ∧
      ¬KeepsPid world (.act 0 .yes) next := by
  refine ⟨_,_,rfl,rfl,rfl,rfl,rfl,?_⟩
  intro keeps
  rcases keeps 1 _ rfl rfl rfl with same | ⟨_,same⟩
  · cases same
  · cases same

end SocketWorld

end SmlMcps
