import SmlMcps.Library.Runs

/-! The files at a socket path, and the processes that work on them: daemons that claim
the path, bind it, publish their PID and clean up, and shims that look for a daemon and
start one. A step is one system call of one process, together with what the process makes
of its answer; a crash may come between any two. -/
namespace SmlMcps

/-- What a system call answered. -/
inductive Outcome where
  | yes
  | no
  | unknown
  deriving DecidableEq

/-- `claim` is the holder of the lock on the `.lock` file. The socket file and the PID
file are known by the process that made them, or by none if they were there before. -/
structure SocketFiles where
  claim : Option Nat
  socket : Option (Option Nat)
  pidFile : Option (Option Nat)
  deriving DecidableEq

/-- What a process does to the files. -/
inductive FileOp where
  | nothing
  | claim
  | release
  | bind
  | removeSocket
  | publish
  | removePid
  | spawn (publishes : Bool)
  deriving DecidableEq

/-- What a process can find out about the files before it acts. `pid` is whether the PID
file names a process that is there, if it is a PID file. -/
structure Sight where
  free : Bool
  present : Bool
  answers : Bool
  pid : Option Bool

/-! ## Daemons -/

/-- From the claim to its release. `condemned` is a daemon about to remove a socket file
that refused it, `cleaning` one that is done serving. -/
inductive DaemonPhase where
  | starting
  | claimed
  | condemned
  | cleared
  | bound
  | listening
  | serving
  | cleaning
  | cleaned
  | closing
  deriving DecidableEq

namespace DaemonPhase

/-- A connect to the daemon's socket can succeed. -/
def listens : DaemonPhase → Bool
  | .listening | .serving | .cleaning => true
  | _ => false

/-- One step, and what it does to the files; `none` is the end of the process. Whatever
goes wrong closes the daemon's descriptors, the socket's before the lock's. -/
def act (publishes : Bool) (sight : Sight) (phase : DaemonPhase) (outcome : Outcome) :
    Option (Option DaemonPhase × FileOp) :=
  match phase, outcome with
  | .starting, .yes => if sight.free then some (some .claimed,.claim) else some (none,.nothing)
  | .starting, _ => some (none,.nothing)
  | .claimed, outcome =>
    if !sight.present then some (some .cleared,.nothing)
    else match outcome with
      | .yes => if sight.answers then some (some .closing,.nothing) else none
      | .no => some (some .condemned,.nothing)
      | .unknown => some (some .closing,.nothing)
  | .condemned, .yes => some (some .cleared,.removeSocket)
  | .cleared, .yes => if sight.present then none else some (some .bound,.bind)
  | .bound, .yes => some (some .listening,.nothing)
  | .listening, .yes => some (some .serving,if publishes then .publish else .nothing)
  | .serving, .yes => some (some .cleaning,.nothing)
  | .cleaning, .yes => some (some .cleaned,.removeSocket)
  | .cleaning, _ => some (some .cleaned,.nothing)
  | .cleaned, .yes => some (some .closing,if publishes then .removePid else .nothing)
  | .closing, _ => some (none,.release)
  | _, _ => some (some .closing,.nothing)

end DaemonPhase

/-! ## Shims -/

/-- `grace` is the wait for a daemon whose PID file names a process that is there;
`removing` the removal of a PID file nobody has bound a socket for. -/
inductive ShimPhase where
  | arriving
  | looking
  | socketThere
  | noSocket
  | grace (socket : Bool)
  | clearing (withPid : Bool)
  | holding (withPid : Bool)
  | condemned (withPid : Bool)
  | unlinked (withPid : Bool)
  | releasing (connected : Bool)
  | removing
  | spawning
  deriving DecidableEq

namespace ShimPhase

/-- A connected shim is done; what comes after `spawning` only connects. A process may
have the number of one that ended, so a dead PID may look alive. -/
def act (sight : Sight) (phase : ShimPhase) (outcome : Outcome) :
    Option (Option ShimPhase × FileOp) :=
  match phase, outcome with
  | .arriving, .yes => if sight.answers then some (none,.nothing) else none
  | .arriving, .no => some (some .looking,.nothing)
  | .arriving, .unknown => some (none,.nothing)
  | .looking, _ => some (some (if sight.present then .socketThere else .noSocket),.nothing)
  | .socketThere, .yes => if sight.pid.isSome then some (some (.grace true),.nothing) else none
  | .socketThere, .no =>
    if sight.pid = some false then some (some (.clearing true),.nothing) else none
  | .socketThere, .unknown => some (some (.clearing false),.nothing)
  | .noSocket, .yes => if sight.pid.isSome then some (some (.grace false),.nothing) else none
  | .noSocket, .no => if sight.pid = some false then some (some .removing,.nothing) else none
  | .noSocket, .unknown => some (some .spawning,.nothing)
  | .grace _, .yes => if sight.answers then some (none,.nothing) else none
  | .grace socket, _ => some (some (if socket then .clearing true else .removing),.nothing)
  | .clearing withPid, .yes =>
    if sight.free then some (some (.holding withPid),.claim) else none
  | .clearing _, .no => some (some .spawning,.nothing)
  | .clearing _, .unknown => if sight.answers then some (none,.nothing) else none
  | .holding _, .yes => if sight.answers then some (some (.releasing true),.nothing) else none
  | .holding withPid, .no => some (some (.condemned withPid),.nothing)
  | .holding _, .unknown => some (some (.releasing false),.nothing)
  | .condemned withPid, .yes => some (some (.unlinked withPid),.removeSocket)
  | .condemned withPid, _ => some (some (.unlinked withPid),.nothing)
  | .unlinked true, .yes => some (some (.releasing false),.removePid)
  | .unlinked _, _ => some (some (.releasing false),.nothing)
  | .releasing true, _ => some (none,.release)
  | .releasing false, _ => some (some .spawning,.release)
  | .removing, .yes => some (some .spawning,.removePid)
  | .removing, _ => some (some .spawning,.nothing)
  | .spawning, .yes => some (none,.spawn true)
  | .spawning, .no => some (none,.nothing)
  | .spawning, .unknown => some (none,.spawn false)

end ShimPhase

/-! ## Processes -/

/-- `publishes` tells `serve_daemon` from `serve`, which writes no PID file. -/
inductive Process where
  | daemon (publishes : Bool) (phase : DaemonPhase)
  | shim (phase : ShimPhase)
  | ended
  deriving DecidableEq

def Process.act (sight : Sight) (process : Process) (outcome : Outcome) :
    Option (Process × FileOp) :=
  match process with
  | .daemon publishes phase => (phase.act publishes sight outcome).map fun next =>
      (next.1.elim .ended (.daemon publishes),next.2)
  | .shim phase => (phase.act sight outcome).map fun next => (next.1.elim .ended .shim,next.2)
  | .ended => none

structure SocketWorld where
  files : SocketFiles
  processes : List Process
  deriving DecidableEq

inductive SocketLabel where
  | startDaemon (publishes : Bool)
  | startShim
  | act (process : Nat) (outcome : Outcome)
  | crash (process : Nat)
  deriving DecidableEq

namespace SocketWorld

/-- Whatever an earlier life left behind. -/
def start (socket pidFile : Bool) : SocketWorld :=
  ⟨⟨none,if socket then some none else none,if pidFile then some none else none⟩,[]⟩

def answers (world : SocketWorld) : Bool :=
  match world.files.socket with
  | some (some maker) =>
    match world.processes[maker]? with
    | some (.daemon _ phase) => phase.listens
    | _ => false
  | _ => false

def alive (world : SocketWorld) (process : Nat) : Bool :=
  match world.processes[process]? with
  | some .ended | none => false
  | some _ => true

def sight (world : SocketWorld) : Sight where
  free := world.files.claim.isNone
  present := world.files.socket.isSome
  answers := world.answers
  pid := world.files.pidFile.map fun named => named.elim false world.alive

def perform (world : SocketWorld) (process : Nat) (op : FileOp) : SocketWorld :=
  match op with
  | .nothing => world
  | .claim => { world with files := { world.files with claim := some process } }
  | .release => { world with files := { world.files with claim := none } }
  | .bind => { world with files := { world.files with socket := some (some process) } }
  | .removeSocket => { world with files := { world.files with socket := none } }
  | .publish => { world with files := { world.files with pidFile := some (some process) } }
  | .removePid => { world with files := { world.files with pidFile := none } }
  | .spawn publishes =>
    { world with processes := world.processes ++ [.daemon publishes .starting] }

def setProcess (world : SocketWorld) (index : Nat) (process : Process) : SocketWorld :=
  { world with processes := world.processes.set index process }

/-- The kernel takes back the lock of a process that dies; the files stay. -/
def crash (world : SocketWorld) (index : Nat) : SocketWorld :=
  (if world.files.claim = some index then world.perform index .release else world).setProcess
    index .ended

def step (world : SocketWorld) (label : SocketLabel) : Option SocketWorld :=
  match label with
  | .startDaemon publishes =>
    some { world with processes := world.processes ++ [.daemon publishes .starting] }
  | .startShim => some { world with processes := world.processes ++ [.shim .arriving] }
  | .act index outcome => do
    let process ← world.processes[index]?
    let (next,op) ← process.act world.sight outcome
    some ((world.setProcess index next).perform index op)
  | .crash index =>
    match world.processes[index]? with
    | some .ended | none => none
    | some _ => some (world.crash index)

end SocketWorld

end SmlMcps
