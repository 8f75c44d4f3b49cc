import Mathlib.Algebra.Order.Ring.Int
import SmlMcps.Library.Runs

/-! The daemon's connection bookkeeping, and everybody who touches it: the accept loop
of each listener, the thread of each connection, the idle watcher, and whoever asks the
daemon to stop. One lock guards the state; a step is one critical section, or a move of
one thread between two of them. -/
namespace SmlMcps

/-- `generation` is a 64-bit counter, bumped for every connection that is served. -/
structure ConnState where
  active : Nat
  generation : Nat
  shutdown : Bool
  deriving DecidableEq

inductive Admission where
  | admitted
  | full
  | shuttingDown
  deriving DecidableEq

namespace ConnState

def default : ConnState := ⟨0,0,false⟩

/-- Take a slot, or say why not. -/
def admitOne (state : ConnState) (max : Nat) : ConnState × Admission :=
  if state.shutdown then (state,.shuttingDown)
  else if max ≤ state.active then (state,.full)
  else ({ state with
      active := state.active + 1
      generation := (state.generation + 1) % 2^64 },.admitted)

/-- Give a slot back: by a connection's guard, or by hand when its thread never ran. -/
def release (state : ConnState) : ConnState := { state with active := state.active - 1 }

def requestShutdown (state : ConnState) : ConnState := { state with shutdown := true }

end ConnState

/-! ## Threads -/

/-- How a connection's handler came to its end. -/
inductive Ending where
  | normal
  | setupFailed
  | panicked
  deriving DecidableEq

/-- A connection that was given a slot. Its guard is dropped after the handler's end,
whichever that was. -/
inductive ConnPhase where
  | waiting
  | serving
  | ending (how : Ending)
  | ended
  deriving DecidableEq

/-- The connection still has its slot. -/
def ConnPhase.live : ConnPhase → Bool
  | .ended => false
  | _ => true

/-- What `accept` returns: a transport, an interruption, or another error. -/
inductive Accepted where
  | arrived
  | interrupted
  | failed
  deriving DecidableEq

inductive AcceptPhase where
  | accepting
  | retrying
  | arrived
  | slotted (connection : Nat)
  | unspawned (connection : Nat)
  | stopped
  deriving DecidableEq

/-- The connection whose slot the accept loop is to hand over or give back. -/
def AcceptPhase.slot : AcceptPhase → Option Nat
  | .slotted connection | .unspawned connection => some connection
  | _ => none

/-- The watcher about to take the lock, asleep until it is idle, in its window, asking
the application, about to request the shutdown, or done with it. -/
inductive WatcherPhase where
  | absent
  | locking
  | dozing
  | window (generation : Nat)
  | checking (generation : Nat)
  | requesting
  | returned
  deriving DecidableEq

structure DaemonLimits where
  maxConnections : Nat
  busyCheck : Bool

/-- `connections` are all that were ever admitted. -/
structure Daemon where
  conn : ConnState
  listeners : List AcceptPhase
  connections : List ConnPhase
  watcher : WatcherPhase
  deriving DecidableEq

inductive DaemonLabel where
  | accept (listener : Nat) (accepted : Accepted)
  | recheck (listener : Nat)
  | admission (listener : Nat)
  | spawn (listener : Nat) (started : Bool)
  | release (listener : Nat)
  | finish (connection : Nat) (how : Ending)
  | dropGuard (connection : Nat)
  | shutdown
  | look
  | wake (timedOut : Bool)
  | checked (busy : Bool)
  | request
  deriving DecidableEq

namespace Daemon

def start (listeners : Nat) (watched : Bool) : Daemon where
  conn := .default
  listeners := List.replicate listeners .accepting
  connections := []
  watcher := if watched then .locking else .absent

def setListener (daemon : Daemon) (index : Nat) (phase : AcceptPhase) : Daemon :=
  { daemon with listeners := daemon.listeners.set index phase }

def setConnection (daemon : Daemon) (index : Nat) (phase : ConnPhase) : Daemon :=
  { daemon with connections := daemon.connections.set index phase }

def setWatcher (daemon : Daemon) (phase : WatcherPhase) : Daemon :=
  { daemon with watcher := phase }

def setConn (daemon : Daemon) (conn : ConnState) : Daemon := { daemon with conn := conn }

/-! ### The accept loop -/

def acceptStep (daemon : Daemon) (index : Nat) (accepted : Accepted) : Daemon :=
  match accepted with
  | .arrived => daemon.setListener index .arrived
  | .interrupted => daemon
  | .failed => daemon.setListener index .retrying

def admitStep (limits : DaemonLimits) (daemon : Daemon) (index : Nat) : Daemon :=
  match daemon.conn.admitOne limits.maxConnections with
  | (conn,.admitted) => { daemon.setListener index (.slotted daemon.connections.length) with
      conn := conn
      connections := daemon.connections ++ [.waiting] }
  | (conn,.full) => (daemon.setConn conn).setListener index .accepting
  | (conn,.shuttingDown) => (daemon.setConn conn).setListener index .stopped

/-- A thread that cannot be had leaves the slot to be given back by hand. -/
def spawnStep (daemon : Daemon) (index connection : Nat) (started : Bool) : Daemon :=
  if started then (daemon.setConnection connection .serving).setListener index .accepting
  else daemon.setListener index (.unspawned connection)

/-- The slot of a connection goes back. -/
def giveBack (daemon : Daemon) (connection : Nat) : Daemon :=
  (daemon.setConn daemon.conn.release).setConnection connection .ended

/-! ### The idle watcher -/

/-- At the top of its loop, or woken from its sleep there. -/
def lookStep (daemon : Daemon) : Daemon :=
  if daemon.conn.shutdown then daemon.setWatcher .returned
  else if 0 < daemon.conn.active then daemon.setWatcher .dozing
  else daemon.setWatcher (.window daemon.conn.generation)

/-- Out of the window: by the clock, or by a wake-up of any kind. -/
def wakeStep (limits : DaemonLimits) (daemon : Daemon) (generation : Nat) (timedOut : Bool) :
    Daemon :=
  if daemon.conn.shutdown then daemon.setWatcher .returned
  else if timedOut && daemon.conn.active == 0 && daemon.conn.generation == generation then
    daemon.setWatcher (if limits.busyCheck then .checking generation else .requesting)
  else daemon.setWatcher .locking

/-- The application has answered. -/
def checkedStep (daemon : Daemon) (generation : Nat) (busy : Bool) : Daemon :=
  if daemon.conn.shutdown then daemon.setWatcher .returned
  else if busy || daemon.conn.active != 0 || daemon.conn.generation != generation then
    daemon.setWatcher .locking
  else daemon.setWatcher .requesting

def step (limits : DaemonLimits) (daemon : Daemon) (label : DaemonLabel) : Option Daemon :=
  match label with
  | .accept index accepted =>
    match daemon.listeners[index]? with
    | some .accepting => some (daemon.acceptStep index accepted)
    | _ => none
  | .recheck index =>
    match daemon.listeners[index]? with
    | some .retrying =>
      some (daemon.setListener index (if daemon.conn.shutdown then .stopped else .accepting))
    | _ => none
  | .admission index =>
    match daemon.listeners[index]? with
    | some .arrived => some (admitStep limits daemon index)
    | _ => none
  | .spawn index started =>
    match daemon.listeners[index]? with
    | some (.slotted connection) => some (daemon.spawnStep index connection started)
    | _ => none
  | .release index =>
    match daemon.listeners[index]? with
    | some (.unspawned connection) =>
      some ((daemon.giveBack connection).setListener index .accepting)
    | _ => none
  | .finish connection how =>
    match daemon.connections[connection]? with
    | some .serving => some (daemon.setConnection connection (.ending how))
    | _ => none
  | .dropGuard connection =>
    match daemon.connections[connection]? with
    | some (.ending _) => some (daemon.giveBack connection)
    | _ => none
  | .shutdown => some (daemon.setConn daemon.conn.requestShutdown)
  | .look =>
    match daemon.watcher with
    | .locking | .dozing => some daemon.lookStep
    | _ => none
  | .wake timedOut =>
    match daemon.watcher with
    | .window generation => some (wakeStep limits daemon generation timedOut)
    | _ => none
  | .checked busy =>
    match daemon.watcher with
    | .checking generation => some (daemon.checkedStep generation busy)
    | _ => none
  | .request =>
    match daemon.watcher with
    | .requesting => some ((daemon.setConn daemon.conn.requestShutdown).setWatcher .returned)
    | _ => none

/-- The step gives a slot to an arriving connection. -/
def admits (limits : DaemonLimits) (daemon : Daemon) : DaemonLabel → Bool
  | .admission _ => (daemon.conn.admitOne limits.maxConnections).2 = .admitted
  | _ => false

end Daemon

end SmlMcps
