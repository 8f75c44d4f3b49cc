import SmlMcps.HealthProbe
import SmlMcps.InitializationGate

/-! A probe and a server of this crate, each with its own loop and two queues of messages between
them. However they take turns the server is found healthy, under its own name, and its loop is
left to end in order. -/
namespace SmlMcps

variable {C : Type}

/-- `inbox` is what the probe has written and the server has not read yet, and `heard` how many
of the server's messages the probe has read. -/
structure Probing (C : Type) where
  phase : ProbePhase
  inbox : List JsonRpcMessage
  loop : ServerLoop C
  heard : Nat

/-- A call of the probe, a read of the server's loop, or any other step of that loop. -/
inductive ProbingLabel where
  | arm
  | write
  | read
  | serve (freshId : String)
  | hangUp
  | own (label : LoopLabel)

namespace Probing

def start (server : Server C) (context : C) (store : TaskStore) (now : SystemTime)
    (instant : Nat) : Probing C :=
  ⟨.arming,[],.start server context store now instant,0⟩

/-- The steps of a connection that does not fail. The probe closes its end when it is done. -/
def step (probe : Probe) (probing : Probing C) (label : ProbingLabel) : Option (Probing C) :=
  match label with
  | .arm => (probe.step probing.phase (.armed (.ok true))).map fun phase =>
      { probing with phase := phase }
  | .write =>
    match probing.phase.writes with
    | none => none
    | some message => (probe.step probing.phase (.wrote none)).map fun phase =>
        { probing with phase := phase, inbox := probing.inbox ++ [message] }
  | .read =>
    match probing.loop.shared.written[probing.heard]? with
    | none => none
    | some message => (probe.step probing.phase (.read (.ok message))).map fun phase =>
        { probing with phase := phase, heard := probing.heard + 1 }
  | .serve freshId =>
    match probing.inbox with
    | [] => none
    | message :: rest => (probing.loop.step (.read (.ok message) freshId)).map fun loop =>
        { probing with inbox := rest, loop := loop }
  | .hangUp =>
    match probing.phase, probing.inbox with
    | .done _, [] => (probing.loop.step (.read (.error .transportClosed) "")).map fun loop =>
        { probing with loop := loop }
    | _, _ => none
  | .own (.read _ _) | .own (.wire _) => none
  | .own label => (probing.loop.step label).map fun loop => { probing with loop := loop }

variable {probe : Probe} {probing next : Probing C}

theorem read_taken (taken : probing.step probe .read = some next) :
    ∃ message phase, probing.loop.shared.written[probing.heard]? = some message ∧
      probe.step probing.phase (.read (.ok message)) = some phase ∧
      next = { probing with phase := phase, heard := probing.heard + 1 } := by
  simp only [step] at taken
  split at taken
  · cases taken
  · rename_i message said
    obtain ⟨phase,heard,same⟩ := Option.map_eq_some_iff.mp taken
    exact ⟨message,phase,said,heard,same.symm⟩

theorem hangUp_taken (taken : probing.step probe .hangUp = some next) :
    ∃ loop, (∃ result, probing.phase = .done result) ∧ probing.inbox = [] ∧
      probing.loop.step (.read (.error .transportClosed) "") = some loop ∧
      next = { probing with loop := loop } := by
  simp only [step] at taken
  split at taken
  · rename_i result done empty
    obtain ⟨loop,took,same⟩ := Option.map_eq_some_iff.mp taken
    exact ⟨loop,⟨result,done⟩,empty,took,same.symm⟩
  · cases taken

/-- The steps that get the session on; the clock alone does not. -/
def onward : ProbingLabel → Bool
  | .own (.clock _ _) => false
  | _ => true

end Probing

/-! ## The server's loop -/

namespace ServerLoop

/-- The loop of a connection on which nothing else goes on. -/
structure Quiet (loop : ServerLoop C) (server : Server C) (mode : LoopMode C)
    (written : List JsonRpcMessage) : Prop where
  server : loop.server = server
  mode : loop.mode = mode
  written : loop.shared.written = written
  drained : loop.shared.broker.deferred = []
  workers : loop.workers = []
  working : loop.shared.writeFailure = none

variable {loop next : ServerLoop C} {server : Server C} {mode : LoopMode C}
  {written : List JsonRpcMessage} {label : LoopLabel}

theorem start_quiet (server : Server C) (context : C) (store : TaskStore) (now : SystemTime)
    (instant : Nat) : (start server context store now instant).Quiet server .idle [] :=
  ⟨rfl,rfl,rfl,rfl,rfl,rfl⟩

/-- The reads of an idle loop go to its main loop. -/
theorem Quiet.read (quiet : loop.Quiet server .idle written)
    (event : Except McpError JsonRpcMessage) (freshId : String) :
    loop.step (.read event freshId) = some (loop.readMain event freshId) := by
  simp [step,readStep,quiet.mode,quiet.drained]

/-- A request whose dispatch is ready leaves the loop replying. -/
theorem Quiet.dispatched (quiet : loop.Quiet server .idle written) {request : JsonRpcRequest}
    {after : Server C} {outcome : Except McpError Json}
    (ready : ∀ around, server.dispatchRequest around request = (after,around.store,.ready outcome))
    (freshId : String) :
    (loop.readMain (.ok (.request request)) freshId).Quiet after (.replying request.id outcome)
      written := by
  have same : ∀ around, loop.server.dispatchRequest around request =
      (after,around.store,.ready outcome) := by
    rw [quiet.server]
    exact ready
  have dispatched := @dispatch_ready _ loop request after loop.shared.broker outcome same freshId
  have alike : loop.withBroker loop.shared.broker = loop := rfl
  rw [alike] at dispatched
  simp only [readMain,handleMessage,dispatched]
  exact ⟨rfl,rfl,quiet.written,quiet.drained,quiet.workers,quiet.working⟩

/-- A notification that withdraws nothing changes nothing. -/
theorem Quiet.notified (quiet : loop.Quiet server .idle written)
    {notification : JsonRpcNotification} (other : cancelledRequestId notification = none)
    (freshId : String) :
    (loop.readMain (.ok (.notification notification)) freshId).Quiet server .idle written := by
  simp only [readMain,handleMessage,RequestBroker.handleNotification,other]
  exact quiet

theorem Quiet.closed (quiet : loop.Quiet server .idle written) (freshId : String) :
    (loop.readMain (.error .transportClosed) freshId).Quiet server (.stopped (.ok ())) written :=
  ⟨quiet.server,rfl,quiet.written,quiet.drained,quiet.workers,quiet.working⟩

theorem Quiet.replies {id : RequestId} {outcome : Except McpError Json}
    (quiet : loop.Quiet server (.replying id outcome) written) :
    ∃ next, loop.step .reply = some next ∧
      next.Quiet server .idle (written ++ [Server.respond id outcome]) := by
  simp only [step,quiet.mode,writeMessage,Shared.write,quiet.working]
  exact ⟨_,rfl,quiet.server,rfl,by rw [← quiet.written]; rfl,quiet.drained,
    by simp [thenIdle,goto,releaseTaskWorkers,withShared,quiet.workers],rfl⟩

/-- The loop is where it answers nobody, or about to answer. -/
def Settled : LoopMode C → Prop
  | .idle | .replying _ _ | .stopped _ => True
  | _ => False

/-- By itself such a loop only replies. -/
theorem Quiet.own (quiet : loop.Quiet server mode written) (settled : Settled mode)
    (taken : loop.step label = some next) (unread : ∀ event freshId, label ≠ .read event freshId)
    (wired : ∀ failure, label ≠ .wire failure) :
    (∃ now elapsed, label = .clock now elapsed) ∧ next.Quiet server mode written ∨
      label = .reply ∧ ∃ id outcome, mode = .replying id outcome ∧
        next.Quiet server .idle (written ++ [Server.respond id outcome]) := by
  cases step_taken taken with
  | readMain | readPump | readAsking => exact (unread _ _ rfl).elim
  | replay idle queued =>
    simp [RequestBroker.nextDeferred,quiet.drained] at queued
  | pumpLook here | blockedLook here | askLook here | run here | launch here =>
    rw [quiet.mode] at here
    rw [here] at settled
    exact settled.elim
  | @reply id outcome replying =>
    rw [quiet.mode] at replying
    subst replying
    obtain ⟨other,same,after⟩ := quiet.replies
    rw [taken,Option.some.injEq] at same
    subst same
    exact .inr ⟨rfl,id,outcome,rfl,after⟩
  | work there =>
    rw [quiet.workers] at there
    cases there
  | clock now elapsed =>
    exact .inl ⟨⟨now,elapsed,rfl⟩,quiet.server,quiet.mode,quiet.written,quiet.drained,quiet.workers,
      quiet.working⟩
  | wire failure => exact (wired failure rfl).elim

end ServerLoop

/-! ## The session -/

/-- How far the two have come. After `told` the server may read before or after the probe
writes on. -/
inductive Spot where
  | arming | greeting | asked | shaking | answered | notifying | told | pinging | both | pinged
  | ponging | ponged | found | closed

def Spot.left : Spot → Nat
  | .arming => 12
  | .greeting => 11
  | .asked => 10
  | .shaking => 9
  | .answered => 8
  | .notifying => 7
  | .told => 6
  | .pinging | .both => 5
  | .pinged => 4
  | .ponging => 3
  | .ponged => 2
  | .found => 1
  | .closed => 0

def Spot.inbox : Spot → List JsonRpcMessage
  | .asked => [.request Probe.initializeRequest]
  | .told => [.notification Probe.initializedNotification]
  | .both => [.notification Probe.initializedNotification,.request Probe.pingRequest]
  | .pinged => [.request Probe.pingRequest]
  | _ => []

def Spot.heard : Spot → Nat
  | .arming | .greeting | .asked | .shaking | .answered => 0
  | .found | .closed => 2
  | _ => 1

/-- A probe and a server that greets it. -/
structure Meeting (C : Type) where
  probe : Probe
  server : Server C
  greeted : Server C
  handshake : Json
  greets : ∀ around, server.dispatchRequest around Probe.initializeRequest =
    (greeted,around.store,.ready (.ok handshake))

namespace Meeting

section

variable (meeting : Meeting C)

def phase : Spot → ProbePhase
  | .arming => .arming
  | .greeting => .greeting
  | .asked | .shaking | .answered => .awaitingHandshake
  | .notifying => .notifying meeting.handshake
  | .told | .pinging => .pinging meeting.handshake
  | .both | .pinged | .ponging | .ponged => .awaitingPong meeting.handshake
  | .found | .closed => .done (.ok (meeting.probe.report meeting.handshake))

def serverAt : Spot → Server C
  | .arming | .greeting | .asked => meeting.server
  | _ => meeting.greeted

def mode : Spot → LoopMode C
  | .shaking => .replying Probe.initializeRequest.id (.ok meeting.handshake)
  | .ponging => .replying Probe.pingRequest.id (.ok (.obj []))
  | .closed => .stopped (.ok ())
  | _ => .idle

def written : Spot → List JsonRpcMessage
  | .arming | .greeting | .asked | .shaking => []
  | .ponged | .found | .closed =>
    [Server.respond Probe.initializeRequest.id (.ok meeting.handshake),
      Server.respond Probe.pingRequest.id (.ok (.obj []))]
  | _ => [Server.respond Probe.initializeRequest.id (.ok meeting.handshake)]

structure At (spot : Spot) (probing : Probing C) : Prop where
  phase : probing.phase = meeting.phase spot
  inbox : probing.inbox = spot.inbox
  heard : probing.heard = spot.heard
  quiet : probing.loop.Quiet (meeting.serverAt spot) (meeting.mode spot) (meeting.written spot)

end

variable {meeting : Meeting C} {spot : Spot} {probing next : Probing C} {label : ProbingLabel}

theorem mode_settled (spot : Spot) : ServerLoop.Settled (meeting.mode spot) := by
  cases spot <;> trivial

theorem initialized_withdraws_nothing :
    cancelledRequestId Probe.initializedNotification = none := by
  decide

/-- What the session comes to when the server reads the next message. -/
theorem At.served (here : meeting.At spot probing) {freshId : String}
    (taken : probing.step meeting.probe (.serve freshId) = some next) :
    ∃ later : Spot, later.left + 1 = spot.left ∧ meeting.At later next := by
  obtain ⟨phase,inbox,loop,heard⟩ := probing
  obtain ⟨phase_,inbox_,heard_,quiet⟩ := here
  dsimp only at phase_ inbox_ heard_
  subst phase_ inbox_ heard_
  have reads {message : JsonRpcMessage} {rest : List JsonRpcMessage}
      (waiting : spot.inbox = message :: rest) (idle : meeting.mode spot = .idle) :
      next = ⟨meeting.phase spot,rest,loop.readMain (.ok message) freshId,spot.heard⟩ := by
    simp only [Probing.step,waiting] at taken
    rw [idle] at quiet
    rw [quiet.read,Option.map_some,Option.some.injEq] at taken
    exact taken.symm
  have told := initialized_withdraws_nothing
  have pongs := fun around => @Server.ping_dispatch C meeting.greeted around Probe.pingRequest rfl
  cases spot with
  | asked =>
    rw [reads rfl rfl]
    exact ⟨.shaking,rfl,rfl,rfl,rfl,quiet.dispatched meeting.greets freshId⟩
  | told =>
    rw [reads rfl rfl]
    exact ⟨.pinging,rfl,rfl,rfl,rfl,quiet.notified told freshId⟩
  | both =>
    rw [reads rfl rfl]
    exact ⟨.pinged,rfl,rfl,rfl,rfl,quiet.notified told freshId⟩
  | pinged =>
    rw [reads rfl rfl]
    exact ⟨.ponging,rfl,rfl,rfl,rfl,quiet.dispatched pongs freshId⟩
  | _ => cases taken

/-- Nor does the server's loop get anywhere by itself but by its replies. -/
theorem At.own (here : meeting.At spot probing) {label : LoopLabel}
    (taken : probing.step meeting.probe (.own label) = some next) :
    Probing.onward (.own label) = false ∧ meeting.At spot next ∨
      Probing.onward (.own label) = true ∧
        ∃ later : Spot, later.left + 1 = spot.left ∧ meeting.At later next := by
  obtain ⟨phase,inbox,heard,quiet⟩ := here
  obtain ⟨loop,took,rfl⟩ : ∃ loop, probing.loop.step label = some loop ∧
      next = { probing with loop := loop } := by
    cases label with
    | read | wire => cases taken
    | clock => exact ⟨_,rfl,(Option.some.inj taken).symm⟩
    | _ =>
      obtain ⟨loop,took,same⟩ := Option.map_eq_some_iff.mp taken
      exact ⟨loop,took,same.symm⟩
  have unread : ∀ event freshId, label ≠ .read event freshId := by
    rintro event freshId rfl
    cases taken
  have unwired : ∀ failure, label ≠ .wire failure := by
    rintro failure rfl
    cases taken
  rcases quiet.own (mode_settled spot) took unread unwired with
    ⟨⟨now,elapsed,rfl⟩,after⟩ | ⟨rfl,id,outcome,replying,after⟩
  · exact .inl ⟨rfl,phase,inbox,heard,after⟩
  · refine .inr ⟨rfl,?_⟩
    cases spot <;> cases replying
    · exact ⟨.answered,rfl,phase,inbox,heard,after⟩
    · exact ⟨.ponged,rfl,phase,inbox,heard,after⟩

/-- A step gets the session to a next spot, or is of the clock. -/
theorem At.step (here : meeting.At spot probing)
    (taken : probing.step meeting.probe label = some next) :
    Probing.onward label = false ∧ meeting.At spot next ∨
      Probing.onward label = true ∧
        ∃ later : Spot, later.left + 1 = spot.left ∧ meeting.At later next := by
  cases label with
  | serve freshId => exact .inr ⟨rfl,here.served taken⟩
  | own label => exact here.own taken
  | arm =>
    obtain ⟨phase,inbox,loop,heard⟩ := probing
    obtain ⟨rfl,rfl,rfl,quiet⟩ := here
    cases spot <;> cases taken
    exact .inr ⟨rfl,.greeting,rfl,rfl,rfl,rfl,quiet⟩
  | write =>
    obtain ⟨phase,inbox,loop,heard⟩ := probing
    obtain ⟨rfl,rfl,rfl,quiet⟩ := here
    refine .inr ⟨rfl,?_⟩
    cases spot <;> cases taken
    · exact ⟨.asked,rfl,rfl,rfl,rfl,quiet⟩
    · exact ⟨.told,rfl,rfl,rfl,rfl,quiet⟩
    · exact ⟨.both,rfl,rfl,rfl,rfl,quiet⟩
    · exact ⟨.pinged,rfl,rfl,rfl,rfl,quiet⟩
  | read =>
    obtain ⟨message,phase,said,heard,rfl⟩ := Probing.read_taken taken
    obtain ⟨phase_,inbox_,heard_,quiet⟩ := here
    rw [quiet.written,heard_] at said
    rw [phase_] at heard
    refine .inr ⟨rfl,?_⟩
    cases spot <;> cases said <;> cases heard
    · exact ⟨.notifying,rfl,rfl,inbox_,congrArg (· + 1) heard_,quiet⟩
    · exact ⟨.found,rfl,rfl,inbox_,congrArg (· + 1) heard_,quiet⟩
  | hangUp =>
    obtain ⟨loop,done,empty,took,rfl⟩ := Probing.hangUp_taken taken
    obtain ⟨phase_,inbox_,heard_,quiet⟩ := here
    refine .inr ⟨rfl,?_⟩
    rw [phase_] at done
    cases spot with
    | found =>
      rw [quiet.read,Option.some.injEq] at took
      rw [← took]
      exact ⟨.closed,rfl,phase_,inbox_,heard_,quiet.closed ""⟩
    | closed =>
      simp only [ServerLoop.step,ServerLoop.readStep,quiet.mode,Meeting.mode] at took
      cases took
    | _ =>
      obtain ⟨_,same⟩ := done
      cases same

/-- Nowhere but at its end is the session stuck. -/
theorem At.enabled (here : meeting.At spot probing) (begun : spot.left ≠ 0) :
    ∃ label, Probing.onward label = true ∧
      (probing.step meeting.probe label).isSome = true := by
  obtain ⟨phase,inbox,loop,heard⟩ := probing
  obtain ⟨rfl,rfl,rfl,quiet⟩ := here
  have writes := quiet.written
  dsimp only at quiet writes
  cases spot with
  | arming => exact ⟨.arm,rfl,rfl⟩
  | greeting | notifying | told | pinging => exact ⟨.write,rfl,rfl⟩
  | asked | both | pinged =>
    refine ⟨.serve "",rfl,?_⟩
    simp [Probing.step,Spot.inbox,quiet.read]
  | shaking | ponging =>
    obtain ⟨next,took,_⟩ := quiet.replies
    refine ⟨.own .reply,rfl,?_⟩
    simp [Probing.step,took]
  | answered | ponged =>
    refine ⟨.read,rfl,?_⟩
    simp only [Probing.step,writes]
    rfl
  | found =>
    refine ⟨.hangUp,rfl,?_⟩
    simp only [Probing.step,Spot.inbox,quiet.read,Option.map_some]
    rfl
  | closed => exact (begun rfl).elim

/-- In any run the onward steps are as many as the session has got on. -/
theorem At.run (here : meeting.At spot probing) {labels : List ProbingLabel}
    (run : Runs.execute (Probing.step meeting.probe) probing labels = some next) :
    ∃ later : Spot, later.left + labels.countP Probing.onward = spot.left ∧
      meeting.At later next := by
  induction labels generalizing spot probing with
  | nil =>
    cases run
    exact ⟨spot,rfl,here⟩
  | cons label rest ih =>
    rw [Runs.execute_cons,Option.bind_eq_some_iff] at run
    obtain ⟨between,taken,onward⟩ := run
    rw [List.countP_cons]
    rcases here.step taken with ⟨idle,still⟩ | ⟨moved,later,closer,there⟩
    · obtain ⟨last,count,ended⟩ := ih still onward
      exact ⟨last,by simpa [idle] using count,ended⟩
    · obtain ⟨last,count,ended⟩ := ih there onward
      exact ⟨last,by simp only [moved,if_true]; omega,ended⟩

end Meeting

/-- A server nobody has greeted takes the probe's `initialize`, and says who it is. -/
theorem Server.greets_probe {server : Server C} (fresh : server.initialized = false) :
    ∃ greeted version, greeted.config = server.config ∧ ∀ around : Surroundings,
      server.dispatchRequest around Probe.initializeRequest =
        (greeted,around.store,.ready (.ok (greeted.initializeResult version))) := by
  have passed : server.checkInitialized "initialize" = .ok () := by
    rw [checkInitialized_handshake,fresh,Bool.and_false]
    rfl
  have method : Probe.initializeRequest.method = "initialize" := rfl
  obtain ⟨params,read⟩ : ∃ params, initializeParams Probe.initializeRequest = .ok params :=
    ⟨_,rfl⟩
  let version := negotiate server.config params.protocolVersion
  let greeted : Server C := { server with
    clientCapabilities := params.capabilities
    initialized := true
    negotiatedVersion := some version }
  refine ⟨greeted,version,rfl,?_⟩
  intro around
  simp only [dispatchRequest,method,passed,handleInitialize,read]
  rfl

namespace Probe

/-- The report names the server as its configuration does. -/
theorem report_of_greeted (probe : Probe) (server : Server C) (version : String) :
    probe.report (server.initializeResult version) =
      ⟨probe.addr.text,server.config.name,server.config.version⟩ := by
  have info : memberOf (server.initializeResult version) "serverInfo" =
      server.serverInfo.toJson := by
    simp only [memberOf,Server.initializeResult,Json.asObject,Option.bind_some]
    rw [JsonMap.lookup_ofMembers (by simp)]
    rfl
  have named : memberOf server.serverInfo.toJson "name" = .str server.config.name := by
    simp only [memberOf,Implementation.toJson,Json.asObject,Option.bind_some]
    rw [JsonMap.lookup_ofMembers (by simp)]
    rfl
  have versioned : memberOf server.serverInfo.toJson "version" = .str server.config.version := by
    simp only [memberOf,Implementation.toJson,Json.asObject,Option.bind_some]
    rw [JsonMap.lookup_ofMembers (by simp)]
    rfl
  simp only [report,info,named,versioned]
  rfl

end Probe

/-- However the probe and a server nobody has greeted take turns, twelve steps end the session
and short of them it is not stuck. Then the probe has found the server healthy, under the name
and version it is configured with, and the server's loop has ended in order. -/
theorem Probing.probe_accepts {probe : Probe} {server : Server C} {context : C}
    {store : TaskStore} {now : SystemTime} {instant : Nat} (fresh : server.initialized = false)
    {labels : List ProbingLabel} {final : Probing C}
    (run : Runs.execute (Probing.step probe)
      (Probing.start server context store now instant) labels = some final) :
    labels.countP onward ≤ 12 ∧
      (labels.countP onward < 12 →
        ∃ label, onward label = true ∧ (final.step probe label).isSome = true) ∧
      (labels.countP onward = 12 →
        final.phase = .done (.ok
          ⟨probe.addr.text,server.config.name,server.config.version⟩) ∧
        final.loop.mode = .stopped (.ok ())) := by
  obtain ⟨greeted,version,config,greets⟩ := Server.greets_probe fresh
  let meeting : Meeting C := ⟨probe,server,greeted,greeted.initializeResult version,greets⟩
  have begun : meeting.At .arming (start server context store now instant) :=
    ⟨rfl,rfl,rfl,ServerLoop.start_quiet server context store now instant⟩
  obtain ⟨spot,count,here⟩ := begun.run run
  have whole : Spot.left .arming = 12 := rfl
  refine ⟨by omega,fun short => here.enabled (by omega),fun all => ?_⟩
  have ended : spot.left = 0 := by omega
  cases spot with
  | closed =>
    have found := Probe.report_of_greeted probe greeted version
    rw [config] at found
    rw [here.phase,here.quiet.mode]
    exact ⟨congrArg (fun report => ProbePhase.done (.ok report)) found,rfl⟩
  | _ => cases ended

namespace Probing

def vega : RemoteAddr := ⟨"vega:7077",by rfl⟩

/-- The probe asks on before the server has read what it was told. -/
def wholeSession : List ProbingLabel :=
  [.arm,.write,.serve "",.own .reply,.read,.write,.write,.serve "",.serve "",.own .reply,.read,
    .hangUp]

theorem probe_accepts_vega :
    ∃ final, Runs.execute (step ⟨vega,fun _ => ""⟩)
        (start (Server.new (ServerConfig.default "0.7.3" ⟨id,some⟩)) () (.new .default) 0 0)
        wholeSession = some final ∧
      final.phase = .done (.ok ⟨"vega:7077","sml_mcps","0.7.3"⟩) ∧
      final.loop.mode = .stopped (.ok ()) := by
  refine ⟨_,rfl,?_⟩
  have accepts := @probe_accepts Unit ⟨vega,fun _ => ""⟩
    (Server.new (ServerConfig.default "0.7.3" ⟨id,some⟩)) () (.new .default) 0 0 rfl wholeSession _
    rfl
  exact accepts.2.2 rfl

end Probing

end SmlMcps
