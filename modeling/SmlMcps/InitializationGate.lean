import SmlMcps.LoopThreads
import SmlMcps.Connection

/-! The initialization gate. With `requireInitialization` a server refuses everything but
`initialize` and `ping` before the handshake, and a second `initialize` after it, in the
main loop and in the pump of a `tasks/result` alike. -/
namespace SmlMcps

variable {C : Type}

/-! ## One dispatch -/

/-- The methods that are let through before the handshake. -/
def exempt (method : String) : Bool := method == "initialize" || method == "ping"

namespace Server

variable {server : Server C}

/-- The dispatch is over, with an error, and has changed nothing. -/
def Refuses (server : Server C) (request : JsonRpcRequest) : Prop :=
  ∃ problem, ∀ around : Surroundings,
    server.dispatchRequest around request = (server,around.store,.ready (.error problem))

theorem checkInitialized_shut (required : server.config.requireInitialization = true)
    (shut : server.initialized = false) {method : String} (other : exempt method = false) :
    server.checkInitialized method =
      .error (.invalidMessage ("`" ++ method ++ "` before `initialize`")) := by
  simp only [exempt,Bool.or_eq_false_iff,beq_eq_false_iff_ne] at other
  simp [checkInitialized,required,shut,other.1,other.2]

theorem refuses_of_check {request : JsonRpcRequest} {problem : McpError}
    (checked : server.checkInitialized request.method = .error problem) :
    server.Refuses request :=
  ⟨problem,fun around => by simp only [dispatchRequest,checked]⟩

theorem shut_refuses (required : server.config.requireInitialization = true)
    (shut : server.initialized = false) {request : JsonRpcRequest}
    (other : exempt request.method = false) : server.Refuses request :=
  refuses_of_check (checkInitialized_shut required shut other)

theorem again_refuses (required : server.config.requireInitialization = true)
    (greeted : server.initialized = true) {request : JsonRpcRequest}
    (method : request.method = "initialize") : server.Refuses request := by
  have refused : server.checkInitialized request.method = .error (.invalidMessage
      "already initialized; the handshake happens once per session") := by
    rw [method,checkInitialized_handshake,required,greeted]
    rfl
  exact refuses_of_check refused

/-- The first `initialize` succeeds, or it changes nothing. -/
theorem first_initialize (shut : server.initialized = false) {request : JsonRpcRequest}
    (method : request.method = "initialize") :
    server.Refuses request ∨ ∃ after result, after.initialized = true ∧
      after.config = server.config ∧ ∀ around : Surroundings,
      server.dispatchRequest around request = (after,around.store,.ready (.ok result)) := by
  have passed : server.checkInitialized "initialize" = .ok () := by
    rw [checkInitialized_handshake,shut,Bool.and_false]
    rfl
  cases read : initializeParams request with
  | error problem =>
    refine .inl ⟨problem,?_⟩
    intro around
    simp only [dispatchRequest,method,passed,handleInitialize,read]
  | ok params =>
    let version := negotiate server.config params.protocolVersion
    let greeted : Server C := { server with
      clientCapabilities := params.capabilities
      initialized := true
      negotiatedVersion := some version }
    refine .inr ⟨greeted,greeted.initializeResult version,rfl,rfl,?_⟩
    intro around
    simp only [dispatchRequest,method,passed,handleInitialize,read]
    rfl

theorem ping_dispatch (around : Surroundings) {request : JsonRpcRequest}
    (method : request.method = "ping") :
    server.dispatchRequest around request = (server,around.store,.ready (.ok (.obj []))) := by
  have passed : server.checkInitialized "ping" = .ok () := by simp [checkInitialized]
  simp only [dispatchRequest,method,passed,handlePing]

end Server

/-! ## The loop -/

namespace ServerLoop

variable {loop next : ServerLoop C} {label : LoopLabel}

/-- The request a step takes up: read or replayed by the main loop, or answered by the
pump without leaving its wait. -/
def takes (loop : ServerLoop C) : LoopLabel → Option JsonRpcRequest
  | .read (.ok (.request request)) _ =>
    match loop.mode with
    | .idle => some request
    | .pumping _ _ _ => if Server.inlineMethod request.method then some request else none
    | _ => none
  | .replay _ =>
    match loop.shared.broker.nextDeferred with
    | (_,some (.request request)) => some request
    | _ => none
  | _ => none

/-- The main loop is left with the outcome to reply; the pump has tried to write it. -/
def Answers (loop next : ServerLoop C) (request : JsonRpcRequest)
    (outcome : Except McpError Json) : Prop :=
  match loop.mode with
  | .pumping _ _ _ => next.shared.written =
      (loop.shared.write (Server.respond request.id outcome)).1.written
  | _ => next.mode = .replying request.id outcome

/-- The server, the tool's context and the tasks are as they were, and no thread more. -/
structure Untouched (loop next : ServerLoop C) : Prop where
  server : next.server = loop.server
  context : next.context = loop.context
  store : next.shared.store = loop.shared.store
  workers : next.workers.length = loop.workers.length

/-- The request is answered with an error, and that is all. -/
def Refused (loop next : ServerLoop C) (request : JsonRpcRequest) : Prop :=
  Untouched loop next ∧ ∃ problem, Answers loop next request (.error problem)

/-! ### The two readers -/

/-- A request of the main loop is dispatched; one of the pump is answered inline. -/
theorem takes_cases {request : JsonRpcRequest} (takes : loop.takes label = some request)
    (taken : loop.step label = some next) :
    (loop.mode = .idle ∧ ∃ broker freshId, next = (loop.withBroker broker).dispatch request freshId) ∨
      ∃ waiting taskId freshId, loop.mode = .pumping waiting taskId true ∧
        Server.inlineMethod request.method = true ∧
        next = loop.readPump waiting taskId (.ok (.request request)) freshId := by
  cases label with
  | read event freshId =>
    rcases event with _ | (arrived | _ | _)
    · cases takes
    · simp only [ServerLoop.takes] at takes
      simp only [step,readStep] at taken
      split at takes
      · rename_i idle
        cases takes
        rw [idle] at taken
        simp only at taken
        split at taken
        · cases taken
          exact .inl ⟨idle,loop.shared.broker,freshId,rfl⟩
        · cases taken
      · rename_i waiting taskId reading pumping
        split at takes
        · rename_i inline_
          cases takes
          rw [pumping] at taken
          cases reading with
          | true =>
            cases taken
            exact .inr ⟨waiting,taskId,freshId,pumping,inline_,rfl⟩
          | false => cases taken
        · cases takes
      · cases takes
    · cases takes
    · cases takes
  | replay freshId =>
    simp only [ServerLoop.takes] at takes
    simp only [step] at taken
    split at takes
    · rename_i broker arrived found
      cases takes
      split at taken
      · rename_i idle again
        rw [found] at again
        cases again
        cases taken
        exact .inl ⟨idle,broker,freshId,rfl⟩
      · cases taken
    · cases takes
  | _ => cases takes

theorem dispatch_ready {request : JsonRpcRequest} {server : Server C} {broker : RequestBroker}
    {outcome : Except McpError Json}
    (over_ : ∀ around, loop.server.dispatchRequest around request =
      (server,around.store,.ready outcome)) (freshId : String) :
    (loop.withBroker broker).dispatch request freshId =
      { (loop.withBroker broker) with server := server, mode := .replying request.id outcome } := by
  have same (around : Server.Surroundings) :
      (loop.withBroker broker).server.dispatchRequest around request =
        (server,around.store,.ready outcome) := over_ around
  simp only [dispatch,same]
  rfl

/-- In the main loop. -/
theorem dispatch_refused {request : JsonRpcRequest} (refuses : loop.server.Refuses request)
    (idle : loop.mode = .idle) (broker : RequestBroker) (freshId : String) :
    Refused loop ((loop.withBroker broker).dispatch request freshId) request := by
  obtain ⟨problem,refused⟩ := refuses
  rw [dispatch_ready refused]
  refine ⟨⟨rfl,rfl,rfl,rfl⟩,problem,?_⟩
  simp only [Answers,idle]

theorem writeMessage_untouched (loop : ServerLoop C) (message : JsonRpcMessage) :
    Untouched loop (loop.writeMessage message).1 := by
  refine ⟨rfl,rfl,Shared.write_store _ _,?_⟩
  simp [writeMessage,releaseTaskWorkers,withShared]

theorem thenPump_shared (request : JsonRpcRequest) (taskId : String)
    (written : ServerLoop C × Except McpError Unit) :
    (thenPump request taskId written).shared = written.1.shared ∧
      (thenPump request taskId written).server = written.1.server ∧
      (thenPump request taskId written).context = written.1.context ∧
      (thenPump request taskId written).workers = written.1.workers := by
  obtain ⟨after,sent⟩ := written
  cases sent <;> exact ⟨rfl,rfl,rfl,rfl⟩

/-- In the pump, where only `ping` is let through. -/
theorem inline_refused {request waiting : JsonRpcRequest} {taskId : String}
    (pumping : loop.mode = .pumping waiting taskId true)
    (inline_ : Server.inlineMethod request.method = true) {problem : McpError}
    (checked : loop.server.checkInitialized request.method = .error problem) (freshId : String) :
    Refused loop (loop.readPump waiting taskId (.ok (.request request)) freshId) request := by
  have answered : loop.server.answerInline ⟨loop.shared.store,loop.shared.now,freshId⟩ request =
      (loop.shared.store,some (Server.respond request.id (.error problem))) := by
    simp [Server.answerInline,inline_,checked]
  have same : loop.withShared (loop.shared.setStore loop.shared.store) = loop := rfl
  simp only [readPump,answered,same]
  obtain ⟨shared,server,context,workers⟩ := thenPump_shared waiting taskId
    (loop.writeMessage (Server.respond request.id (.error problem)))
  have quiet := writeMessage_untouched loop (Server.respond request.id (.error problem))
  refine ⟨⟨server.trans quiet.server,context.trans quiet.context,?_,?_⟩,problem,?_⟩
  · rw [shared]
    exact quiet.store
  · rw [workers]
    exact quiet.workers
  · simp only [Answers,pumping]
    rw [shared]
    rfl

/-! ### What a step does to the server -/

theorem shedOrDefer_server (loop : ServerLoop C) (message : JsonRpcMessage) :
    (loop.shedOrDefer message).1.server = loop.server := by
  simp only [shedOrDefer]
  split
  · rfl
  · split <;> rfl

theorem shedOrDeferQuietly_server (loop : ServerLoop C) (message : JsonRpcMessage) :
    (loop.shedOrDeferQuietly message).server = loop.server := by
  simp only [shedOrDeferQuietly]
  split
  · rfl
  · split <;> rfl

theorem readPump_server (loop : ServerLoop C) (request : JsonRpcRequest) (taskId : String)
    (event : Except McpError JsonRpcMessage) (freshId : String) :
    (loop.readPump request taskId event freshId).server = loop.server := by
  have written (pair : ServerLoop C × Except McpError Unit) :=
    (thenPump_shared request taskId pair).2.1
  simp only [readPump]
  split
  · rfl
  · split
    · exact written _
    · rfl
  · rfl
  · split
    · exact written _
    · exact (written _).trans (shedOrDefer_server loop _)
  · exact (written _).trans (shedOrDefer_server loop _)

theorem readAsking_server (loop : ServerLoop C) (request : JsonRpcRequest) (call : ToolCall C)
    (question : Question) (further : Except McpError Json → ToolProg C)
    (event : Except McpError JsonRpcMessage) :
    (loop.readAsking request call question further event).server = loop.server := by
  simp only [readAsking]
  split
  · rfl
  · split <;> rfl
  · split
    · rfl
    · exact shedOrDeferQuietly_server loop _

theorem thenIdle_server (written : ServerLoop C × Except McpError Unit) :
    (thenIdle written).server = written.1.server := by
  obtain ⟨after,sent⟩ := written
  cases sent <;> rfl

theorem readMain_server (loop : ServerLoop C) {event : Except McpError JsonRpcMessage}
    (other : ∀ request, event ≠ .ok (.request request)) (freshId : String) :
    (loop.readMain event freshId).server = loop.server := by
  simp only [readMain]
  split
  · rename_i message
    cases message with
    | request arrived => exact (other arrived rfl).elim
    | notification told => rfl
    | response given => rfl
  · rfl
  · rfl
  · split
    · exact thenIdle_server _
    · rfl

theorem pumpLook_server (loop : ServerLoop C) (request : JsonRpcRequest) (taskId : String) :
    (loop.pumpLook request taskId).server = loop.server := by
  simp only [pumpLook]
  split <;> rfl

theorem blockedLook_server (loop : ServerLoop C) (request : JsonRpcRequest) (taskId : String)
    (since : Nat) : (loop.blockedLook request taskId since).server = loop.server := by
  simp only [blockedLook]
  split <;> rfl

theorem askLook_server (loop : ServerLoop C) (request : JsonRpcRequest) (call : ToolCall C)
    (question : Question) (next : Except McpError Json → ToolProg C) :
    (loop.askLook request call question next).server = loop.server := by
  simp only [askLook]
  split
  · rfl
  · split <;> rfl

theorem runTool_server {request : JsonRpcRequest} {call : ToolCall C} {answer : Json}
    {prog : ToolProg C} (taken : loop.runTool request call answer prog = some next) :
    next.server = loop.server := by
  cases prog with
  | request method params timeout further =>
    obtain ⟨broker,id,sent,-,⟨-,rfl⟩ | ⟨e,-,rfl⟩⟩ := runTool_request taken
    · rfl
    · rfl
  | _ =>
    cases taken
    rfl

theorem launchTask_server (loop : ServerLoop C) (request : JsonRpcRequest) (start : TaskStart C)
    (spawnError : Option String) :
    (loop.launchTask request start spawnError).server = loop.server := by
  simp only [launchTask]
  split <;> rfl

/-- Only a dispatch of the main loop touches the server. -/
theorem step_server (taken : loop.step label = some next) : next.server = loop.server ∨
    ∃ request broker freshId, loop.takes label = some request ∧ loop.mode = .idle ∧
      next = (loop.withBroker broker).dispatch request freshId := by
  cases step_taken taken with
  | @readMain event freshId idle drained =>
    by_cases asked : ∃ request, event = .ok (.request request)
    · obtain ⟨request,rfl⟩ := asked
      refine .inr ⟨request,loop.shared.broker,freshId,?_,idle,rfl⟩
      simp only [takes,idle]
    · refine .inl (readMain_server loop ?_ freshId)
      intro request same
      exact asked ⟨request,same⟩
  | readPump => exact .inl (readPump_server loop _ _ _ _)
  | readAsking => exact .inl (readAsking_server loop _ _ _ _ _)
  | @replay freshId broker message idle queued =>
    cases message with
    | request arrived =>
      refine .inr ⟨arrived,broker,freshId,?_,idle,rfl⟩
      simp only [takes,queued]
    | notification told => exact .inl rfl
    | response given => exact .inl rfl
  | pumpLook => exact .inl (pumpLook_server loop _ _)
  | blockedLook => exact .inl (blockedLook_server loop _ _ _)
  | askLook => exact .inl (askLook_server loop _ _ _ _)
  | run running ran => exact .inl (runTool_server ran)
  | launch => exact .inl (launchTask_server loop _ _ _)
  | reply => exact .inl (thenIdle_server _)
  | work | clock | wire => exact .inl rfl

/-! ### The gate in one step -/

/-- What one step does about the gate, in any state of the loop. -/
structure Gated (loop : ServerLoop C) (label : LoopLabel) (next : ServerLoop C) : Prop where
  shut : loop.server.initialized = false → ∀ request, loop.takes label = some request →
    exempt request.method = false → Refused loop next request
  first : loop.server.initialized = false → ∀ request, loop.takes label = some request →
    request.method = "initialize" → Refused loop next request ∨
      (next.server.initialized = true ∧ ∃ result, Answers loop next request (.ok result))
  opened : loop.server.initialized = false → next.server.initialized = true →
    ∃ request result, loop.takes label = some request ∧ request.method = "initialize" ∧
      Answers loop next request (.ok result)
  again : loop.server.initialized = true → ∀ request, loop.takes label = some request →
    request.method = "initialize" → Refused loop next request
  kept : loop.server.initialized = true → next.server.initialized = true ∧
    next.server.negotiatedVersion = loop.server.negotiatedVersion ∧
    next.server.clientCapabilities = loop.server.clientCapabilities

theorem inline_not_handshake {method : String} (inline_ : Server.inlineMethod method = true) :
    method ≠ "initialize" := by
  rintro rfl
  exact absurd inline_ (by decide)

/-- After an `initialize` of the main loop: refused, or accepted. -/
theorem first_dispatch {request : JsonRpcRequest} (shut : loop.server.initialized = false)
    (method : request.method = "initialize") (idle : loop.mode = .idle) (broker : RequestBroker)
    (freshId : String) :
    Refused loop ((loop.withBroker broker).dispatch request freshId) request ∨
      (((loop.withBroker broker).dispatch request freshId).server.initialized = true ∧
        ∃ result, Answers loop ((loop.withBroker broker).dispatch request freshId) request
          (.ok result)) := by
  rcases Server.first_initialize shut method with refuses | ⟨after,result,greeted,_,dispatched⟩
  · exact .inl (dispatch_refused refuses idle broker freshId)
  · rw [dispatch_ready dispatched]
    refine .inr ⟨greeted,result,?_⟩
    simp only [Answers,idle]

theorem dispatch_server (loop : ServerLoop C) (broker : RequestBroker) (request : JsonRpcRequest)
    (freshId : String) : ((loop.withBroker broker).dispatch request freshId).server =
      loop.server.handled ⟨loop.shared.store,loop.shared.now,freshId⟩ (.request request) := by
  simp only [dispatch]
  split
  · rfl
  · rfl
  · rfl
  · split <;> rfl

/-- A dispatch after the handshake changes at most the log level. -/
theorem dispatch_kept {request : JsonRpcRequest} {broker : RequestBroker} {freshId : String}
    (required : loop.server.config.requireInitialization = true)
    (greeted : loop.server.initialized = true) :
    let next := (loop.withBroker broker).dispatch request freshId
    next.server.initialized = true ∧
      next.server.negotiatedVersion = loop.server.negotiatedVersion ∧
      next.server.clientCapabilities = loop.server.clientCapabilities := by
  simp only [dispatch_server,Server.handled_eq]
  have change : acceptedChange loop.server.config loop.server.initialized (.request request) =
      .none ∨ ∃ level,
      acceptedChange loop.server.config loop.server.initialized (.request request) =
        .level level := by
    simp only [acceptedChange,required,greeted]
    split
    · exact .inl rfl
    · split
      · simp only [Bool.not_true,Bool.and_false,Bool.false_eq_true,if_false]
        split
        · exact .inr ⟨_,rfl⟩
        · exact .inl rfl
      · exact .inl rfl
  rcases change with none_ | ⟨level,leveled⟩
  · rw [none_]
    exact ⟨greeted,rfl,rfl⟩
  · rw [leveled]
    exact ⟨greeted,rfl,rfl⟩

theorem step_gated (required : loop.server.config.requireInitialization = true)
    (taken : loop.step label = some next) : Gated loop label next := by
  constructor
  · intro shut request takes other
    rcases takes_cases takes taken with ⟨idle,broker,freshId,rfl⟩ |
      ⟨waiting,taskId,freshId,pumping,inline_,rfl⟩
    · exact dispatch_refused (Server.shut_refuses required shut other) idle broker freshId
    · exact inline_refused pumping inline_ (Server.checkInitialized_shut required shut other) freshId
  · intro shut request takes method
    rcases takes_cases takes taken with ⟨idle,broker,freshId,rfl⟩ |
      ⟨waiting,taskId,freshId,pumping,inline_,rfl⟩
    · exact first_dispatch shut method idle broker freshId
    · exact (inline_not_handshake inline_ method).elim
  · intro shut opened
    rcases step_server taken with same | ⟨request,broker,freshId,takes,idle,rfl⟩
    · rw [same,shut] at opened
      cases opened
    · by_cases method : request.method = "initialize"
      · rcases first_dispatch shut method idle broker freshId with ⟨quiet,_⟩ | ⟨_,result,answers⟩
        · rw [quiet.server,shut] at opened
          cases opened
        · exact ⟨request,result,takes,method,answers⟩
      · by_cases isPing : request.method = "ping"
        · have dispatched := fun around => @Server.ping_dispatch C loop.server around request isPing
          rw [dispatch_ready dispatched,shut] at opened
          cases opened
        · have other : exempt request.method = false := by simp [exempt,method,isPing]
          have refused := dispatch_refused (Server.shut_refuses required shut other) idle broker
            freshId
          rw [refused.1.server,shut] at opened
          cases opened
  · intro greeted request takes method
    rcases takes_cases takes taken with ⟨idle,broker,freshId,rfl⟩ |
      ⟨waiting,taskId,freshId,pumping,inline_,rfl⟩
    · exact dispatch_refused (Server.again_refuses required greeted method) idle broker freshId
    · exact (inline_not_handshake inline_ method).elim
  · intro greeted
    rcases step_server taken with same | ⟨request,broker,freshId,takes,idle,rfl⟩
    · rw [same]
      exact ⟨greeted,rfl,rfl⟩
    · exact dispatch_kept required greeted

/-! ### Until the handshake -/

/-- Nothing runs, and what is about to be answered is an error or a ping. -/
def quiet : LoopMode C → Prop
  | .idle | .stopped _ | .replying _ (.error _) => True
  | .replying _ (.ok result) => result = .obj []
  | _ => False

/-- A loop nobody has greeted yet: as it started, but for what it read and answered. -/
structure Ungreeted (origin loop : ServerLoop C) : Prop where
  server : loop.server = origin.server
  context : loop.context = origin.context
  store : loop.shared.store = origin.shared.store
  workers : loop.workers = []
  mode : quiet loop.mode
  results : ∀ id result, JsonRpcMessage.answer id result ∈ loop.shared.written → result = .obj []

variable {origin : ServerLoop C}

/-- Another mode, another broker, other clocks. -/
theorem Ungreeted.moved (ungreeted : Ungreeted origin loop) (server : next.server = loop.server)
    (context : next.context = loop.context) (store : next.shared.store = loop.shared.store)
    (workers : next.workers = loop.workers) (written : next.shared.written = loop.shared.written)
    (mode : quiet next.mode) : Ungreeted origin next where
  server := server.trans ungreeted.server
  context := context.trans ungreeted.context
  store := store.trans ungreeted.store
  workers := workers.trans ungreeted.workers
  mode := mode
  results id result member := ungreeted.results id result (written ▸ member)

/-- A write, and what the loop makes of its failure. -/
theorem Ungreeted.write (ungreeted : Ungreeted origin loop) {message : JsonRpcMessage}
    (harmless : ∀ id result, message = .answer id result → result = .obj []) :
    Ungreeted origin (thenIdle (loop.writeMessage message)) := by
  have known : (loop.shared.write message).1.store = loop.shared.store := Shared.write_store _ _
  have wrote : (loop.shared.write message).1.written = loop.shared.written ∨
      (loop.shared.write message).1.written = loop.shared.written ++ [message] := by
    simp only [Shared.write]
    split
    · exact .inl rfl
    · exact .inr rfl
  have workers : (loop.writeMessage message).1.workers = [] := by
    simp only [writeMessage,releaseTaskWorkers,withShared,ungreeted.workers,List.map_nil]
  have results : ∀ id result, JsonRpcMessage.answer id result ∈
      (loop.shared.write message).1.written → result = .obj [] := by
    intro id result member
    rcases wrote with same | grown
    · exact ungreeted.results id result (same ▸ member)
    · rw [grown] at member
      rcases List.mem_append.mp member with old | new
      · exact ungreeted.results id result old
      · exact harmless id result (List.mem_singleton.mp new).symm
  simp only [thenIdle]
  split
  · rename_i after sent
    obtain rfl : (loop.writeMessage message).1 = after := congrArg Prod.fst sent
    exact ⟨ungreeted.server,ungreeted.context,known.trans ungreeted.store,workers,trivial,results⟩
  · rename_i after problem sent
    obtain rfl : (loop.writeMessage message).1 = after := congrArg Prod.fst sent
    exact ⟨ungreeted.server,ungreeted.context,known.trans ungreeted.store,workers,trivial,results⟩

theorem Ungreeted.dispatch (ungreeted : Ungreeted origin loop)
    (required : loop.server.config.requireInitialization = true)
    (shut : loop.server.initialized = false) (request : JsonRpcRequest) (broker : RequestBroker)
    (freshId : String)
    (still : ((loop.withBroker broker).dispatch request freshId).server.initialized = false) :
    Ungreeted origin ((loop.withBroker broker).dispatch request freshId) := by
  have refused (refuses : loop.server.Refuses request) :
      Ungreeted origin ((loop.withBroker broker).dispatch request freshId) := by
    obtain ⟨problem,dispatched⟩ := refuses
    rw [dispatch_ready dispatched]
    exact ungreeted.moved rfl rfl rfl rfl rfl trivial
  by_cases method : request.method = "initialize"
  · rcases Server.first_initialize shut method with refuses | ⟨after,result,greeted,_,dispatched⟩
    · exact refused refuses
    · rw [dispatch_ready dispatched,greeted] at still
      cases still
  · by_cases isPing : request.method = "ping"
    · rw [dispatch_ready fun around => @Server.ping_dispatch C loop.server around request isPing]
      exact ungreeted.moved rfl rfl rfl rfl rfl rfl
    · have other : exempt request.method = false := by simp [exempt,method,isPing]
      exact refused (Server.shut_refuses required shut other)

theorem Ungreeted.message (ungreeted : Ungreeted origin loop)
    (required : loop.server.config.requireInitialization = true)
    (shut : loop.server.initialized = false) (idle : loop.mode = .idle) (message : JsonRpcMessage)
    (broker : RequestBroker) (freshId : String)
    (still : ((loop.withBroker broker).handleMessage message freshId).server.initialized = false) :
    Ungreeted origin ((loop.withBroker broker).handleMessage message freshId) := by
  have mode (after : RequestBroker) : quiet (loop.withBroker after).mode := by
    change quiet loop.mode
    rw [idle]
    trivial
  cases message with
  | request asked => exact ungreeted.dispatch required shut asked broker freshId still
  | notification told => exact ungreeted.moved rfl rfl rfl rfl rfl (mode _)
  | response given => exact ungreeted.moved rfl rfl rfl rfl rfl (mode _)

theorem malformedAnswer_harmless (e : McpError) (id : RequestId) (result : Json)
    (same : malformedAnswer e = .answer id result) : result = .obj [] := by
  cases same

theorem respond_harmless {mode : LoopMode C} {id : RequestId} {outcome : Except McpError Json}
    (replying : mode = .replying id outcome) (harmless : quiet mode) (other : RequestId)
    (result : Json) (same : Server.respond id outcome = .answer other result) :
    result = .obj [] := by
  subst replying
  cases outcome with
  | error problem => cases same
  | ok value =>
    cases same
    exact harmless

theorem step_ungreeted (required : loop.server.config.requireInitialization = true)
    (shut : loop.server.initialized = false) (ungreeted : Ungreeted origin loop)
    (taken : loop.step label = some next) (still : next.server.initialized = false) :
    Ungreeted origin next := by
  have silent := ungreeted.mode
  cases step_taken taken with
  | readMain idle drained =>
    simp only [readMain] at still ⊢
    split
    · exact ungreeted.message required shut idle _ loop.shared.broker _ still
    · exact ungreeted.moved rfl rfl rfl rfl rfl trivial
    · exact ungreeted
    · split
      · exact ungreeted.write (malformedAnswer_harmless _)
      · exact ungreeted.moved rfl rfl rfl rfl rfl trivial
  | replay idle queued => exact ungreeted.message required shut idle _ _ _ still
  -- no other mode of the loop's thread is quiet
  | readPump mode | readAsking mode | pumpLook mode | blockedLook mode | askLook mode
  | run mode | launch mode =>
    rw [mode] at silent
    exact silent.elim
  | reply replying => exact ungreeted.write (respond_harmless replying silent)
  | work there =>
    rw [ungreeted.workers,List.getElem?_nil] at there
    cases there
  | clock | wire => exact ungreeted.moved rfl rfl rfl rfl rfl silent

end ServerLoop

end SmlMcps
