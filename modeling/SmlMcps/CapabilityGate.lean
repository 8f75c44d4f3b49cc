import SmlMcps.InitializationGate
import SmlMcps.Library.Histories
import SmlMcps.ToolEnv

/-! What a server whose tools talk to the client through their environment's methods puts
on the wire. Whatever the interleaving of the loop with its task workers, each request it
writes was allowed by what the client had declared when the very call that writes it was
taken up, and each notification by what the client had asked for then. -/
namespace SmlMcps

variable {C : Type}

/-! ## What may be written -/

/-- What a call may ask of the client, and what it may tell it. -/
structure Rights where
  asks : String → Json → Prop
  tells : String → Option Json → Prop

/-- A message of the server, with what its tools ask and tell. The rest it writes itself:
answers, withdrawn questions and the status of tasks. -/
inductive Voiced (rights : Rights) : JsonRpcMessage → Prop
  | response (given : JsonRpcResponse) : Voiced rights (.response given)
  | asked (id : RequestId) (taskId : Option String) {method : String} {params : Json}
      (asked : rights.asks method params) :
      Voiced rights (.request ⟨id,method,tagWithTask taskId (some params)⟩)
  | told (taskId : Option String) {method : String} {params : Option Json}
      (told : rights.tells method params) :
      Voiced rights (notificationMessage method (tagWithTask taskId params))
  | withdrawn (params : Option Json) :
      Voiced rights (notificationMessage cancelledNotification params)
  | status (params : Option Json) :
      Voiced rights (notificationMessage "notifications/tasks/status" params)

variable {rights : Rights} {others : Nat → Rights}

/-- More was written since, all of it of this kind. -/
def Shared.Adds (said : JsonRpcMessage → Prop) (before after : Shared) : Prop :=
  ∃ more, after.written = before.written ++ more ∧ ∀ message ∈ more, said message

namespace Shared.Adds

variable {said : JsonRpcMessage → Prop} {before after : Shared}

theorem same (written : after.written = before.written) : Adds said before after :=
  ⟨[],by rw [written,List.append_nil],by simp⟩

theorem trans {last : Shared} (first : Adds said before after) (second : Adds said after last) :
    Adds said before last := by
  obtain ⟨older,written,may⟩ := first
  obtain ⟨newer,later,might⟩ := second
  refine ⟨older ++ newer,by rw [later,written,List.append_assoc],?_⟩
  intro message member
  rcases List.mem_append.mp member with old | new
  · exact may message old
  · exact might message new

theorem write (shared : Shared) {message : JsonRpcMessage} (may : said message) :
    Adds said shared (shared.write message).1 := by
  unfold Shared.write
  split
  · exact same rfl
  · exact ⟨[message],rfl,by simpa using may⟩

/-- Whatever follows a write goes on from what the write left. -/
theorem wrote {message : JsonRpcMessage} {sent : Except McpError Unit}
    (wrote : before.write message = (after,sent)) (may : said message) :
    Adds said before after := by
  have same : after = (before.write message).1 := by rw [wrote]
  rw [same]
  exact write before may

theorem afterWait (shared : Shared) (taskId : Option String) (cancelled : Bool)
    (question : Question) (outcome : Except McpError Json) :
    Adds (Voiced rights) shared (shared.afterWait taskId cancelled question outcome) := by
  have giving (reason : String) :
      Adds (Voiced rights) shared (shared.giveUp taskId question.id reason) :=
    (same rfl).trans (write _ (.withdrawn _))
  unfold Shared.afterWait
  split
  · exact giving _
  · split
    · exact giving _
    · exact same rfl
  · exact same rfl

/-- What is new among all that has been written is of this kind. -/
theorem new (adds : Adds said before after) {message : JsonRpcMessage}
    (written : message ∈ after.written.drop before.written.length) : said message := by
  obtain ⟨more,grown,may⟩ := adds
  rw [grown,List.drop_left] at written
  exact may message written

end Shared.Adds

/-! ## Workers -/

/-- Whatever the worker has still to run and to write is of this kind. -/
def Worker.Within (rights : Rights) (worker : Worker C) : Prop :=
  match worker.phase with
  | .gated | .building => ∀ context, (worker.start.call.entry.tool.execute
      worker.start.call.arguments context worker.view).Within rights.asks rights.tells
  | .running prog => prog.Within rights.asks rights.tells
  | .allocated _ request next | .registered _ _ request next =>
    Voiced rights (.request request) ∧ ∀ answer, (next answer).Within rights.asks rights.tells
  | .asking _ _ _ next => ∀ answer, (next answer).Within rights.asks rights.tells
  | .finishing _ _ | .announcing | .ended | .unwound _ => True

namespace Worker

variable {worker next : Worker C} {shared after : Shared} {answer : Json}

theorem runTool_within {prog : ToolProg C} (within : prog.Within rights.asks rights.tells)
    (ran : worker.runTool shared answer prog = some (after,next)) :
    Shared.Adds (Voiced rights) shared after ∧ next.Within rights := by
  cases within with
  | returned | panicked =>
    cases ran
    exact ⟨.same rfl,trivial⟩
  | notify told onward =>
    cases ran
    exact ⟨.write shared (.told _ told),onward _⟩
  | request asked onward =>
    rcases runTool_request ran with ⟨broker,id,-,-,rfl,rfl⟩ | ⟨-,rfl,rfl⟩
    · exact ⟨.same rfl,.asked id _ asked,onward⟩
    · exact ⟨.same rfl,onward _⟩
  | checkCancelled onward | observe onward =>
    cases ran
    exact ⟨.same rfl,onward _⟩

theorem settle_within {continue_ : Except McpError Json → ToolProg C}
    (onward : ∀ answer, (continue_ answer).Within rights.asks rights.tells) (question : Question)
    (outcome : Except McpError Json) :
    Shared.Adds (Voiced rights) shared
      (worker.settle shared question continue_ outcome).1 ∧
      (worker.settle shared question continue_ outcome).2.Within rights :=
  ⟨.trans (.same rfl) (.afterWait (worker.setTaskStatus shared .working) _ _ _ _),onward outcome⟩

theorem await_within {continue_ : Except McpError Json → ToolProg C}
    (onward : ∀ answer, (continue_ answer).Within rights.asks rights.tells) (question : Question)
    (channel : Nat) (receiving : Bool) :
    Shared.Adds (Voiced rights) shared
      (worker.await shared question channel receiving continue_).1 ∧
      (worker.await shared question channel receiving continue_).2.Within rights := by
  unfold await
  split
  · split
    · exact settle_within onward question _
    · split
      · exact settle_within onward question _
      · exact ⟨.same rfl,onward⟩
  · split
    · exact settle_within onward question _
    · exact settle_within onward question _
    · exact ⟨.same rfl,onward⟩

theorem announce_adds (worker : Worker C) (shared : Shared) :
    Shared.Adds (Voiced rights) shared (worker.announce shared) := by
  unfold announce
  split
  · exact .trans (.same rfl) (.write _ (.status _))
  · exact .same rfl

theorem step_within (within : worker.Within rights)
    (taken : worker.step shared answer = some (after,next)) :
    Shared.Adds (Voiced rights) shared after ∧ next.Within rights := by
  cases step_taken taken with
  | gated gated opens =>
    simp only [Worker.Within,gated] at within
    exact ⟨.same rfl,within⟩
  | unwound building panics => exact ⟨.same rfl,trivial⟩
  | built building made =>
    simp only [Worker.Within,building] at within
    exact ⟨.same rfl,within _⟩
  | running running ran =>
    simp only [Worker.Within,running] at within
    exact runTool_within within ran
  | allocated allocated =>
    simp only [Worker.Within,allocated] at within
    exact ⟨.same rfl,within⟩
  | sent registered wrote =>
    simp only [Worker.Within,registered] at within
    exact ⟨.trans (.wrote wrote within.1) (.same rfl),within.2⟩
  | unsent registered wrote =>
    simp only [Worker.Within,registered] at within
    exact ⟨.trans (.wrote wrote within.1) (.same rfl),within.2 _⟩
  | asking asking =>
    simp only [Worker.Within,asking] at within
    exact await_within within _ _ _
  | finishing => exact ⟨.same rfl,trivial⟩
  | announcing => exact ⟨worker.announce_adds shared,trivial⟩

end Worker

/-! ## The loop -/

/-- A task that is about to be launched will run in the environment of this server. -/
def LoopMode.Within (rights : Rights) (server : Server C) : LoopMode C → Prop
  | .running _ _ prog => prog.Within rights.asks rights.tells
  | .asking _ _ _ _ next => ∀ answer, (next answer).Within rights.asks rights.tells
  | .launching _ start => ∀ context, (start.call.entry.tool.execute start.call.arguments context
      (start.worker server 0).view).Within rights.asks rights.tells
  | .idle | .pumping _ _ _ | .blocked _ _ _ | .replying _ _ | .stopped _ | .unwound _ => True

namespace ServerLoop

/-- What has been written since is of this kind, and so is whatever is still to run: by the
loop's thread, and by each of its workers. -/
structure Within (base : Shared) (rights : Rights) (others : Nat → Rights)
    (loop : ServerLoop C) : Prop where
  written : Shared.Adds (Voiced rights) base loop.shared
  mode : loop.mode.Within rights loop.server
  workers : ∀ (index : Nat) (worker : Worker C), loop.workers[index]? = some worker →
    worker.Within (others index)

variable {loop next : ServerLoop C} {request : JsonRpcRequest} {call : ToolCall C}
  {base : Shared}

namespace Within

theorem goto (within : loop.Within base rights others) {mode : LoopMode C}
    (fits : mode.Within rights loop.server) : (loop.goto mode).Within base rights others :=
  ⟨within.written,fits,within.workers⟩

theorem withShared (within : loop.Within base rights others) {shared : Shared}
    (adds : Shared.Adds (Voiced rights) loop.shared shared) :
    (loop.withShared shared).Within base rights others :=
  ⟨within.written.trans adds,within.mode,within.workers⟩

theorem withBroker (within : loop.Within base rights others) (broker : RequestBroker) :
    (loop.withBroker broker).Within base rights others := within.withShared (.same rfl)

theorem releaseTaskWorkers (within : loop.Within base rights others) :
    loop.releaseTaskWorkers.Within base rights others := by
  refine ⟨within.written,within.mode,?_⟩
  intro index worker there
  obtain ⟨waiting,old,rfl⟩ := Option.map_eq_some_iff.mp (List.getElem?_map.symm.trans there)
  exact within.workers index waiting old

theorem writeMessage (within : loop.Within base rights others) {message : JsonRpcMessage}
    (may : Voiced rights message) : (loop.writeMessage message).1.Within base rights others :=
  (within.withShared (.write loop.shared may)).releaseTaskWorkers

theorem overloaded {message answer : JsonRpcMessage}
    (refused : overloadedResponse message = some answer) : Voiced rights answer := by
  cases message with
  | request arrived =>
    cases refused
    exact .response _
  | notification | response => cases refused

theorem shedOrDefer (within : loop.Within base rights others) (message : JsonRpcMessage) :
    (loop.shedOrDefer message).1.Within base rights others := by
  simp only [ServerLoop.shedOrDefer]
  split
  · exact within.withBroker _
  · split
    · rename_i refused
      exact within.writeMessage (overloaded refused)
    · exact within

theorem shedOrDeferQuietly (within : loop.Within base rights others) (message : JsonRpcMessage) :
    (loop.shedOrDeferQuietly message).Within base rights others := by
  simp only [ServerLoop.shedOrDeferQuietly]
  split
  · exact within.withBroker _
  · split
    · rename_i refused
      exact within.withShared (.write loop.shared (overloaded refused))
    · exact within

theorem thenIdle {written : ServerLoop C × Except McpError Unit}
    (within : written.1.Within base rights others) :
    (thenIdle written).Within base rights others := by
  obtain ⟨after,_ | _⟩ := written
  · exact within.goto trivial
  · exact within.goto trivial

theorem thenPump {written : ServerLoop C × Except McpError Unit}
    (within : written.1.Within base rights others) (taskId : String) :
    (thenPump request taskId written).Within base rights others := by
  obtain ⟨after,_ | _⟩ := written
  · exact within.goto trivial
  · exact within.goto trivial

theorem settle (within : loop.Within base rights others)
    {continue_ : Except McpError Json → ToolProg C}
    (onward : ∀ answer, (continue_ answer).Within rights.asks rights.tells) (question : Question)
    (outcome : Except McpError Json) :
    (loop.settle request call question continue_ outcome).Within base rights others :=
  (within.withShared (.afterWait loop.shared _ _ _ _)).goto (onward outcome)

theorem respond (id : RequestId) (outcome : Except McpError Json) :
    Voiced rights (Server.respond id outcome) := by
  cases outcome <;> exact .response _

theorem answerInline {server : Server C} {around : Server.Surroundings} {store : TaskStore}
    {answer : JsonRpcMessage} (inline : server.answerInline around request = (store,some answer)) :
    Voiced rights answer := by
  unfold Server.answerInline at inline
  split at inline
  · cases inline
  · split at inline <;> cases inline <;> exact respond _ _

theorem readPump (within : loop.Within base rights others) (taskId : String)
    (event : Except McpError JsonRpcMessage) (freshId : String) :
    (loop.readPump request taskId event freshId).Within base rights others := by
  have again : (loop.goto (.pumping request taskId false)).Within base rights others :=
    within.goto trivial
  simp only [ServerLoop.readPump]
  split
  · exact again
  · split
    · exact (within.writeMessage (.response _)).thenPump taskId
    · exact within.goto trivial
  · exact again.withBroker _
  · split
    · rename_i store answer inline
      have stored : (loop.withShared (loop.shared.setStore store)).Within base rights others :=
        within.withShared (.same rfl)
      exact (stored.writeMessage (answerInline inline)).thenPump taskId
    · exact (within.shedOrDefer _).thenPump taskId
  · exact (within.shedOrDefer _).thenPump taskId

theorem readAsking (within : loop.Within base rights others)
    {continue_ : Except McpError Json → ToolProg C}
    (onward : ∀ answer, (continue_ answer).Within rights.asks rights.tells) (question : Question)
    (event : Except McpError JsonRpcMessage) :
    (loop.readAsking request call question continue_ event).Within base rights others := by
  simp only [ServerLoop.readAsking]
  split
  · exact within.settle onward question _
  · split
    · exact within.settle onward question _
    · exact (within.withBroker _).goto onward
  · split
    · exact (within.withBroker _).settle onward question _
    · refine (within.shedOrDeferQuietly _).goto ?_
      exact onward

theorem pumpLook (within : loop.Within base rights others) (taskId : String) :
    (loop.pumpLook request taskId).Within base rights others := by
  have stored (store : TaskStore) :
      (loop.withShared (loop.shared.setStore store)).Within base rights others :=
    within.withShared (.same rfl)
  simp only [ServerLoop.pumpLook]
  split <;> exact (stored _).goto trivial

theorem blockedLook (within : loop.Within base rights others) (taskId : String) (since : Nat) :
    (loop.blockedLook request taskId since).Within base rights others := by
  have stored (store : TaskStore) :
      (loop.withShared (loop.shared.setStore store)).Within base rights others :=
    within.withShared (.same rfl)
  simp only [ServerLoop.blockedLook]
  split
  · exact (stored _).goto trivial
  · exact stored _

theorem askLook (within : loop.Within base rights others)
    {continue_ : Except McpError Json → ToolProg C}
    (onward : ∀ answer, (continue_ answer).Within rights.asks rights.tells) (question : Question) :
    (loop.askLook request call question continue_).Within base rights others := by
  simp only [ServerLoop.askLook]
  split
  · exact (within.withBroker _).settle onward question _
  · split
    · exact within.settle onward question _
    · exact within.goto onward

theorem runTool {prog : ToolProg C} {answer : Json} (within : loop.Within base rights others)
    (fits : prog.Within rights.asks rights.tells)
    (ran : loop.runTool request call answer prog = some next) :
    next.Within base rights others := by
  cases fits with
  | returned | panicked =>
    cases ran
    exact ⟨within.written,trivial,within.workers⟩
  | @notify method params continue_ told onward =>
    cases ran
    have sent : Shared.Adds (Voiced rights) loop.shared
        (loop.shared.write (notificationMessage method params)).1 :=
      .write loop.shared (.told none told)
    exact (within.withShared sent).goto (onward _)
  | @request method params timeout continue_ asked onward =>
    obtain ⟨broker,id,sent,-,asking⟩ := runTool_request ran
    have drawn : Shared.Adds (Voiced rights) loop.shared (loop.shared.setBroker broker) :=
      .same rfl
    rcases asking with ⟨wrote,rfl⟩ | ⟨e,wrote,rfl⟩
    · have adds := drawn.trans (.wrote wrote (.asked id none asked))
      exact (within.withShared adds).goto onward
    · have adds := drawn.trans (.wrote wrote (.asked id none asked))
      have given : Shared.Adds (Voiced rights) loop.shared
          (sent.setBroker (sent.broker.abandon id)) := adds.trans (.same rfl)
      exact (within.withShared given).goto (onward _)
  | checkCancelled onward | observe onward =>
    cases ran
    exact within.goto (onward _)

/-- The worker that is launched goes on with what the loop was about to do. -/
theorem launchTask {start : TaskStart C} {spawnError : Option String}
    (within : loop.Within base rights others) (launching : loop.mode = .launching request start)
    (own : loop.workers.length < (loop.launchTask request start spawnError).workers.length →
      others loop.workers.length = rights) :
    (loop.launchTask request start spawnError).Within base rights others := by
  have fits := within.mode
  rw [launching] at fits
  simp only [ServerLoop.launchTask] at own ⊢
  split
  · exact within.goto trivial
  · rename_i after worker outcome launched
    rw [launched] at own
    simp only [TaskStart.launch] at launched
    split at launched
    · cases launched
    · split at launched <;> cases launched
      · refine ⟨within.written,trivial,?_⟩
        intro index each there
        rcases Nat.lt_trichotomy index loop.workers.length with inside | rfl | beyond
        · exact within.workers index each ((List.getElem?_append_left inside).symm.trans there)
        · have first := (List.getElem?_append_right (Nat.le_refl _)).symm.trans there
          rw [Nat.sub_self,Option.toList_some,List.getElem?_cons_zero] at first
          cases first
          rw [own (by simp)]
          exact fits
        · have bound := (List.getElem?_eq_some_iff.mp there).1
          simp only [Option.toList_some,List.length_append,List.length_singleton] at bound
          omega
      · refine ⟨within.written.trans (.same rfl),trivial,?_⟩
        intro index each there
        rw [Option.toList_none,List.append_nil] at there
        exact within.workers index each there

end Within

end ServerLoop

/-! ## A call that is taken up -/

/-- The call a dispatch leaves to be run, in the loop's thread or as a task. -/
def Dispatch.call : Dispatch C → Option (ToolCall C)
  | .execute call => some call
  | .start opened => some opened.call
  | .ready _ | .await _ => none

namespace Server

/-- The token a `tools/call` carries for its progress notifications. -/
def progressTokenOf (request : JsonRpcRequest) : Option RequestId :=
  match parseParams CallToolParams.read request with
  | .ok params => params.progressToken
  | .error _ => none

/-- The call is that of a registered tool, with the token of its request. -/
structure Calls (server : Server C) (request : JsonRpcRequest) (call : ToolCall C) : Prop where
  method : request.method = "tools/call"
  entry : ∃ name, AList.lookup name server.tools = some call.entry
  token : call.progressToken = progressTokenOf request

/-- Every registered tool is written with the methods of its environment. -/
def TypedTools (server : Server C) : Prop :=
  ∀ name entry, AList.lookup name server.tools = some entry → entry.tool.Typed

variable {server : Server C} {request : JsonRpcRequest} {call : ToolCall C}

theorem admitCall_calls {task : Option TaskParams} (method : request.method = "tools/call")
    (admitted : server.admitCall request = .ok (call,task)) : server.Calls request call := by
  unfold admitCall at admitted
  split at admitted
  · cases admitted
  · rename_i params read
    split at admitted
    · cases admitted
    · rename_i entry found
      have token : params.progressToken = progressTokenOf request := by
        simp only [progressTokenOf,read]
      have calls : server.Calls request
          ⟨params.name,entry,params.arguments.getD (.obj []),params.progressToken⟩ :=
        ⟨method,⟨params.name,found⟩,token⟩
      simp only at admitted
      split at admitted
      · cases admitted
      · split at admitted
        · split at admitted <;> cases admitted <;> exact calls
        · cases admitted
          exact calls

theorem handleCallTool_calls {store after : TaskStore} {now : SystemTime} {freshId : String}
    {dispatch : Dispatch C} (method : request.method = "tools/call")
    (handled : server.handleCallTool store now freshId request = (after,dispatch))
    (left : dispatch.call = some call) : server.Calls request call := by
  unfold handleCallTool at handled
  split at handled
  · cases handled
    cases left
  · rename_i admitted
    unfold startToolTask at handled
    split at handled
    · cases handled
      cases left
    · simp only at handled
      split at handled <;> cases handled <;> cases left
      exact admitCall_calls method admitted
  · rename_i admitted
    cases handled
    cases left
    exact admitCall_calls method admitted

/-- Only a `tools/call` leaves a call to be run. -/
theorem dispatchRequest_calls {around : Surroundings} {after : Server C} {store : TaskStore}
    {dispatch : Dispatch C}
    (dispatched : server.dispatchRequest around request = (after,store,dispatch))
    (left : dispatch.call = some call) : after = server ∧ server.Calls request call := by
  by_cases method : request.method = "tools/call"
  · unfold dispatchRequest at dispatched
    split at dispatched
    · cases dispatched
      cases left
    · rw [method] at dispatched
      simp only [Prod.mk.injEq] at dispatched
      obtain ⟨rfl,handled⟩ := dispatched
      exact ⟨rfl,handleCallTool_calls method handled left⟩
  · have none_ : dispatch.call = none := by
      unfold dispatchRequest at dispatched
      split at dispatched
      · cases dispatched
        rfl
      · split at dispatched <;> first
          | contradiction
          | (cases dispatched; rfl)
          | (split at dispatched <;> cases dispatched <;> rfl)
    rw [none_] at left
    cases left

theorem dispatchRequest_tools (server : Server C) (around : Surroundings)
    (request : JsonRpcRequest) :
    (server.dispatchRequest around request).1.tools = server.tools := by
  have same : (server.dispatchRequest around request).1 = server.withConnection _ :=
    server.handled_eq around (.request request)
  rw [same]
  rfl

end Server

namespace ServerLoop

variable {loop next : ServerLoop C} {label : LoopLabel} {request : JsonRpcRequest}

/-- The tool runs in an environment that reads off the server what it may do. -/
theorem Within.dispatch (within : loop.Within base rights others) (typed : loop.server.TypedTools)
    (may : request.method = "tools/call" → ∀ method params,
      AskedOf loop.server.clientCapabilities method params → rights.asks method params)
    (might : request.method = "tools/call" → ∀ method params,
      Told loop.server.logLevel (Server.progressTokenOf request) method params →
        rights.tells method params)
    (freshId : String) : (loop.dispatch request freshId).Within base rights others := by
  have fits {call : ToolCall C} (calls : loop.server.Calls request call) (view : EnvView)
      (context : C) (level : view.logLevel = loop.server.logLevel)
      (token : view.progressToken = call.progressToken)
      (capabilities : view.clientCapabilities = loop.server.clientCapabilities ∨
        view.clientCapabilities = .default) :
      (call.entry.tool.execute call.arguments context view).Within rights.asks rights.tells := by
    obtain ⟨name,entry⟩ := calls.entry
    refine ((typed name call.entry entry).within call.arguments context view).mono ?_ ?_
    · intro method params asked
      rcases capabilities with same | none_
      · exact may calls.method method params (same ▸ asked)
      · rw [none_] at asked
        exact asked.default_elim.elim
    · intro method params told
      rw [level,token,calls.token] at told
      exact might calls.method method params told
  unfold ServerLoop.dispatch
  split
  rename_i server store dispatch dispatched
  have calling {call : ToolCall C} (left : dispatch.call = some call) :=
    Server.dispatchRequest_calls dispatched left
  cases dispatch with
  | ready outcome => exact ⟨within.written,trivial,within.workers⟩
  | execute call =>
    obtain ⟨rfl,calls⟩ := calling rfl
    exact ⟨within.written,fits calls _ _ rfl rfl (.inl rfl),within.workers⟩
  | start opened =>
    obtain ⟨rfl,calls⟩ := calling rfl
    refine ⟨within.written,fun context => fits calls _ context rfl rfl ?_,within.workers⟩
    by_cases pump : loop.server.canPump = true
    · exact .inl (if_pos pump)
    · exact .inr (if_neg pump)
  | await taskId =>
    simp only
    split <;> exact ⟨within.written,trivial,within.workers⟩

theorem step_tools (taken : loop.step label = some next) :
    next.server.tools = loop.server.tools := by
  rcases step_server taken with same | ⟨request,broker,freshId,-,-,rfl⟩
  · rw [same]
  · rw [dispatch_server]
    exact loop.server.dispatchRequest_tools _ request

/-! ### The call behind a step -/

end ServerLoop

/-- A request as the loop took it up: with what the client had declared by then, and the log
level it had set. -/
structure TakenUp where
  request : JsonRpcRequest
  capabilities : ClientCapabilities
  logLevel : LogLevel

/-- What may be sent on behalf of a request taken up so. Without one, nothing. -/
def TakenUp.allows : Option TakenUp → Rights
  | some call => {
      asks method params := call.request.method = "tools/call" ∧
        AskedOf call.capabilities method params
      tells method params := call.request.method = "tools/call" ∧
        Told call.logLevel (Server.progressTokenOf call.request) method params }
  | none => ⟨fun _ _ => False,fun _ _ => False⟩

/-- The request the loop's thread took up last, and for each worker the one that had been
taken up when it was launched. -/
structure CallLedger where
  current : Option TakenUp
  workers : List (Option TakenUp)

namespace CallLedger

def note (loop : ServerLoop C) (label : LoopLabel) (next : ServerLoop C) (ledger : CallLedger) :
    CallLedger where
  current := match loop.takes label with
    | some request => some ⟨request,loop.server.clientCapabilities,loop.server.logLevel⟩
    | none => ledger.current
  workers := ledger.workers ++
    List.replicate (next.workers.length - loop.workers.length) ledger.current

def of (start : ServerLoop C) (labels : List LoopLabel) : CallLedger :=
  Runs.recorded ServerLoop.step note start ⟨none,[]⟩ labels

def worker (ledger : CallLedger) (index : Nat) : Option TakenUp := ledger.workers[index]?.join

/-- The call whose work a step is: a worker's own, or that of the loop's thread. -/
def behind (ledger : CallLedger) : LoopLabel → Option TakenUp
  | .work index _ => ledger.worker index
  | _ => ledger.current

variable {loop next : ServerLoop C} {label : LoopLabel} {ledger : CallLedger} {index : Nat}

theorem note_old (inside : index < ledger.workers.length) :
    (ledger.note loop label next).worker index = ledger.worker index := by
  rw [worker,note,List.getElem?_append_left inside]
  rfl

/-- A worker that is new was launched for the request taken up last. -/
theorem note_new (same : ledger.workers.length = loop.workers.length)
    (grown : loop.workers.length < next.workers.length) :
    (ledger.note loop label next).worker loop.workers.length = ledger.current := by
  have more : 0 < next.workers.length - loop.workers.length := Nat.sub_pos_of_lt grown
  rw [worker,note,List.getElem?_append_right (Nat.le_of_eq same),same,Nat.sub_self,
    List.getElem?_replicate,if_pos more]
  rfl

theorem note_length (same : ledger.workers.length = loop.workers.length)
    (kept : loop.workers.length ≤ next.workers.length) :
    (ledger.note loop label next).workers.length = next.workers.length := by
  simp only [note,List.length_append,List.length_replicate,same]
  omega

end CallLedger

namespace ServerLoop

variable {loop next : ServerLoop C} {label : LoopLabel} {request : JsonRpcRequest}
  {ledger : CallLedger} {base : Shared}

/-- The rights a step writes under. -/
def author (rights : Rights) (others : Nat → Rights) : LoopLabel → Rights
  | .work index _ => others index
  | _ => rights

/-- One step, where a call that is taken up by it gives the rights of the loop's thread, and
a worker that is launched gets them. -/
theorem Within.step (within : loop.Within loop.shared rights others)
    (typed : loop.server.TypedTools) (taken : loop.step label = some next)
    (may : ∀ request, loop.takes label = some request → request.method = "tools/call" →
      ∀ method params, AskedOf loop.server.clientCapabilities method params →
        rights.asks method params)
    (might : ∀ request, loop.takes label = some request → request.method = "tools/call" →
      ∀ method params, Told loop.server.logLevel (Server.progressTokenOf request) method params →
        rights.tells method params)
    (own : loop.workers.length < next.workers.length → others loop.workers.length = rights) :
    Shared.Adds (Voiced (author rights others label)) loop.shared next.shared ∧
      next.Within next.shared rights others := by
  have thread (same : author rights others label = rights)
      (after : next.Within loop.shared rights others) :
      Shared.Adds (Voiced (author rights others label)) loop.shared next.shared ∧
        next.Within next.shared rights others :=
    ⟨same.symm ▸ after.written,.same rfl,after.mode,after.workers⟩
  have dispatched {request : JsonRpcRequest} (takes : loop.takes label = some request)
      (broker : RequestBroker) (freshId : String) :
      ((loop.withBroker broker).dispatch request freshId).Within loop.shared rights others :=
    (within.withBroker broker).dispatch typed (may request takes) (might request takes) freshId
  cases step_taken taken with
  | @readMain event freshId idle drained =>
    refine thread rfl ?_
    simp only [readMain]
    split
    · rename_i message
      cases message with
      | request arrived =>
        exact dispatched (by simp only [takes,idle]) loop.shared.broker freshId
      | notification told => exact within.withBroker _
      | response given => exact within.withBroker _
    · exact within.goto trivial
    · exact within
    · split
      · exact (within.writeMessage (.response _)).thenIdle
      · exact within.goto trivial
  | readPump => exact thread rfl (within.readPump _ _ _)
  | readAsking asking =>
    have fits := within.mode
    rw [asking] at fits
    exact thread rfl (within.readAsking fits _ _)
  | @replay freshId broker message idle queued =>
    refine thread rfl ?_
    cases message with
    | request arrived => exact dispatched (by simp only [takes,queued]) broker freshId
    | notification told => exact (within.withBroker broker).withBroker _
    | response given => exact (within.withBroker broker).withBroker _
  | pumpLook => exact thread rfl (within.pumpLook _)
  | blockedLook => exact thread rfl (within.blockedLook _ _)
  | askLook asking =>
    have fits := within.mode
    rw [asking] at fits
    exact thread rfl (within.askLook fits _)
  | run running ran =>
    have fits := within.mode
    rw [running] at fits
    exact thread rfl (within.runTool fits ran)
  | launch launching => exact thread rfl (within.launchTask launching own)
  | reply => exact thread rfl (within.writeMessage (respond _ _)).thenIdle
  | @work index answer worker moved shared there worked =>
    have held := within.workers index worker there
    obtain ⟨adds,fits⟩ := Worker.step_within held worked
    refine ⟨adds,.same rfl,within.mode,?_⟩
    intro other each found
    by_cases here : index = other
    · subst here
      obtain ⟨inside,_⟩ := List.getElem?_eq_some_iff.mp there
      cases (List.getElem?_set_self inside).symm.trans found
      exact fits
    · exact within.workers other each ((List.getElem?_set_ne here).symm.trans found)
  | clock now elapsed => exact thread rfl (within.withShared (.same rfl))
  | wire failure => exact thread rfl (within.withShared (.same rfl))

/-- A request is taken up where nothing else is under way in the loop's thread. -/
theorem takes_within (taken : loop.step label = some next)
    (takes : loop.takes label = some request) (rights : Rights) :
    loop.mode.Within rights loop.server := by
  cases step_taken taken with
  | readMain idle | replay idle =>
    rw [idle]
    trivial
  | readPump pumping =>
    rw [pumping]
    trivial
  | readAsking asking =>
    simp only [ServerLoop.takes,asking] at takes
    split at takes
    · cases takes
    · rename_i other
      cases other
    · cases takes
  | _ => cases takes

/-- Only a launch adds a worker, and it takes nothing up. -/
theorem workers_grown (taken : loop.step label = some next) :
    next.workers.length = loop.workers.length ∨
      loop.takes label = none ∧ loop.workers.length ≤ next.workers.length := by
  have moved (own : label.own = true) : next.workers.length = loop.workers.length := by
    rcases (step_moves own taken).workers with same | same
    · rw [same]
    · rw [same]
      exact List.length_map ..
  cases step_taken taken with
  | @launch request start spawnError launching =>
    refine .inr ⟨rfl,?_⟩
    simp only [launchTask]
    split
    · exact Nat.le_refl _
    · simp
  | work => exact .inl List.length_set
  | clock | wire => exact .inl rfl
  | _ => exact .inl (moved rfl)

/-- The ledger knows whose every worker is, and nobody goes beyond what its call may send. -/
structure Ruled (server : Server C) (ledger : CallLedger) (loop : ServerLoop C) : Prop where
  tools : loop.server.tools = server.tools
  length : ledger.workers.length = loop.workers.length
  within : loop.Within loop.shared (TakenUp.allows ledger.current)
    fun index => TakenUp.allows (ledger.worker index)

theorem Ruled.step {server : Server C} (ruled : Ruled server ledger loop)
    (typed : server.TypedTools) (taken : loop.step label = some next) :
    Shared.Adds (Voiced (TakenUp.allows ((ledger.note loop label next).behind label))) loop.shared
      next.shared ∧ Ruled server (ledger.note loop label next) next := by
  have kept : loop.workers.length ≤ next.workers.length := by
    rcases workers_grown taken with same | ⟨_,more⟩
    · exact Nat.le_of_eq same.symm
    · exact more
  -- a step that takes a request up changes whose rights the loop's thread has
  have renewed : loop.Within loop.shared
      (TakenUp.allows (ledger.note loop label next).current)
      fun index => TakenUp.allows ((ledger.note loop label next).worker index) := by
    refine ⟨.same rfl,?_,?_⟩
    · cases takes : loop.takes label with
      | some request => exact takes_within taken takes _
      | none =>
        have same : (ledger.note loop label next).current = ledger.current := by
          simp only [CallLedger.note,takes]
        rw [same]
        exact ruled.within.mode
    · intro index worker there
      obtain ⟨inside,_⟩ := List.getElem?_eq_some_iff.mp there
      rw [CallLedger.note_old (ruled.length ▸ inside)]
      exact ruled.within.workers index worker there
  have typedHere : loop.server.TypedTools := fun name entry found =>
    typed name entry (ruled.tools ▸ found)
  have current {request : JsonRpcRequest} (takes : loop.takes label = some request) :
      (ledger.note loop label next).current =
        some ⟨request,loop.server.clientCapabilities,loop.server.logLevel⟩ := by
    simp only [CallLedger.note,takes]
  obtain ⟨adds,after⟩ := renewed.step typedHere taken
    (fun request takes calls method params asked => by
      rw [current takes]
      exact ⟨calls,asked⟩)
    (fun request takes calls method params told => by
      rw [current takes]
      exact ⟨calls,told⟩)
    (fun grown => by
      rcases workers_grown taken with same | ⟨none_,_⟩
      · omega
      · rw [CallLedger.note_new ruled.length grown]
        simp only [CallLedger.note,none_])
  refine ⟨?_,(step_tools taken).trans ruled.tools,CallLedger.note_length ruled.length kept,after⟩
  cases label <;> exact adds

/-! ### Runs -/

theorem run_ruled {server : Server C} {context : C} {store : TaskStore} {now : SystemTime}
    {instant : Nat} {labels : List LoopLabel} (typed : server.TypedTools)
    (run : Runs.execute ServerLoop.step (.start server context store now instant) labels =
      some loop) :
    Ruled server (CallLedger.of (.start server context store now instant) labels) loop := by
  refine @Runs.history_invariant _ _ ServerLoop.step (.start server context store now instant)
    (fun past loop =>
      Ruled server (CallLedger.of (.start server context store now instant) past) loop)
    ⟨rfl,rfl,.same rfl,trivial,by simp [ServerLoop.start]⟩ ?_ labels loop run
  intro past before label next reached ruled taken
  have noted := @Runs.recorded_last _ _ _ _ _ _ CallLedger.note _ _ _ reached taken ⟨none,[]⟩
  simp only [CallLedger.of] at noted ruled ⊢
  rw [noted]
  exact (ruled.step typed taken).2

/-- Whatever a step of a run writes is what the call behind that step may send. -/
theorem step_voiced {server : Server C} {context : C} {store : TaskStore} {now : SystemTime}
    {instant : Nat} {past : List LoopLabel} (typed : server.TypedTools)
    (run : Runs.execute ServerLoop.step (.start server context store now instant) past =
      some loop) (taken : loop.step label = some next) {message : JsonRpcMessage}
    (written : message ∈ next.shared.written.drop loop.shared.written.length) :
    Voiced (TakenUp.allows ((CallLedger.of (.start server context store now instant)
      (past ++ [label])).behind label)) message := by
  have noted := @Runs.recorded_last _ _ _ _ _ _ CallLedger.note _ _ _ run taken ⟨none,[]⟩
  simp only [CallLedger.of]
  rw [noted]
  exact ((run_ruled typed run).step typed taken).1.new written

/-- A server whose tools talk to the client through their environment sends a request
only if, when it took up the very call that sends it, the client had declared what it
takes. -/
theorem asks_what_was_declared (server : Server C) (context : C) (store : TaskStore)
    (now : SystemTime) (instant : Nat) (past : List LoopLabel) (label : LoopLabel)
    (loop next : ServerLoop C) (typed : server.TypedTools)
    (run : Runs.execute ServerLoop.step (.start server context store now instant) past =
      some loop) (taken : loop.step label = some next) (request : JsonRpcRequest)
    (written : .request request ∈ next.shared.written.drop loop.shared.written.length) :
    ∃ call taskId params,
      (CallLedger.of (.start server context store now instant) (past ++ [label])).behind label =
        some call ∧ call.request.method = "tools/call" ∧
      request.params = tagWithTask taskId (some params) ∧
      AskedOf call.capabilities request.method params := by
  have voiced := step_voiced typed run taken written
  cases behind : (CallLedger.of (.start server context store now instant)
      (past ++ [label])).behind label with
  | none =>
    rw [behind] at voiced
    cases voiced with
    | asked id taskId asked => exact asked.elim
  | some call =>
    rw [behind] at voiced
    cases voiced with
    | asked id taskId asked => exact ⟨call,taskId,_,rfl,asked.1,rfl,asked.2⟩

/-- A log record is at least as severe as the client wanted when the very call that sends it
was taken up, and progress is reported under the token that came with that call. -/
theorem tells_what_was_wanted (server : Server C) (context : C) (store : TaskStore)
    (now : SystemTime) (instant : Nat) (past : List LoopLabel) (label : LoopLabel)
    (loop next : ServerLoop C) (typed : server.TypedTools)
    (run : Runs.execute ServerLoop.step (.start server context store now instant) past =
      some loop) (taken : loop.step label = some next) (notification : JsonRpcNotification)
    (written : .notification notification ∈
      next.shared.written.drop loop.shared.written.length) :
    (notification.method = "notifications/message" → ∃ call taskId level logger data,
      (CallLedger.of (.start server context store now instant) (past ++ [label])).behind label =
        some call ∧ call.request.method = "tools/call" ∧
      notification.params = tagWithTask taskId (some (EnvView.logRecord level logger data)) ∧
      call.logLevel.severity ≤ level.severity) ∧
    (notification.method = "notifications/progress" → ∃ call taskId token progress total,
      (CallLedger.of (.start server context store now instant) (past ++ [label])).behind label =
        some call ∧ call.request.method = "tools/call" ∧
      notification.params = tagWithTask taskId
        (some (EnvView.progressParams token progress total)) ∧
      Server.progressTokenOf call.request = some token) := by
  have voiced := step_voiced typed run taken written
  have neither {method : String} {params : Option Json} {one other : Prop}
      (notRecord : method ≠ "notifications/message")
      (notProgress : method ≠ "notifications/progress") :
      ((⟨method,params⟩ : JsonRpcNotification).method = "notifications/message" → one) ∧
        ((⟨method,params⟩ : JsonRpcNotification).method = "notifications/progress" → other) :=
    ⟨fun same => absurd same notRecord,fun same => absurd same notProgress⟩
  cases behind : (CallLedger.of (.start server context store now instant)
      (past ++ [label])).behind label with
  | none =>
    rw [behind] at voiced
    cases voiced with
    | told taskId told => exact told.elim
    | withdrawn params => exact neither (by decide) (by decide)
    | status params => exact neither (by decide) (by decide)
  | some call =>
    rw [behind] at voiced
    cases voiced with
    | told taskId told =>
      obtain ⟨calls,told⟩ := told
      cases told with
      | record level logger data enabled =>
        refine ⟨fun _ => ⟨call,taskId,level,logger,data,rfl,calls,rfl,enabled⟩,?_⟩
        intro (same : "notifications/message" = "notifications/progress")
        exact absurd same (by decide)
      | progress token progress total wanted =>
        refine ⟨?_,fun _ => ⟨call,taskId,token,progress,total,rfl,calls,rfl,wanted⟩⟩
        intro (same : "notifications/progress" = "notifications/message")
        exact absurd same (by decide)
      | elicitationComplete elicitationId => exact neither (by decide) (by decide)
    | withdrawn params => exact neither (by decide) (by decide)
    | status params => exact neither (by decide) (by decide)

/-! ### A form and a refusal -/

/-- Asks for the roots and, when the client has none, for a name with a form. -/
def rootsOrName : Tool Unit where
  name := "ask"
  protocolTool := [("name",.str "ask")]
  taskSupport := .optional
  modelImmediateResponse := .ok none
  execute _ context view := EnvProg.compile view
    (.listRoots fun roots =>
      match roots with
      | .ok _ => .returned context (.ok ⟨[],false,none,none⟩)
      | .error _ => .logData .warning "ask" (.str "no roots")
          (.elicit (.form "Your name?" (.obj [])) fun answer =>
            .returned context (answer.map fun _ => ⟨[],false,none,none⟩)))

def formServer : Server Unit :=
  { (Server.new (ServerConfig.default "0.7.3" ⟨id,some⟩) : Server Unit) with
    tools := AList.insert "ask" ⟨rootsOrName,none,.none⟩ ∅
    clientCapabilities := ⟨[],none,some ⟨none,none⟩,none⟩ }

theorem formServer_typed : formServer.TypedTools := by
  intro name entry found
  by_cases same : name = "ask"
  · subst same
    rw [formServer,AList.lookup_insert] at found
    cases found
    exact ⟨_,fun _ _ _ => rfl⟩
  · rw [formServer,AList.lookup_insert_ne same] at found
    cases found

def callForm : JsonRpcMessage := .request ⟨.number 1,"tools/call",
  some (.obj [("name",.str "ask")])⟩

/-- The client has declared forms and no roots: it is told, and then asked. -/
theorem formServer_asks : ∃ loop next, Runs.execute ServerLoop.step
      (.start formServer () (.new .default) 0 0) [.read (.ok callForm) "",.run .null] =
        some loop ∧ loop.step (.run .null) = some next ∧
    ∃ request, .request request ∈ next.shared.written.drop loop.shared.written.length ∧
      request.method = "elicitation/create" ∧ ∃ call taskId params,
        (CallLedger.of (.start formServer () (.new .default) 0 0)
          ([.read (.ok callForm) "",.run .null] ++ [.run .null])).behind (.run .null) =
            some call ∧ call.request.method = "tools/call" ∧
        request.params = tagWithTask taskId (some params) ∧
        AskedOf call.capabilities request.method params := by
  refine ⟨_,_,rfl,rfl,_,.head _,rfl,?_⟩
  exact asks_what_was_declared formServer () (.new .default) 0 0
    [.read (.ok callForm) "",.run .null] (.run .null) _ _ formServer_typed rfl rfl _ (.head _)

theorem formServer_tells : ∃ loop next, Runs.execute ServerLoop.step
      (.start formServer () (.new .default) 0 0) [.read (.ok callForm) ""] = some loop ∧
      loop.step (.run .null) = some next ∧
    ∃ notification, .notification notification ∈
        next.shared.written.drop loop.shared.written.length ∧
      ∃ call taskId level logger data,
        (CallLedger.of (.start formServer () (.new .default) 0 0)
          ([.read (.ok callForm) ""] ++ [.run .null])).behind (.run .null) = some call ∧
        call.request.method = "tools/call" ∧ notification.params =
          tagWithTask taskId (some (EnvView.logRecord level logger data)) ∧
        call.logLevel.severity ≤ level.severity := by
  refine ⟨_,_,rfl,rfl,_,.head _,?_⟩
  exact (tells_what_was_wanted formServer () (.new .default) 0 0 [.read (.ok callForm) ""]
    (.run .null) _ _ formServer_typed rfl rfl _ (.head _)).1 rfl

end ServerLoop

end SmlMcps
