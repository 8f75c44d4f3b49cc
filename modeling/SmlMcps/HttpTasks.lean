import SmlMcps.SessionSteps
import SmlMcps.TaskIsolation

/-! Tasks over HTTP. Each session has a task store of its own, donated by the first
request that enables tasks; requests reach a store through the server they are given,
and the workers and waits of its tasks go on using it after the request. The history
says for whom each session was made, and who drew each task identifier. -/
namespace SmlMcps

variable {C : Type}

/-! ## What a request does to its store -/

namespace Server

/-- The message is a call that will be started as a task, if the store has room. -/
def asksForTask (server : Server C) : JsonRpcMessage → Bool
  | .request request =>
    request.method == "tools/call" && (server.checkInitialized request.method).toBool &&
      server.tasks.isSome && match server.admitCall request with
        | .ok (_,some _) => true
        | _ => false
  | _ => false

/-- A request leaves its store alone, asks something on its requestor's behalf, or
starts a task for the requestor. -/
inductive StoreUse (server : Server C) (around : Surroundings) (message : JsonRpcMessage) :
    TaskStore → Prop
  | untouched : StoreUse server around message around.store
  | asked (op : RequestorOp) :
      StoreUse server around message (around.store.perform (op.toStoreOp server.requestor))
  | started (asks : server.asksForTask message = true) (ttl : Option Nat) :
      StoreUse server around message (around.store.perform
        (.create around.now around.freshId ttl server.requestor))

theorem handleTaskGet_use (server : Server C) (around : Surroundings) (message : JsonRpcMessage)
    (request : JsonRpcRequest) : server.StoreUse around message
      (server.handleTaskGet around.store around.now request).1 := by
  unfold handleTaskGet
  split
  · exact .untouched
  · rename_i taskId _
    exact .asked (.get around.now taskId)

theorem handleTaskCancel_use (server : Server C) (around : Surroundings)
    (message : JsonRpcMessage) (request : JsonRpcRequest) : server.StoreUse around message
      (server.handleTaskCancel around.store around.now request).1 := by
  unfold handleTaskCancel
  split
  · exact .untouched
  · rename_i taskId _
    exact .asked (.cancel around.now taskId)

theorem handleTaskList_use (server : Server C) (around : Surroundings)
    (message : JsonRpcMessage) (request : JsonRpcRequest) : server.StoreUse around message
      (server.handleTaskList around.store around.now request).1 := by
  unfold handleTaskList
  split
  · exact .untouched
  · exact .asked (.list around.now)

theorem handleCallTool_use {server : Server C} (around : Surroundings) {request : JsonRpcRequest}
    (method : request.method = "tools/call")
    (passed : server.checkInitialized request.method = .ok ()) :
    server.StoreUse around (.request request)
      (server.handleCallTool around.store around.now around.freshId request).1 := by
  unfold handleCallTool
  split
  · exact .untouched
  · rename_i call params admitted
    unfold startToolTask
    split
    · exact .untouched
    · rename_i runtime enabled
      have asks : server.asksForTask (.request request) = true := by
        rw [method] at passed
        simp [asksForTask,method,passed,enabled,admitted,Except.toBool]
      have started := @StoreUse.started _ server around _ asks params.ttl
      simp only [TaskStore.perform,requestor] at started
      simp only
      split
      · rename_i created
        rw [created] at started
        exact started
      · rename_i created
        rw [created] at started
        exact started
  · exact .untouched

theorem storeAfter_use (server : Server C) (around : Surroundings) (message : JsonRpcMessage) :
    server.StoreUse around message (server.storeAfter around message) := by
  cases message with
  | notification => exact .untouched
  | response => exact .untouched
  | request request =>
    unfold storeAfter dispatchRequest
    simp only
    split
    · exact .untouched
    · rename_i passed
      split
      · exact .untouched
      · exact .untouched
      · exact .untouched
      · rename_i method
        exact handleCallTool_use around method passed
      · exact .untouched
      · exact .untouched
      · exact .untouched
      · exact .untouched
      · exact .untouched
      · exact .untouched
      · exact handleTaskGet_use server around _ request
      · split <;> exact .untouched
      · exact handleTaskList_use server around _ request
      · exact handleTaskCancel_use server around _ request
      · exact .untouched

end Server

/-! ## The world with its task stores -/

/-- `births` has for each session the owner and identifier it was made under, and
`drawn` for each task identifier the owner of the request that drew it. -/
structure ServedWorld (C : Type) where
  world : HttpWorld C
  births : List (Option String × String)
  drawn : List (String × Option String)

/-- `store` is the work of a task on its store, and of everybody who waits for one. -/
inductive ServedLabel where
  | http (label : HttpLabel)
  | store (index : Nat) (op : StoreOp)

namespace ServedWorld

def empty : ServedWorld C := ⟨.empty,[],[]⟩

/-- The sessions and identifiers a step adds to the history. -/
def remember (served : ServedWorld C) (label : HttpLabel) (next : HttpWorld C) :
    ServedWorld C where
  world := next
  births := match label with
    | .checkoutNew owner entropy => served.births ++ [(owner,randomHexId entropy)]
    | _ => served.births
  drawn := match label with
    | .process index _ freshId =>
      (freshId,(served.world.requests[index]?).bind HttpRequest.owner) :: served.drawn
    | _ => served.drawn

/-- The stores change in no other way than by operations, and task identifiers are
drawn once. -/
def permits (served : ServedWorld C) : HttpLabel → Bool
  | .storeChange .. => false
  | .process _ _ freshId => !(served.drawn.map Prod.fst).contains freshId
  | _ => true

def step (http : HttpServer C) (served : ServedWorld C) (label : ServedLabel) :
    Option (ServedWorld C) :=
  match label with
  | .http label =>
    if served.permits label then (HttpWorld.step http served.world label).map (served.remember label)
    else none
  | .store index op =>
    if op.creates = none then some { served with
      world := { served.world with
        stores := served.world.stores.modify index fun store => store.perform op } }
    else none

/-- What a step does to the task stores. -/
inductive StoresEffect (http : HttpServer C) (served : ServedWorld C) :
    ServedLabel → List TaskStore → Prop
  | kept {label : ServedLabel} : StoresEffect http served label served.world.stores
  | donated {index : Nat} {request : HttpRequest C} {server : Server C} {runtime : TaskRuntime C}
      (known : served.world.requests[index]? = some request)
      (built : http.build request.owner served.world.stores.length = .ok server)
      (enabled : server.tasks = some runtime) : StoresEffect http served (.http (.restore index))
        (served.world.stores ++ [.new runtime.storeConfig])
  | used {label : ServedLabel} {index : Nat} {store : TaskStore} {op : StoreOp}
      (there : served.world.stores[index]? = some store) (plain : op.creates = none) :
      StoresEffect http served label (served.world.stores.set index (store.perform op))
  | started {index store : Nat} {message : JsonRpcMessage} {freshId : String}
      {request : HttpRequest C} {server : Server C} {contents : TaskStore}
      (known : served.world.requests[index]? = some request)
      (phase : request.phase = .restored server)
      (fresh : freshId ∉ served.drawn.map Prod.fst)
      (reaches : server.taskStore = some store)
      (there : served.world.stores[store]? = some contents)
      (asks : server.asksForTask message = true) (ttl : Option Nat) :
      StoresEffect http served (.http (.process index (.ok message) freshId))
        (served.world.stores.set store
          (contents.perform (.create served.world.wall freshId ttl server.requestor)))

variable {http : HttpServer C} {served next : ServedWorld C}

theorem test_stores (session : Session) (stores : List TaskStore) (wall : SystemTime) :
    (session.worthKeeping stores wall).1 = stores ∨ ∃ index store,
      stores[index]? = some store ∧
        (session.worthKeeping stores wall).1 = stores.set index (store.perform (.isEmpty wall)) := by
  unfold Session.worthKeeping
  split
  · exact .inl rfl
  · split
    · exact .inl rfl
    · split
      · exact .inl rfl
      · rename_i index _ _ store there
        exact .inr ⟨index,store,there,rfl⟩

/-- The step of the world under a step of the history. -/
theorem step_http {label : HttpLabel} (taken : served.step http (.http label) = some next) :
    served.permits label = true ∧ ∃ world, HttpWorld.step http served.world label = some world ∧
      next = served.remember label world := by
  simp only [step] at taken
  split at taken
  · rename_i permitted
    obtain ⟨world,stepped,same⟩ := Option.map_eq_some_iff.mp taken
    exact ⟨permitted,world,stepped,same.symm⟩
  · cases taken

/-- A store is used without a request, and no record is created. -/
theorem step_store {index : Nat} {op : StoreOp}
    (taken : served.step http (.store index op) = some next) :
    op.creates = none ∧ next = { served with
      world := { served.world with
        stores := served.world.stores.modify index fun store => store.perform op } } := by
  simp only [step] at taken
  split at taken
  · rename_i plain
    cases taken
    exact ⟨plain,rfl⟩
  · cases taken

/-- What a message does to its store is something the history knows. -/
theorem processed_stores {index store : Nat} {request : HttpRequest C} {server : Server C}
    {contents : TaskStore} (known : served.world.requests[index]? = some request)
    (phase : request.phase = .restored server) (reaches : server.taskStore = some store)
    (there : served.world.stores[store]? = some contents) (message : JsonRpcMessage)
    {freshId : String} (fresh : freshId ∉ served.drawn.map Prod.fst) :
    StoresEffect http served (.http (.process index (.ok message) freshId))
      (served.world.stores.set store
        (server.storeAfter ⟨contents,served.world.wall,freshId⟩ message)) := by
  have used := server.storeAfter_use ⟨contents,served.world.wall,freshId⟩ message
  revert used
  generalize server.storeAfter ⟨contents,served.world.wall,freshId⟩ message = after
  intro used
  cases used with
  | untouched =>
    have unchanged : served.world.stores.set store contents = served.world.stores := by
      rw [← (List.getElem?_eq_some_iff.mp there).2,List.set_getElem_self]
    rw [unchanged]
    exact .kept
  | asked op => exact .used there (TaskStore.toStoreOp_creates server.requestor op)
  | started asks ttl => exact .started known phase fresh reaches there asks ttl

theorem step_stores {label : ServedLabel} (taken : served.step http label = some next) :
    StoresEffect http served label next.world.stores := by
  cases label with
  | store index op =>
    obtain ⟨plain,rfl⟩ := step_store taken
    cases there : served.world.stores[index]? with
    | none =>
      have same : served.world.stores.modify index (fun store => store.perform op) =
          served.world.stores :=
        List.modify_eq_self (List.getElem?_eq_none_iff.mp there)
      simp only [same]
      exact .kept
    | some store =>
      have same : served.world.stores.modify index (fun store => store.perform op) =
          served.world.stores.set index (store.perform op) := by
        rw [List.modify_eq_set_getElem?,there]
        rfl
      simp only [same]
      exact .used there plain
  | http label =>
    obtain ⟨permitted,world,stepped,rfl⟩ := step_http taken
    simp only [remember]
    cases HttpWorld.step_taken stepped with
    | storeChange => cases permitted
    | restored known phase there made =>
      rename_i built
      cases enabled : built.tasks with
      | none =>
        simp only [HttpWorld.advance,Option.toList_none,List.map_nil,List.append_nil]
        exact .kept
      | some runtime => exact .donated known made enabled
    | @processed _ _ _ _ _ known phase reaches there message freshId =>
      have fresh : freshId ∉ served.drawn.map Prod.fst := by simpa [permits] using permitted
      exact processed_stores known phase reaches there message fresh
    | @tested _ _ session =>
      rcases test_stores session served.world.stores served.world.wall with same |
        ⟨store,contents,there,same⟩
      · simp only [HttpWorld.advance,same]
        exact .kept
      · simp only [HttpWorld.advance,same]
        exact .used there rfl
    | elapse | setClock | arrived | refused | found | deleted | rejected | unbuilt | unread
    | storeless | absorbed | settled | updated => exact .kept

/-! ## Whose a server and a record are -/

end ServedWorld

/-- Every request is served on behalf of its own owner. -/
def HttpWorld.ServesOwners (world : HttpWorld C) : Prop :=
  ∀ (index : Nat) (request : HttpRequest C), world.requests[index]? = some request →
    ∀ server, request.server? = some server → server.requestor = request.owner

namespace HttpWorld

variable {http : HttpServer C} {world next : HttpWorld C}

theorem build_requestor {owner : Option String} {store : Nat} {built : Server C}
    (made : http.build owner store = .ok built) : built.requestor = owner := by
  unfold HttpServer.build at made
  cases ran : http.setup store (Server.new http.config) with
  | error e =>
    rw [ran] at made
    cases made
  | ok server =>
    rw [ran] at made
    cases made
    cases owner <;> rfl

theorem restore_requestor (session : Session) (server : Server C) :
    (session.restore server).2.requestor = server.requestor := by
  obtain ⟨level,capabilities,version,initialized,tasks⟩ := session
  cases level <;> cases version <;> cases tasks <;> rfl

theorem handled_requestor (server : Server C) (around : Server.Surroundings)
    (message : JsonRpcMessage) : (server.handled around message).requestor = server.requestor := by
  rw [Server.handled_eq]
  rfl

theorem servesOwners_advance (serves : world.ServesOwners) {index : Nat} (phase : Phase C)
    (holds : ∀ request, world.requests[index]? = some request → ∀ server,
      { request with phase := phase : HttpRequest C }.server? = some server →
      server.requestor = request.owner)
    {after : HttpWorld C} (same : after.requests = (world.advance index phase).requests) :
    after.ServesOwners := by
  intro position request found server serving
  rw [same] at found
  simp only [advance,List.getElem?_modify,Option.map_eq_map,Option.map_eq_some_iff] at found
  obtain ⟨old,known,moved⟩ := found
  split at moved
  · rename_i here
    subst here
    subst moved
    exact holds old known server serving
  · subst moved
    exact serves position old known server serving

/-- A request that moves to a phase without a server. -/
theorem servesOwners_done (serves : world.ServesOwners) (index : Nat) {phase : Phase C}
    (done : ∀ request : HttpRequest C, { request with phase := phase : HttpRequest C }.server? = none)
    {after : HttpWorld C} (same : after.requests = (world.advance index phase).requests) :
    after.ServesOwners := by
  refine servesOwners_advance serves phase ?_ same
  intro request _ server serving
  rw [done request] at serving
  cases serving

theorem servesOwners_arrive (serves : world.ServesOwners) (owner : Option String) (id : String)
    (session : Nat) {after : HttpWorld C}
    (same : after.requests = world.requests ++ [⟨owner,id,session,.checkedOut⟩]) :
    after.ServesOwners := by
  intro position request found server serving
  rw [same,List.getElem?_append] at found
  split at found
  · exact serves position request found server serving
  · have fresh := List.mem_of_getElem? found
    rw [List.mem_singleton] at fresh
    subst fresh
    cases serving

theorem servesOwners_step {label : HttpLabel} (serves : world.ServesOwners)
    (taken : step http world label = some next) : next.ServesOwners := by
  -- A request goes on to the next phase with a server of the same requestor.
  have moves {index : Nat} {request : HttpRequest C} {server : Server C}
      (known : world.requests[index]? = some request) (held : request.server? = some server)
      {after : Server C} (same : after.requestor = server.requestor) :
      ∀ old, world.requests[index]? = some old → ∀ server',
        { old with phase := .processed after : HttpRequest C }.server? = some server' →
        server'.requestor = old.owner := by
    intro old there server' serving
    rw [known] at there
    cases there
    cases serving
    exact same.trans (serves index request known server held)
  cases step_taken taken with
  | elapse | setClock | storeChange | deleted | refused => exact serves
  | arrived owner => exact servesOwners_arrive serves owner _ _ rfl
  | found => exact servesOwners_arrive serves _ _ _ rfl
  | @rejected index | @unbuilt index | @absorbed index | @settled index | @tested index
  | @updated index => exact servesOwners_done serves index (fun _ => rfl) rfl
  | @restored index request session built known phase there made =>
    refine servesOwners_advance serves (.restored (session.restore built).2) ?_ rfl
    intro held here server serving
    rw [known] at here
    cases here
    cases serving
    rw [restore_requestor,build_requestor made]
  | unread known phase =>
    exact servesOwners_advance serves _
      (moves known (by simp [HttpRequest.server?,phase]) rfl) rfl
  | processed known phase | storeless known phase =>
    exact servesOwners_advance serves _ (moves known (by simp [HttpRequest.server?,phase])
      (handled_requestor _ _ _)) rfl

end HttpWorld

namespace ServedWorld

/-- Every record was filed under its own identifier, for the owner of the request that
drew it. -/
structure Filed (served : ServedWorld C) : Prop where
  serves : served.world.ServesOwners
  distinct : (served.drawn.map Prod.fst).Nodup
  drawn : ∀ store ∈ served.world.stores, ∀ taskId record, store.record? taskId = some record →
    (taskId,record.owner) ∈ served.drawn
  keyed : ∀ store ∈ served.world.stores, store.Keyed

theorem filed_empty : (empty : ServedWorld C).Filed where
  serves index request found := by cases found
  distinct := List.nodup_nil
  drawn store member := by cases member
  keyed store member := by cases member

variable {http : HttpServer C} {served next : ServedWorld C} {label : ServedLabel}

theorem drawn_step (taken : served.step http label = some next) :
    (∀ entry ∈ served.drawn, entry ∈ next.drawn) ∧
      ((served.drawn.map Prod.fst).Nodup → (next.drawn.map Prod.fst).Nodup) := by
  cases label with
  | store index op =>
    obtain ⟨-,rfl⟩ := step_store taken
    exact ⟨fun _ member => member,id⟩
  | http label =>
    obtain ⟨permitted,world,_,rfl⟩ := step_http taken
    cases label with
    | process index input freshId =>
      have fresh : freshId ∉ served.drawn.map Prod.fst := by simpa [permits] using permitted
      refine ⟨fun _ member => List.mem_cons_of_mem _ member,?_⟩
      intro distinct
      exact List.nodup_cons.mpr ⟨fresh,distinct⟩
    | elapse | setClock | checkoutNew | checkout | reject | restore | absorb | settle | test |
      update | delete | storeChange => exact ⟨fun _ member => member,id⟩

theorem servesOwners_of_step (serves : served.world.ServesOwners)
    (taken : served.step http label = some next) : next.world.ServesOwners := by
  cases label with
  | store index op =>
    obtain ⟨-,rfl⟩ := step_store taken
    exact serves
  | http label =>
    obtain ⟨_,world,stepped,rfl⟩ := step_http taken
    exact HttpWorld.servesOwners_step serves stepped

/-- Where a record that is there after a step comes from. -/
theorem record_origin (filed : served.Filed) (taken : served.step http label = some next)
    {store : TaskStore} (member : store ∈ next.world.stores) {taskId : String}
    {record : TaskRecord} (found : store.record? taskId = some record) :
    (∃ old ∈ served.world.stores, ∃ before, old.record? taskId = some before ∧
      record.owner = before.owner) ∨ (taskId,record.owner) ∈ next.drawn := by
  have effect := step_stores taken
  revert member effect
  generalize next.world.stores = stores
  intro member effect
  cases effect with
  | kept => exact .inl ⟨store,member,record,found,rfl⟩
  | donated =>
    rcases List.mem_append.mp member with old | fresh
    · exact .inl ⟨store,old,record,found,rfl⟩
    · rw [List.mem_singleton.mp fresh] at found
      cases found
  | used there plain =>
    rcases List.mem_or_eq_of_mem_set member with old | rfl
    · exact .inl ⟨store,old,record,found,rfl⟩
    · rcases TaskStore.perform_evolves found with ⟨before,known,evolves⟩ | ⟨created,_⟩
      · exact .inl ⟨_,List.mem_of_getElem? there,before,known,evolves.owner⟩
      · rw [plain] at created
        cases created
  | @started index position message freshId request server contents known phase _ _ there =>
    rcases List.mem_or_eq_of_mem_set member with old | rfl
    · exact .inl ⟨store,old,record,found,rfl⟩
    · rcases (TaskStore.perform_origin found).sameTask with ⟨before,was,same⟩ |
        ⟨_,_,_,asked,rfl⟩
      · exact .inl ⟨_,List.mem_of_getElem? there,before,was,same.owner⟩
      · cases asked
        obtain ⟨_,world,_,rfl⟩ := step_http taken
        have mine : server.requestor = request.owner :=
          filed.serves index request known server (by simp [HttpRequest.server?,phase])
        right
        simp [remember,known,TaskStore.freshRecord,mine]

theorem filed_step (served : ServedWorld C) (label : ServedLabel) (next : ServedWorld C)
    (filed : served.Filed) (taken : served.step http label = some next) : next.Filed where
  serves := servesOwners_of_step filed.serves taken
  distinct := (drawn_step taken).2 filed.distinct
  drawn store member taskId record found := by
    rcases record_origin filed taken member found with ⟨old,before,was,known,same⟩ | drawn
    · rw [same]
      exact (drawn_step taken).1 _ (filed.drawn old before taskId was known)
    · exact drawn
  keyed store member := by
    have effect := step_stores taken
    revert member effect
    generalize next.world.stores = stores
    intro member effect
    cases effect with
    | kept => exact filed.keyed store member
    | donated =>
      rcases List.mem_append.mp member with old | fresh
      · exact filed.keyed store old
      · rw [List.mem_singleton.mp fresh]
        intro taskId record found
        cases found
    | used there plain =>
      rcases List.mem_or_eq_of_mem_set member with old | rfl
      · exact filed.keyed store old
      · exact TaskStore.keyed_perform (filed.keyed _ (List.mem_of_getElem? there)) _
    | started known phase fresh reaches there =>
      rcases List.mem_or_eq_of_mem_set member with old | rfl
      · exact filed.keyed store old
      · exact TaskStore.keyed_perform (filed.keyed _ (List.mem_of_getElem? there)) _

theorem filed_of_run {labels : List ServedLabel} {final : ServedWorld C}
    (run : Runs.execute (step http) empty labels = some final) : final.Filed :=
  Runs.invariant filed_step run filed_empty

end ServedWorld

end SmlMcps
