import Mathlib.Data.List.Perm.Basic
import SmlMcps.HttpTasks

/-! How many tasks one identity can have running over HTTP. The limit is counted in the
store a request is given, and every session has a store of its own, a request that
names no session included: an identity in several sessions is counted in each of them
separately. -/
namespace SmlMcps

variable {C : Type}

/-- The setup enables tasks on the store it is given, always with the same limits. -/
def HttpServer.EnablesTasks (http : HttpServer C) (limits : TaskConfig) : Prop :=
  ∀ store server built, http.setup store server = .ok built →
    ∃ factory, built.tasks = some ⟨store,limits,factory⟩

namespace ServedWorld

/-- The running tasks of an owner, whatever store they are in. -/
def running (served : ServedWorld C) (owner : Requestor) : Nat :=
  (served.world.stores.map fun store => store.running owner).sum

/-- The running tasks of an owner in the stores but one. -/
def elsewhere (served : ServedWorld C) (index : Nat) (owner : Requestor) : Nat :=
  ((served.world.stores.eraseIdx index).map fun store => store.running owner).sum

/-- The server of a restored request, and the store it reaches. -/
def reaches (served : ServedWorld C) (index : Nat) : Option (Server C × Nat × TaskStore) := do
  let request ← served.world.requests[index]?
  match request.phase with
  | .restored server =>
    let store ← server.taskStore
    let contents ← served.world.stores[store]?
    some (server,store,contents)
  | _ => none

/-- A task that the request's own store has room for fits into the limit with what the
requestor has running in the other stores. -/
def sparesIdentity (served : ServedWorld C) : ServedLabel → Bool
  | .http (.process index (.ok message) _) => (served.reaches index).all fun reached =>
    let server := reached.1
    let swept := reached.2.2.sweep served.world.wall
    !(server.asksForTask message && swept.admits server.requestor) ||
      served.elsewhere reached.2.1 server.requestor + swept.running server.requestor <
        swept.config.maxConcurrent
  | _ => true

structure Limited (limits : TaskConfig) (served : ServedWorld C) : Prop where
  filed : served.Filed
  configs : ∀ store ∈ served.world.stores, store.config = limits
  running : ∀ owner, served.running owner ≤ limits.maxConcurrent

section Sums

variable {stores : List TaskStore} {index : Nat} {store : TaskStore} (count : TaskStore → Nat)

theorem sum_set (there : stores[index]? = some store) (other : TaskStore) :
    ((stores.set index other).map count).sum =
      count other + ((stores.eraseIdx index).map count).sum := by
  obtain ⟨bound,same⟩ := List.getElem?_eq_some_iff.mp there
  have inside : index < (stores.set index other).length := by simpa using bound
  have perm := List.getElem_cons_eraseIdx_perm inside
  rw [List.getElem_set_self,List.eraseIdx_set_eq] at perm
  rw [← (perm.map count).sum_nat,List.map_cons,List.sum_cons]

theorem sum_eraseIdx (there : stores[index]? = some store) :
    (stores.map count).sum = count store + ((stores.eraseIdx index).map count).sum := by
  obtain ⟨bound,same⟩ := List.getElem?_eq_some_iff.mp there
  have unchanged : stores.set index store = stores := by rw [← same,List.set_getElem_self]
  rw [← sum_set count there store,unchanged]

/-- One store changed, and its count did not grow. -/
theorem sum_set_le (there : stores[index]? = some store) {other : TaskStore}
    (fewer : count other ≤ count store) :
    ((stores.set index other).map count).sum ≤ (stores.map count).sum := by
  rw [sum_set count there,sum_eraseIdx count there]
  omega

end Sums

variable {http : HttpServer C} {limits : TaskConfig} {served next : ServedWorld C}

theorem reaches_some {index store : Nat} {request : HttpRequest C} {server : Server C}
    {contents : TaskStore} (known : served.world.requests[index]? = some request)
    (phase : request.phase = .restored server) (reached : server.taskStore = some store)
    (there : served.world.stores[store]? = some contents) :
    served.reaches index = some (server,store,contents) := by
  simp [reaches,known,phase,reached,there]

/-- A store donated by a fresh server has the limits of the setup. -/
theorem build_limits (enables : http.EnablesTasks limits) {owner : Option String} {store : Nat}
    {server : Server C} {runtime : TaskRuntime C} (built : http.build owner store = .ok server)
    (enabled : server.tasks = some runtime) : runtime.storeConfig = limits := by
  unfold HttpServer.build at built
  cases ran : http.setup store (Server.new http.config) with
  | error e =>
    rw [ran] at built
    cases built
  | ok made =>
    rw [ran] at built
    cases built
    obtain ⟨factory,same⟩ := enables store _ made ran
    have here : made.tasks = some runtime := enabled
    rw [same] at here
    cases here
    rfl

theorem configs_step {label : ServedLabel} (enables : http.EnablesTasks limits)
    (configs : ∀ store ∈ served.world.stores, store.config = limits)
    (taken : served.step http label = some next) :
    ∀ store ∈ next.world.stores, store.config = limits := by
  have effect := step_stores taken
  revert effect
  generalize next.world.stores = stores
  intro effect store member
  cases effect with
  | kept => exact configs store member
  | donated known built enabled =>
    rcases List.mem_append.mp member with old | fresh
    · exact configs store old
    · rw [List.mem_singleton.mp fresh]
      exact build_limits enables built enabled
  | used there plain =>
    rcases List.mem_or_eq_of_mem_set member with old | rfl
    · exact configs store old
    · exact (TaskStore.perform_config _ _).trans (configs _ (List.mem_of_getElem? there))
  | started known phase fresh reached there =>
    rcases List.mem_or_eq_of_mem_set member with old | rfl
    · exact configs store old
    · exact (TaskStore.perform_config _ _).trans (configs _ (List.mem_of_getElem? there))

theorem running_step {label : ServedLabel} (limited : served.Limited limits)
    (spares : served.sparesIdentity label = true)
    (taken : served.step http label = some next) (owner : Requestor) :
    next.running owner ≤ limits.maxConcurrent := by
  have before := limited.running owner
  have effect := step_stores taken
  unfold running at before ⊢
  revert effect
  generalize next.world.stores = stores
  intro effect
  cases effect with
  | kept => exact before
  | donated known built enabled =>
    rw [List.map_append,List.sum_append]
    exact before
  | used there plain =>
    exact Nat.le_trans (sum_set_le _ there (TaskStore.running_perform_le plain owner)) before
  | @started index position message freshId request server contents known phase fresh reached
      there asks ttl =>
    have absent : contents.record? freshId = none := by
      by_contra present
      obtain ⟨record,found⟩ := Option.ne_none_iff_exists'.mp present
      have drawn := limited.filed.drawn contents (List.mem_of_getElem? there) freshId record found
      exact fresh (List.mem_map.mpr ⟨_,drawn,rfl⟩)
    rcases TaskStore.running_create_le absent ttl server.requestor owner with
      fewer | ⟨rfl,admitted,grown⟩
    · exact Nat.le_trans (sum_set_le _ there fewer) before
    · -- The new task is counted by its store; the guard has counted the others.
      have config := limited.configs contents (List.mem_of_getElem? there)
      simp only [sparesIdentity,reaches_some known phase reached there,Option.all_some,asks,
        admitted,Bool.and_self,Bool.not_true,Bool.false_or,decide_eq_true_eq] at spares
      have limit : (contents.sweep served.world.wall).config = limits := config
      rw [limit] at spares
      rw [sum_set _ there]
      simp only [elsewhere] at spares
      omega

theorem limited_step (enables : http.EnablesTasks limits) (served : ServedWorld C)
    (label : ServedLabel) (next : ServedWorld C) (limited : served.Limited limits)
    (spares : served.sparesIdentity label = true)
    (taken : served.step http label = some next) : next.Limited limits where
  filed := filed_step served label next limited.filed taken
  configs := configs_step enables limited.configs taken
  running := running_step limited spares taken

theorem limited_empty : (empty : ServedWorld C).Limited limits where
  filed := filed_empty
  configs store member := by cases member
  running owner := Nat.zero_le _

end ServedWorld

/-- In a run in which every task a store has room for fits in with what its requestor has
running in the other stores, no identity ever has more tasks running than the limit. -/
theorem identity_tasks_limited (http : HttpServer C) (limits : TaskConfig)
    (enables : http.EnablesTasks limits) (labels : List ServedLabel) (final : ServedWorld C)
    (run : Runs.execute (ServedWorld.step http) .empty labels = some final)
    (spared : Runs.Guarded (ServedWorld.step http)
      (fun served label => served.sparesIdentity label = true) .empty labels)
    (owner : Requestor) : final.running owner ≤ limits.maxConcurrent :=
  (Runs.guarded_invariant (ServedWorld.limited_step enables) spared run
    ServedWorld.limited_empty).running owner

/-! ### One task at a time -/

def oneTask : TaskConfig := ⟨300000,3600000,1000,1,1024⟩

def oneTaskHttp : HttpServer Unit where
  config := ServerConfig.default "0.7.3" ⟨id,some⟩
  setup store server := .ok { server with
    tools := server.tools.insert "job" ⟨.constant "job" (.ok (.error "done")),none,.none⟩
    tasks := some ⟨store,oneTask,.ok ()⟩ }

def startJob : JsonRpcMessage :=
  .request ⟨.number 1,"tools/call",some (.obj [("name",.str "job"),("task",.obj [])])⟩

/-- A request of Alice's that names no session and starts a task. -/
def jobInNewSession (index : Nat) (byte : UInt8) (taskId : String) : List ServedLabel :=
  [.http (.checkoutNew (some "alice") [byte]),.http (.restore index),
    .http (.process index (.ok startJob) taskId)]

theorem oneTaskHttp_enables : oneTaskHttp.EnablesTasks oneTask := by
  intro store server built made
  cases made
  exact ⟨_,rfl⟩

/-- The first task is done when the second one starts. -/
theorem jobAfterJob_limited :
    ∃ final, Runs.execute (ServedWorld.step oneTaskHttp) .empty (jobInNewSession 0 0 "first" ++
        [.store 0 (.finish 1 "first" .completed (.value .null))] ++
        jobInNewSession 1 1 "second") = some final ∧ final.running (some "alice") ≤ 1 :=
  ⟨_,rfl,identity_tasks_limited oneTaskHttp oneTask oneTaskHttp_enables
    (jobInNewSession 0 0 "first" ++ [.store 0 (.finish 1 "first" .completed (.value .null))] ++
      jobInNewSession 1 1 "second") _ rfl (by decide +kernel) (some "alice")⟩

/-- Two requests that name no session, one task each. -/
theorem twoSessions_unlimited :
    ∃ final, Runs.execute (ServedWorld.step oneTaskHttp) .empty
        (jobInNewSession 0 0 "first" ++ jobInNewSession 1 1 "second") = some final ∧
      oneTaskHttp.EnablesTasks oneTask ∧
      ¬final.running (some "alice") ≤ oneTask.maxConcurrent :=
  ⟨_,rfl,fun store server built made => by cases made; exact ⟨_,rfl⟩,by decide +kernel⟩

end SmlMcps
