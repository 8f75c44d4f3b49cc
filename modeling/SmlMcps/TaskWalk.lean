import SmlMcps.Server
import SmlMcps.TaskListing

/-! A client's walk through `tasks/list`: it starts without a cursor and follows each
`nextCursor`. A cursor is a position in the list, which is made anew for every page from
the records that are there; the walk shows every task that stays as long as no position
is overtaken by the tasks behind it. -/
namespace SmlMcps

variable {C : Type}

/-! ## What a page says -/

/-- The identifiers a client reads from a page. -/
def listedOn (page : Json) : List String :=
  match page.asObject.bind (JsonMap.lookup "tasks") with
  | some (.arr items) => items.filterMap fun item =>
    (item.asObject.bind (JsonMap.lookup "taskId")).bind Json.asString
  | _ => []

def cursorOn (page : Json) : Option String :=
  (page.asObject.bind (JsonMap.lookup "nextCursor")).bind Json.asString

/-- The request for the page at a cursor. -/
def listRequest (id : RequestId) (cursor : Option String) : JsonRpcRequest :=
  ⟨id,"tasks/list",cursor.map fun text => .obj [("cursor",.str text)]⟩

theorem Task.lookup_taskId (task : Task) :
    (task.toJson.asObject.bind (JsonMap.lookup "taskId")).bind Json.asString =
      some task.taskId := by
  obtain ⟨taskId,status,statusMessage,createdAt,lastUpdatedAt,ttl,pollInterval⟩ := task
  cases statusMessage <;> cases pollInterval <;>
    simp [Task.toJson,JsonMap.ofMembers]

theorem listedOn_page (tasks : List Task) (next : Option String) :
    listedOn (.obj (JsonMap.ofMembers
      [("tasks",some (.arr (tasks.map Task.toJson))),("nextCursor",next.map .str)])) =
      tasks.map Task.taskId := by
  have found : JsonMap.lookup "tasks" (JsonMap.ofMembers
      [("tasks",some (.arr (tasks.map Task.toJson))),("nextCursor",next.map .str)]) =
      some (.arr (tasks.map Task.toJson)) := by
    cases next <;> simp [JsonMap.ofMembers]
  simp only [listedOn,Json.asObject_obj,Option.bind_some,found]
  rw [List.filterMap_map]
  have read : ((fun item : Json => (item.asObject.bind (JsonMap.lookup "taskId")).bind
      Json.asString) ∘ Task.toJson) = some ∘ Task.taskId := by
    funext task
    exact task.lookup_taskId
  rw [read,List.filterMap_eq_map]

theorem cursorOn_page (tasks : List Task) (next : Option String) :
    cursorOn (.obj (JsonMap.ofMembers
      [("tasks",some (.arr (tasks.map Task.toJson))),("nextCursor",next.map .str)])) = next := by
  cases next <;> simp [cursorOn,JsonMap.ofMembers]

theorem paginate_ok {α : Type} {codec : CursorCodec} {items page : List α} {state : PageState}
    {next : Option String} (ok : paginate codec items state = .ok (page,next)) :
    page = (items.drop state.offset).take state.limit ∧
      next = state.nextCursor codec items.length page.length := by
  unfold paginate at ok
  split at ok
  · cases ok
  · split at ok
    · rename_i beyond
      cases ok
      have nothing : items.drop state.offset = [] := List.drop_eq_nil_of_le beyond
      rw [nothing]
      refine ⟨by simp,?_⟩
      simp [PageState.nextCursor,beyond]
    · cases ok
      exact ⟨rfl,rfl⟩

/-- A page of tasks starts at the cursor's position. -/
theorem taskPage_ok {config : ServerConfig} {all : List Task} {cursor : Option String}
    {page : Json} (ok : Server.taskPage config all cursor = .ok page) :
    ∃ state, PageState.fromCursor config.cursors cursor config.pageSize = .ok state ∧
      listedOn page = ((all.drop state.offset).take state.limit).map Task.taskId ∧
      cursorOn page = state.nextCursor config.cursors all.length
        ((all.drop state.offset).take state.limit).length := by
  unfold Server.taskPage at ok
  cases positioned : PageState.fromCursor config.cursors cursor config.pageSize with
  | error e =>
    rw [positioned] at ok
    cases ok
  | ok state =>
    rw [positioned] at ok
    simp only [bind,Except.bind] at ok
    split at ok
    · cases ok
    · split at ok
      · cases ok
      · rename_i paged cut
        cases ok
        obtain ⟨tasks,next⟩ := paged
        obtain ⟨rfl,rfl⟩ := paginate_ok cut
        exact ⟨state,rfl,listedOn_page _ _,cursorOn_page _ _⟩

/-! ## Positions -/

/-- Decoding gives back the text that was encoded. -/
def CursorCodec.RoundTrips (codec : CursorCodec) : Prop :=
  ∀ text, codec.decode (codec.encode text) = some text

/-- A cursor that is read at all is read as the offset it was made from. -/
theorem decodeCursor_encodeCursor {codec : CursorCodec} (roundTrips : codec.RoundTrips)
    {offset position : Nat}
    (read : PageState.decodeCursor codec (PageState.encodeCursor codec offset) = some position) :
    position = offset := by
  unfold PageState.decodeCursor PageState.encodeCursor at read
  rw [roundTrips,Option.bind_some,Nat.toString_eq_repr,Nat.toList_repr,
    parseUnsigned_toDigits_eq] at read
  split at read
  · exact (Option.some.inj read).symm
  · cases read

theorem fromCursor_ok {codec : CursorCodec} {cursor : Option String} {pageSize : Nat}
    {state : PageState} (ok : PageState.fromCursor codec cursor pageSize = .ok state) :
    (cursor = none → state.offset = 0) ∧
      ∀ text, cursor = some text → PageState.decodeCursor codec text = some state.offset := by
  cases cursor with
  | none =>
    cases ok
    exact ⟨fun _ => rfl,nofun⟩
  | some text =>
    simp only [PageState.fromCursor] at ok
    split at ok
    · rename_i offset read
      cases ok
      refine ⟨nofun,?_⟩
      intro other same
      cases same
      exact read
    · cases ok

/-- The places of the tasks a requestor has, in order. -/
def TaskStore.livePlaces (store : TaskStore) (now : SystemTime) (requestor : Requestor) :
    List (Stringᵒᵈ ×ₗ String) :=
  ((store.tasks.entries.filter fun entry =>
    entry.2.belongsTo requestor && !entry.2.expired now).map fun entry =>
      entry.2.task.place).insertionSort fun a b => a ≤ b

namespace TaskStore

variable {store : TaskStore} {now : SystemTime} {requestor : Requestor}

theorem mem_livePlaces_iff {place : Stringᵒᵈ ×ₗ String} :
    place ∈ store.livePlaces now requestor ↔ ∃ taskId record,
      (store.sweep now).visible taskId requestor = some record ∧ record.task.place = place := by
  simp only [livePlaces,List.mem_insertionSort,List.mem_map,List.mem_filter,Bool.and_eq_true,
    Bool.not_eq_true']
  constructor
  · rintro ⟨⟨taskId,record⟩,⟨member,mine,fresh⟩,rfl⟩
    refine ⟨taskId,record,visible_sweep_some.mpr ⟨?_,fresh⟩,rfl⟩
    exact Option.filter_eq_some_iff.mpr ⟨KeyedTable.lookup_eq_some_iff.mpr member,mine⟩
  · rintro ⟨taskId,record,seen,rfl⟩
    obtain ⟨there,fresh⟩ := visible_sweep_some.mp seen
    obtain ⟨known,mine⟩ := Option.filter_eq_some_iff.mp there
    exact ⟨⟨taskId,record⟩,⟨KeyedTable.lookup_eq_some_iff.mp known,mine,fresh⟩,rfl⟩

theorem livePlaces_ordered (keyed : store.Keyed) :
    Listing.Ordered id (store.livePlaces now requestor) := by
  have sorted : (store.livePlaces now requestor).Pairwise fun a b => a ≤ b :=
    List.pairwise_insertionSort _ _
  have distinct : (store.livePlaces now requestor).Nodup := by
    unfold livePlaces
    rw [(List.perm_insertionSort _ _).nodup_iff]
    -- The identifier can be read off a place, and is the key of the record.
    apply List.Nodup.of_map fun place : Stringᵒᵈ ×ₗ String => (ofLex place).2
    rw [List.map_map]
    have keys : (store.tasks.entries.filter fun entry =>
          entry.2.belongsTo requestor && !entry.2.expired now).map
          ((fun place => (ofLex place).2) ∘ fun entry => entry.2.task.place) =
        (store.tasks.entries.filter fun entry =>
          entry.2.belongsTo requestor && !entry.2.expired now).map Sigma.fst := by
      apply List.map_congr_left
      intro entry member
      exact keyed entry.1 entry.2 (KeyedTable.lookup_eq_some_iff.mpr (List.mem_filter.mp member).1)
    rw [keys]
    exact List.Nodup.sublist (List.filter_sublist.map Sigma.fst) store.tasks.nodupKeys
  exact (sorted.and distinct).imp fun le => lt_of_le_of_ne le.1 le.2

/-- The listing shows the live places. -/
theorem list_places (keyed : store.Keyed) :
    (store.list now requestor).2.map Task.place = store.livePlaces now requestor := by
  have listed : Listing.Ordered id ((store.list now requestor).2.map Task.place) :=
    List.pairwise_map.mpr (list_ordered keyed now requestor)
  refine listed.eq_of_mem_iff (livePlaces_ordered keyed) ?_
  intro place
  rw [List.mem_map,mem_livePlaces_iff]
  constructor
  · rintro ⟨task,member,rfl⟩
    obtain ⟨taskId,record,seen,rfl⟩ := mem_list_iff.mp member
    exact ⟨taskId,record,seen,rfl⟩
  · rintro ⟨taskId,record,seen,rfl⟩
    exact ⟨record.task,mem_list_iff.mpr ⟨taskId,record,seen,rfl⟩,rfl⟩

end TaskStore

/-! ## The walk -/

/-- `going` has the cursor the next page is asked for. -/
inductive WalkPhase where
  | going (cursor : Option String)
  | done
  | refused
  deriving DecidableEq

/-- `shown` are the identifiers read from the pages, and `listed` the places of the
requestor's tasks when the last page was made. -/
structure TaskWalk where
  run : StoreRun
  phase : WalkPhase
  shown : List String
  listed : List (Stringᵒᵈ ×ₗ String)

/-- Anything may happen to the store between two pages. -/
inductive WalkLabel where
  | op (op : StoreOp)
  | page (now : SystemTime) (id : RequestId)

namespace TaskWalk

def start (run : StoreRun) : TaskWalk := ⟨run,.going none,[],[]⟩

def stepPage (server : Server C) (walk : TaskWalk) (cursor : Option String) (now : SystemTime)
    (id : RequestId) : TaskWalk :=
  let (after,answer) := server.handleTaskList walk.run.store now (listRequest id cursor)
  match answer with
  | .error _ => { walk with run := { walk.run with store := after }, phase := .refused }
  | .ok page =>
    { run := { walk.run with store := after }
      phase := match cursorOn page with
        | some next => .going (some next)
        | none => .done
      shown := walk.shown ++ listedOn page
      listed := walk.run.store.livePlaces now server.requestor }

def step (server : Server C) (walk : TaskWalk) : WalkLabel → Option TaskWalk
  | .op op => (walk.run.step op).map fun run => { walk with run := run }
  | .page now id =>
    match walk.phase with
    | .going cursor => some (walk.stepPage server cursor now id)
    | _ => none

/-- The offset the next page starts at, once a page has been read. -/
def position (server : Server C) (walk : TaskWalk) : Option Nat :=
  match walk.phase with
  | .going (some cursor) => PageState.decodeCursor server.config.cursors cursor
  | _ => none

/-- When a page is made, the position still has behind it what was there and stays. -/
def KeepsPlace (server : Server C) (walk : TaskWalk) : WalkLabel → Prop
  | .op _ => True
  | .page now _ => ∀ offset ∈ walk.position server,
    Listing.KeepsPlace offset walk.listed (walk.run.store.livePlaces now server.requestor)

instance (server : Server C) (walk : TaskWalk) : (label : WalkLabel) →
    Decidable (walk.KeepsPlace server label)
  | .op _ => isTrue trivial
  | .page _ _ => by
    unfold KeepsPlace
    infer_instance

/-- The task is there for the requestor to see. -/
def Present (server : Server C) (taskId : String) (walk : TaskWalk) : Prop :=
  (walk.run.store.visible taskId server.requestor).isSome = true

instance (server : Server C) (taskId : String) : DecidablePred (Present server taskId) :=
  fun _ => inferInstanceAs (Decidable (_ = true))

/-- How far a walk has come with a task: it is still to be listed, was shown, or is
behind the position. -/
inductive Progress (server : Server C) (taskId : String) (place : Stringᵒᵈ ×ₗ String)
    (walk : TaskWalk) : Prop
  | first (phase : walk.phase = .going none)
  | further (cursor : String) (offset : Nat) (phase : walk.phase = .going (some cursor))
      (encoded : cursor = PageState.encodeCursor server.config.cursors offset)
      (within : offset ≤ walk.listed.length)
      (there : taskId ∈ walk.shown ∨ place ∈ walk.listed.drop offset)
  | ended (phase : walk.phase = .done) (shown : taskId ∈ walk.shown)
  | refused (phase : walk.phase = .refused)

structure Covers (server : Server C) (taskId : String) (place : Stringᵒᵈ ×ₗ String)
    (walk : TaskWalk) : Prop where
  filed : walk.run.Filed
  here : ∃ record, walk.run.store.visible taskId server.requestor = some record ∧
    record.task.place = place
  ordered : Listing.Ordered id walk.listed
  progress : walk.Progress server taskId place

variable {server : Server C} {taskId : String} {place : Stringᵒᵈ ×ₗ String}
  {walk : TaskWalk}

theorem listCursor_listRequest {id : RequestId} {cursor found : Option String}
    (read : server.listCursor (listRequest id cursor) = .ok found) : found = cursor := by
  unfold Server.listCursor at read
  cases supported : server.taskStoreOrUnsupported with
  | error e =>
    rw [supported] at read
    cases read
  | ok _ =>
    rw [supported] at read
    simp only [bind,Except.bind] at read
    split at read
    · cases cursor with
      | none =>
        cases read
        rfl
      | some text =>
        have same : (.ok (some text) : Except McpError (Option String)) = .ok found := read
        cases same
        rfl
    · cases read

/-- A page that is answered, or a walk refused. -/
inductive Paged (server : Server C) (walk : TaskWalk) (cursor : Option String)
    (now : SystemTime) : TaskWalk → Prop
  | refused (after : TaskStore)
      (same : after = walk.run.store ∨ after = walk.run.store.sweep now) :
      Paged server walk cursor now
        { walk with run := { walk.run with store := after }, phase := .refused }
  | answered (state : PageState)
      (positioned : PageState.fromCursor server.config.cursors cursor server.config.pageSize =
        .ok state) (shown : List Task)
      (cut : shown = ((walk.run.store.list now server.requestor).2.drop state.offset).take
        state.limit) :
      Paged server walk cursor now
        { run := { walk.run with store := walk.run.store.sweep now }
          phase := match state.nextCursor server.config.cursors
              (walk.run.store.list now server.requestor).2.length shown.length with
            | some next => .going (some next)
            | none => .done
          shown := walk.shown ++ shown.map Task.taskId
          listed := walk.run.store.livePlaces now server.requestor }

theorem stepPage_paged (server : Server C) (walk : TaskWalk) (cursor : Option String)
    (now : SystemTime) (id : RequestId) :
    Paged server walk cursor now (walk.stepPage server cursor now id) := by
  unfold stepPage Server.handleTaskList
  cases read : server.listCursor (listRequest id cursor) with
  | error e => exact .refused _ (.inl rfl)
  | ok found =>
    cases listCursor_listRequest read
    simp only
    cases answer : Server.taskPage server.config (walk.run.store.list now server.requestor).2
        cursor with
    | error e => exact .refused _ (.inr rfl)
    | ok page =>
      obtain ⟨state,positioned,shown,next⟩ := taskPage_ok answer
      simp only [shown,next]
      exact .answered state positioned _ rfl

theorem covers_op (covers : walk.Covers server taskId place) {op : StoreOp} {after : StoreRun}
    (taken : walk.run.step op = some after)
    (present : Present server taskId { walk with run := after }) :
    Covers server taskId place { walk with run := after } where
  filed := StoreRun.filed_step walk.run op after covers.filed taken
  here := by
    obtain ⟨record,seen⟩ := Option.isSome_iff_exists.mp present
    obtain ⟨old,seen',same⟩ := covers.here
    have continues := covers.filed.continues taken (TaskStore.visible_some seen').1
      (TaskStore.visible_some seen).1
    exact ⟨record,seen,continues.2.2.place.trans same⟩
  ordered := covers.ordered
  progress := by
    cases covers.progress with
    | first phase => exact .first phase
    | further cursor offset phase encoded within there =>
      exact .further cursor offset phase encoded within there
    | ended phase shown => exact .ended phase shown
    | refused phase => exact .refused phase

/-- A task behind the start of a page is on the page or behind its end. -/
theorem page_progress {all : List Task} {task : Task} (offset limit : Nat)
    (behind : task ∈ all.drop offset) :
    task ∈ (all.drop offset).take limit ∨
      offset + ((all.drop offset).take limit).length < all.length ∧
        task ∈ all.drop (offset + ((all.drop offset).take limit).length) := by
  rw [← List.take_append_drop limit (all.drop offset),List.mem_append] at behind
  rcases behind with page | later
  · exact .inl page
  · right
    have more := List.length_pos_of_mem later
    rw [List.drop_drop,List.length_drop] at more
    have full : ((all.drop offset).take limit).length = limit := by
      rw [List.length_take,List.length_drop]
      omega
    rw [full]
    rw [List.drop_drop] at later
    exact ⟨by omega,later⟩

/-- Looking at the store keeps the task's record, or drops it. -/
theorem Covers.looked (covers : walk.Covers server taskId place) {now : SystemTime}
    {after : TaskStore} (same : after = walk.run.store ∨ after = walk.run.store.sweep now) :
    ({ walk.run with store := after } : StoreRun).Filed ∧
      ∀ record, after.visible taskId server.requestor = some record →
        record.task.place = place := by
  obtain ⟨old,seen,samePlace⟩ := covers.here
  rcases same with rfl | rfl
  · refine ⟨covers.filed,?_⟩
    intro record found
    rw [seen] at found
    cases found
    exact samePlace
  · refine ⟨StoreRun.filed_step walk.run (.isEmpty now) _ covers.filed rfl,?_⟩
    intro record found
    have there := (TaskStore.visible_sweep_some.mp found).1
    rw [seen] at there
    cases there
    exact samePlace

/-- The task is behind the start of the page, unless it was shown before. -/
theorem Covers.behind (roundTrips : server.config.cursors.RoundTrips)
    (covers : walk.Covers server taskId place) {cursor : Option String} {now : SystemTime}
    {id : RequestId} (phase : walk.phase = .going cursor)
    (kept : walk.KeepsPlace server (.page now id)) {state : PageState}
    (positioned : PageState.fromCursor server.config.cursors cursor server.config.pageSize =
      .ok state)
    (there : place ∈ walk.run.store.livePlaces now server.requestor) :
    taskId ∈ walk.shown ∨
      place ∈ (walk.run.store.livePlaces now server.requestor).drop state.offset := by
  obtain ⟨start,read⟩ := fromCursor_ok positioned
  cases covers.progress with
  | first going =>
    rw [going] at phase
    cases phase
    right
    rw [start rfl]
    exact there
  | further text offset going encoded within behind =>
    rw [going] at phase
    cases phase
    have offsets := read text rfl
    have decoded := offsets
    rw [encoded] at decoded
    have position : state.offset ∈ walk.position server := by
      simp only [TaskWalk.position,going]
      exact offsets
    rw [decodeCursor_encodeCursor roundTrips decoded] at position ⊢
    rcases behind with shown | behind
    · exact .inl shown
    · right
      have ordered := @TaskStore.livePlaces_ordered _ now server.requestor covers.filed.keyed
      exact (Listing.keepsPlace_iff covers.ordered ordered within).mp (kept offset position) place
        behind there
  | ended going => rw [going] at phase; cases phase
  | refused going => rw [going] at phase; cases phase

theorem covers_page (roundTrips : server.config.cursors.RoundTrips)
    (covers : walk.Covers server taskId place) {cursor : Option String} {now : SystemTime}
    {id : RequestId} (phase : walk.phase = .going cursor)
    (kept : walk.KeepsPlace server (.page now id)) {after : TaskWalk}
    (paged : Paged server walk cursor now after) (present : after.Present server taskId) :
    after.Covers server taskId place := by
  obtain ⟨record,seen⟩ := Option.isSome_iff_exists.mp present
  cases paged with
  | refused store same =>
    obtain ⟨filed,places⟩ := covers.looked same
    exact ⟨filed,⟨record,seen,places record seen⟩,covers.ordered,.refused rfl⟩
  | answered state positioned shown cut =>
    obtain ⟨filed,places⟩ := covers.looked (.inr rfl : _ ∨ _ = walk.run.store.sweep now)
    have placed := places record seen
    have keyed := covers.filed.keyed
    have there := TaskStore.mem_livePlaces_iff.mpr ⟨taskId,record,seen,placed⟩
    have listed := @TaskStore.list_places walk.run.store now server.requestor keyed
    refine ⟨filed,⟨record,seen,placed⟩,TaskStore.livePlaces_ordered keyed,?_⟩
    -- The task was shown, is on this page, or is behind its end.
    have progress : taskId ∈ walk.shown ++ shown.map Task.taskId ∨
        state.offset + shown.length < (walk.run.store.list now server.requestor).2.length ∧
          place ∈ (walk.run.store.livePlaces now server.requestor).drop
            (state.offset + shown.length) := by
      rcases covers.behind roundTrips phase kept positioned there with before | behind
      · exact .inl (List.mem_append_left _ before)
      · rw [← listed,← List.map_drop,List.mem_map] at behind
        obtain ⟨task,behind,same⟩ := behind
        have named : task.taskId = taskId := by
          have ids := congrArg (fun place : Stringᵒᵈ ×ₗ String => (ofLex place).2)
            (same.trans placed.symm)
          exact ids.trans (TaskStore.keyed_sweep keyed now taskId record
            (TaskStore.visible_some seen).1)
        rcases page_progress state.offset state.limit behind with page | ⟨more,later⟩
        · rw [← cut] at page
          exact .inl (List.mem_append_right _ (List.mem_map.mpr ⟨task,page,named⟩))
        · rw [← cut] at more later
          right
          rw [← listed,← List.map_drop]
          exact ⟨more,List.mem_map.mpr ⟨task,later,same⟩⟩
    have lengths := congrArg List.length listed
    rw [List.length_map] at lengths
    by_cases more : state.offset + shown.length <
        (walk.run.store.list now server.requestor).2.length
    · refine .further _ (state.offset + shown.length) ?_ rfl (by simp only; omega) ?_
      · simp only [PageState.nextCursor,if_pos more]
      · rcases progress with shown | ⟨_,later⟩
        · exact .inl shown
        · exact .inr later
    · refine .ended ?_ ?_
      · simp only [PageState.nextCursor,if_neg more]
      · rcases progress with shown | ⟨further,_⟩
        · exact shown
        · exact absurd further more

theorem covers_step (roundTrips : server.config.cursors.RoundTrips) (walk : TaskWalk)
    (label : WalkLabel) (next : TaskWalk) (covers : walk.Covers server taskId place)
    (kept : walk.KeepsPlace server label) (present : next.Present server taskId)
    (taken : walk.step server label = some next) : next.Covers server taskId place := by
  cases label with
  | op op =>
    obtain ⟨after,stepped,rfl⟩ := Option.map_eq_some_iff.mp taken
    exact covers_op covers stepped present
  | page now id =>
    simp only [step] at taken
    split at taken
    · rename_i cursor phase
      cases taken
      exact covers_page roundTrips covers phase kept (stepPage_paged server walk cursor now id)
        present
    · cases taken

end TaskWalk

/-- A walk that ends without an error has shown every task that was there from its start
to its end, if every page found behind the position what was there and stayed. -/
theorem walk_shows_all (server : Server C) (roundTrips : server.config.cursors.RoundTrips)
    (config : TaskConfig) (earlier : List StoreOp) (run : StoreRun)
    (reached : Runs.execute StoreRun.step (.empty config) earlier = some run)
    (labels : List WalkLabel) (final : TaskWalk)
    (walked : Runs.execute (TaskWalk.step server) (.start run) labels = some final)
    (kept : Runs.Guarded (TaskWalk.step server) (TaskWalk.KeepsPlace server) (.start run) labels)
    (ended : final.phase = .done) (taskId : String)
    (stays : Runs.Throughout (TaskWalk.step server) (TaskWalk.Present server taskId)
      (.start run) labels) : taskId ∈ final.shown := by
  obtain ⟨record,seen⟩ := Option.isSome_iff_exists.mp stays.start
  have start : (TaskWalk.start run).Covers server taskId record.task.place :=
    ⟨StoreRun.filed_of_run reached,⟨record,seen,rfl⟩,List.Pairwise.nil,.first rfl⟩
  have covers := Runs.guarded_throughout (TaskWalk.covers_step roundTrips) kept stays walked start
  cases covers.progress with
  | first phase => rw [ended] at phase; cases phase
  | further cursor offset phase => rw [ended] at phase; cases phase
  | ended phase shown => exact shown
  | refused phase => rw [ended] at phase; cases phase

/-! ### Pages of one task -/

/-- The encoding of the crate for the digits 1 to 3; any other text is marked. -/
def digitCodec : CursorCodec where
  encode text :=
    match text.toList with
    | ['1'] => "MQ"
    | ['2'] => "Mg"
    | ['3'] => "Mw"
    | chars => String.ofList ('~' :: chars)
  decode cursor :=
    match cursor.toList with
    | ['M','Q'] => some "1"
    | ['M','g'] => some "2"
    | ['M','w'] => some "3"
    | '~' :: chars => some (String.ofList chars)
    | _ => none

theorem digitCodec_roundTrips : digitCodec.RoundTrips := by
  intro text
  have read {digit : List Char} (held : text.toList = digit) : text = String.ofList digit := by
    rw [← held,String.ofList_toList]
  by_cases one : text.toList = ['1']
  · rw [read one]
    rfl
  · by_cases two : text.toList = ['2']
    · rw [read two]
      rfl
    · by_cases three : text.toList = ['3']
      · rw [read three]
        rfl
      · have marked : digitCodec.encode text = String.ofList ('~' :: text.toList) := by
          simp only [digitCodec]
        rw [marked]
        simp [digitCodec]

def pageOfOne : Server Unit :=
  let server : Server Unit :=
    Server.new { ServerConfig.default "0.7.3" digitCodec with pageSize := 1 }
  { server with tasks := some ⟨0,.default,.ok ()⟩, taskContext := .owner "alice" }

/-- Three tasks of one second, the first of them with a lifetime of a millisecond. -/
def threeTasks : List StoreOp :=
  [.create 0 "a" (some 1) (some "alice"),.create 0 "b" none (some "alice"),
    .create 0 "c" none (some "alice")]

/-- A task joins ahead of the position, and nothing is missed. -/
def walkWithNewcomer : List WalkLabel :=
  [.page 0 (.number 1),.op (.finish 0 "b" .completed (.value .null)),
    .op (.create 0 "A" none (some "alice")),.page 0 (.number 2),.page 0 (.number 3),
    .page 0 (.number 4)]

theorem walkWithNewcomer_shows_all :
    ∃ run final, Runs.execute StoreRun.step (.empty .default) threeTasks = some run ∧
      Runs.execute (TaskWalk.step pageOfOne) (.start run) walkWithNewcomer = some final ∧
      "c" ∈ final.shown :=
  ⟨_,_,rfl,rfl,walk_shows_all pageOfOne digitCodec_roundTrips .default threeTasks _ rfl
    walkWithNewcomer _ rfl (by decide +kernel) rfl "c" (by decide +kernel)⟩

/-- The first task expires after the first page, and the second is passed over. -/
theorem expiry_skips_task :
    ∃ run final, Runs.execute StoreRun.step (.empty .default) threeTasks = some run ∧
      Runs.execute (TaskWalk.step pageOfOne) (.start run)
        [.page 0 (.number 1),.page 2000000 (.number 2)] = some final ∧
      final.phase = .done ∧
      Runs.Throughout (TaskWalk.step pageOfOne) (TaskWalk.Present pageOfOne "b") (.start run)
        [.page 0 (.number 1),.page 2000000 (.number 2)] ∧
      "b" ∉ final.shown :=
  ⟨_,_,rfl,rfl,rfl,by decide +kernel,by decide +kernel⟩

end SmlMcps
