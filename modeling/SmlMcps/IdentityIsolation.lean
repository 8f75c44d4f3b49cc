import SmlMcps.Auth
import SmlMcps.SessionTasks

/-! Isolation of identities over HTTP. A request reaches a session through a key made of
its own identity, and a task through a server that asks on behalf of its own identity;
what it finds in either way was made under the same identity. -/
namespace SmlMcps

variable {C : Type}

/-- The owner is an identity whose claims the validator let through. -/
def JwtValidator.Owns (validator : JwtValidator) (owner : Option String) : Prop :=
  ∃ claims, validator.Accepts claims ∧ owner = some (ownerOf claims)

/-- The owner a request is made or a session ended under. -/
def ServedLabel.bearer : ServedLabel → Option (Option String)
  | .http (.checkoutNew owner _) | .http (.checkout owner _) | .http (.delete owner _) => some owner
  | _ => none

def ServedLabel.Authenticated (validator : JwtValidator) (label : ServedLabel) : Prop :=
  ∀ owner, label.bearer = some owner → validator.Owns owner

theorem key_inj {validator : JwtValidator} {owner other : Option String} {id id' : String}
    (one : validator.Owns owner) (two : validator.Owns other)
    (same : Sessions.key owner id = Sessions.key other id') : owner = other ∧ id = id' := by
  obtain ⟨claims,accepted,rfl⟩ := one
  obtain ⟨claims',accepted',rfl⟩ := two
  obtain ⟨identity,identifier⟩ := (key_eq_iff accepted accepted' id id').mp same
  exact ⟨congrArg some ((ownerOf_eq_iff accepted accepted').mpr identity),identifier⟩

/-! ## Sessions -/

/-- What a step does to the sessions: a request that names none brings one, and a request
works in its own. -/
inductive SessionsEffect (world : HttpWorld C) : HttpLabel → List Session → Prop
  | kept {label : HttpLabel} (names : ∀ owner entropy, label ≠ .checkoutNew owner entropy) :
      SessionsEffect world label world.sessions
  | opened (owner : Option String) (entropy : List UInt8) :
      SessionsEffect world (.checkoutNew owner entropy) (world.sessions ++ [.default])
  | worked {label : HttpLabel} (names : ∀ owner entropy, label ≠ .checkoutNew owner entropy)
      {index : Nat} {request : HttpRequest C} (known : world.requests[index]? = some request)
      (held : Session) : SessionsEffect world label (world.sessions.set request.session held)

theorem HttpWorld.step_sessions {http : HttpServer C} {world next : HttpWorld C}
    {label : HttpLabel} (taken : HttpWorld.step http world label = some next) :
    SessionsEffect world label next.sessions := by
  cases step_taken taken with
  | arrived owner => exact .opened owner _
  | restored known => exact .worked (fun _ _ same => by cases same) known _
  | absorbed known => exact .worked (fun _ _ same => by cases same) known _
  | elapse | setClock | storeChange | refused | found | deleted | rejected | unbuilt | unread
  | processed | storeless | settled | tested | updated =>
    exact .kept fun _ _ same => by cases same

theorem HttpWorld.process_known {http : HttpServer C} {world next : HttpWorld C} {index : Nat}
    {input : Except McpError JsonRpcMessage} {freshId : String}
    (taken : HttpWorld.step http world (.process index input freshId) = some next) :
    ∃ request, world.requests[index]? = some request := by
  cases step_taken taken with
  | unread known | processed known | storeless known => exact ⟨_,known⟩

namespace ServedWorld

/-- Whoever works in a session, and whatever key finds it, has the owner and the
identifier it was made under; sessions and tasks are made by accepted identities. -/
structure Named (validator : JwtValidator) (served : ServedWorld C) : Prop where
  born : ∀ birth ∈ served.births, validator.Owns birth.1
  drew : ∀ entry ∈ served.drawn, validator.Owns entry.2
  length : served.births.length = served.world.sessions.length
  works : ∀ (index : Nat) (request : HttpRequest C),
    served.world.requests[index]? = some request →
    served.births[request.session]? = some (request.owner,request.id)
  filed : ∀ key entry, AList.lookup key served.world.table = some entry →
    ∃ owner id, served.births[entry.state]? = some (owner,id) ∧ key = Sessions.key owner id

theorem named_empty (validator : JwtValidator) : (empty : ServedWorld C).Named validator where
  born birth member := by cases member
  drew entry member := by cases member
  length := rfl
  works index request found := by cases found
  filed key entry found := by cases found

variable {validator : JwtValidator} {http : HttpServer C} {served next : ServedWorld C}

/-- A lookup under an accepted identity finds a session made under it. -/
theorem Named.lookup (named : served.Named validator) {owner : Option String} {id : String}
    {entry : SessionEntry} (owns : validator.Owns owner)
    (found : AList.lookup (Sessions.key owner id) served.world.table = some entry) :
    served.births[entry.state]? = some (owner,id) := by
  obtain ⟨owner',id',born,same⟩ := named.filed _ entry found
  have owns' := named.born _ (List.mem_of_getElem? born)
  obtain ⟨rfl,rfl⟩ := key_inj owns owns' same
  exact born

/-- Every request is an accepted identity's. -/
theorem Named.owns (named : served.Named validator) {index : Nat} {request : HttpRequest C}
    (known : served.world.requests[index]? = some request) : validator.Owns request.owner :=
  named.born _ (List.mem_of_getElem? (named.works index request known))

/-- A birth keeps its place in the history. -/
theorem born_remember {session : Nat} {birth : Option String × String}
    (born : served.births[session]? = some birth) (label : HttpLabel) (world : HttpWorld C) :
    (served.remember label world).births[session]? = some birth := by
  cases label with
  | checkoutNew owner entropy =>
    have bound := (List.getElem?_eq_some_iff.mp born).1
    simp only [remember]
    rw [List.getElem?_append_left bound]
    exact born
  | elapse | setClock | checkout | reject | restore | process | absorb | settle | test |
    update | delete | storeChange => exact born

theorem births_length (length : served.births.length = served.world.sessions.length)
    {label : HttpLabel} {world : HttpWorld C}
    (effect : SessionsEffect served.world label world.sessions) :
    (served.remember label world).births.length = world.sessions.length := by
  unfold remember
  revert effect
  generalize world.sessions = after
  intro effect
  cases effect with
  | kept names => cases label <;> first | exact length | exact absurd rfl (names _ _)
  | opened owner entropy => simp [length]
  | worked names => cases label <;> first | simpa using length | exact absurd rfl (names _ _)

/-- The requests there were, and one that works in the session its key was born with. -/
theorem Named.works_arrive (named : served.Named validator) (label : HttpLabel)
    {world : HttpWorld C} {arrived : HttpRequest C}
    (requests : world.requests = served.world.requests ++ [arrived])
    (born : (served.remember label world).births[arrived.session]? =
      some (arrived.owner,arrived.id)) {index : Nat} {request : HttpRequest C}
    (found : world.requests[index]? = some request) :
    (served.remember label world).births[request.session]? = some (request.owner,request.id) := by
  rw [requests,List.getElem?_append] at found
  split at found
  · exact born_remember (named.works index request found) label world
  · have new := List.mem_of_getElem? found
    rw [List.mem_singleton] at new
    rw [new]
    exact born

theorem Named.works_http (named : served.Named validator) {label : HttpLabel}
    {world : HttpWorld C} (authenticated : (ServedLabel.http label).Authenticated validator)
    (effect : HttpWorld.Effect served.world world label) {index : Nat} {request : HttpRequest C}
    (found : world.requests[index]? = some request) :
    (served.remember label world).births[request.session]? = some (request.owner,request.id) := by
  have before (same : Continues served.world.requests world.requests) :
      (served.remember label world).births[request.session]? =
        some (request.owner,request.id) := by
    obtain ⟨old,known,owner,id,session,_⟩ := same index request found
    rw [owner,id,session]
    exact born_remember (named.works index old known) label world
  cases effect with
  | quiet still table generated requests => exact before requests
  | updated known phase generated table requests => exact before requests
  | refused generated table requests => exact before (requests ▸ .refl _)
  | deleted generated table requests => exact before (requests ▸ .refl _)
  | arrived fresh generated table requests =>
    apply named.works_arrive _ requests _ found
    simp [remember,← named.length]
  | @found owner id entry filed generated table requests =>
    have there := (Sessions.lookup_sweep_some filed).1
    apply named.works_arrive _ requests _ found
    exact born_remember (named.lookup (authenticated owner rfl) there) _ _

theorem named_http (named : served.Named validator) {label : HttpLabel} {world : HttpWorld C}
    (authenticated : (ServedLabel.http label).Authenticated validator)
    (stepped : HttpWorld.step http served.world label = some world) :
    (served.remember label world).Named validator where
  born birth member := by
    cases label with
    | checkoutNew owner entropy =>
      rcases List.mem_append.mp member with old | fresh
      · exact named.born birth old
      · rw [List.mem_singleton.mp fresh]
        exact authenticated owner rfl
    | elapse | setClock | checkout | reject | restore | process | absorb | settle | test |
      update | delete | storeChange => exact named.born birth member
  drew entry member := by
    cases label with
    | process index input freshId =>
      rcases List.mem_cons.mp member with rfl | old
      · obtain ⟨request,known⟩ := HttpWorld.process_known stepped
        simp only [known,Option.bind_some]
        exact named.owns known
      · exact named.drew entry old
    | elapse | setClock | checkoutNew | checkout | reject | restore | absorb | settle | test |
      update | delete | storeChange => exact named.drew entry member
  length := births_length named.length (HttpWorld.step_sessions stepped)
  works index request found :=
    named.works_http authenticated (HttpWorld.step_effect stepped) found
  filed key entry found := by
    rcases (HttpWorld.step_effect stepped).entry_origin found with ⟨old,known,same⟩ |
      ⟨index,request,_,known,_,rfl,same⟩
    · obtain ⟨owner,id,born,filed⟩ := named.filed key old known
      rw [← same]
      exact ⟨owner,id,born_remember born label world,filed⟩
    · rw [← same]
      exact ⟨request.owner,request.id,born_remember (named.works index request known) label world,
        rfl⟩

theorem named_step (label : ServedLabel) (named : served.Named validator)
    (authenticated : label.Authenticated validator)
    (taken : served.step http label = some next) : next.Named validator := by
  cases label with
  | store index op =>
    obtain ⟨-,rfl⟩ := step_store taken
    exact ⟨named.born,named.drew,named.length,named.works,named.filed⟩
  | http label =>
    obtain ⟨_,world,stepped,rfl⟩ := step_http taken
    exact named_http named authenticated stepped

theorem named_of_run {labels : List ServedLabel} {final : ServedWorld C}
    (run : Runs.execute (step http) empty labels = some final)
    (authenticated : ∀ label ∈ labels, label.Authenticated validator) : final.Named validator := by
  suffices onwards : ∀ start : ServedWorld C, start.Named validator →
      Runs.execute (step http) start labels = some final → final.Named validator from
    onwards empty (named_empty validator) run
  clear run
  induction labels with
  | nil =>
    intro start named run
    cases run
    exact named
  | cons label rest ih =>
    intro start named run
    rw [Runs.execute_cons,Option.bind_eq_some_iff] at run
    obtain ⟨next,taken,later⟩ := run
    apply ih (fun label member => authenticated label (List.mem_cons_of_mem _ member)) next _ later
    exact named_step label named (authenticated label List.mem_cons_self) taken

/-- The session was made by a request of the same identity, under the same identifier. -/
structure OwnSession (validator : JwtValidator) (served : ServedWorld C) (claims : Claims)
    (id : String) (session : Nat) : Prop where
  made : ∃ creator, validator.Accepts creator ∧
    served.births[session]? = some (some (ownerOf creator),id)
  same : ∀ creator id', validator.Accepts creator →
    served.births[session]? = some (some (ownerOf creator),id') →
    SameIdentity claims creator ∧ id' = id

/-- What requests and deletions under an identity do with the stored sessions. -/
structure SessionsApart (http : HttpServer C) (validator : JwtValidator)
    (served : ServedWorld C) : Prop where
  finds : ∀ claims id session, validator.Accepts claims →
    (Sessions.checkout served.world.table served.world.now (some (ownerOf claims)) id).2 =
      some session → served.OwnSession validator claims id session
  ends : ∀ claims id, validator.Accepts claims → ∀ key entry,
    AList.lookup key served.world.table = some entry →
    AList.lookup key (Sessions.terminate served.world.table (some (ownerOf claims)) id).1 = none →
    served.OwnSession validator claims id entry.state
  works : ∀ (index : Nat) (request : HttpRequest C),
    served.world.requests[index]? = some request → ∃ claims, validator.Accepts claims ∧
      request.owner = some (ownerOf claims) ∧
      served.OwnSession validator claims request.id request.session
  changes : ∀ label next, served.step http label = some next → ∀ session held,
    served.world.sessions[session]? = some held → next.world.sessions[session]? ≠ some held →
    ∃ (index : Nat) (request : HttpRequest C), served.world.requests[index]? = some request ∧
      request.session = session

/-- What a request under an identity gets from tasks drawn under another, in any store. -/
structure TasksApart (validator : JwtValidator) (served : ServedWorld C) : Prop where
  creators : ∀ contents ∈ served.world.stores, ∀ taskId record,
    contents.record? taskId = some record → ∃ creator, validator.Accepts creator ∧
      record.owner = some (ownerOf creator) ∧ (taskId,some (ownerOf creator)) ∈ served.drawn
  unseen : ∀ (index : Nat) (request : HttpRequest C) server claims creator taskId,
    served.world.requests[index]? = some request → request.server? = some server →
    validator.Accepts claims → request.owner = some (ownerOf claims) →
    validator.Accepts creator → ¬SameIdentity claims creator →
    (taskId,some (ownerOf creator)) ∈ served.drawn → ∀ contents ∈ served.world.stores, ∀ now,
      (∀ asked, server.taskIdOf asked = .ok taskId →
        server.handleTaskGet contents now asked =
          (contents.sweep now,.error (notFound taskId)) ∧
        server.handleTaskCancel contents now asked =
          (contents.sweep now,.error (notFound taskId))) ∧
      (∀ expired, contents.awaitResultOnce now taskId server.requestor expired =
        (contents.sweep now,some (.error (notFound taskId)))) ∧
      ∀ task ∈ (contents.list now server.requestor).2, task.taskId ≠ taskId

theorem ownSession_of_birth {claims : Claims} {id : String} {session : Nat}
    (accepted : validator.Accepts claims)
    (born : served.births[session]? = some (some (ownerOf claims),id)) :
    served.OwnSession validator claims id session where
  made := ⟨claims,accepted,born⟩
  same creator id' other there := by
    rw [born] at there
    simp only [Option.some.injEq,Prod.mk.injEq] at there
    obtain ⟨owner,identifier⟩ := there
    exact ⟨(ownerOf_eq_iff accepted other).mp owner,identifier.symm⟩

theorem sessionsApart_of_named (named : served.Named validator) :
    served.SessionsApart http validator where
  finds claims id session accepted found := by
    obtain ⟨entry,filed,rfl⟩ := Sessions.checkout_some found
    have owns : validator.Owns (some (ownerOf claims)) := ⟨claims,accepted,rfl⟩
    exact ownSession_of_birth accepted (named.lookup owns (Sessions.lookup_sweep_some filed).1)
  ends claims id accepted key entry filed gone := by
    rw [Sessions.lookup_terminate] at gone
    split at gone
    · rename_i here
      rw [here] at filed
      have owns : validator.Owns (some (ownerOf claims)) := ⟨claims,accepted,rfl⟩
      exact ownSession_of_birth accepted (named.lookup owns filed)
    · rw [filed] at gone
      cases gone
  works index request known := by
    obtain ⟨claims,accepted,owner⟩ := named.owns known
    have born := named.works index request known
    rw [owner] at born
    exact ⟨claims,accepted,owner,ownSession_of_birth accepted born⟩
  changes label next taken session held there changed := by
    cases label with
    | store index op =>
      obtain ⟨_,rfl⟩ := step_store taken
      exact absurd there changed
    | http label =>
      obtain ⟨_,world,stepped,rfl⟩ := step_http taken
      have effect := HttpWorld.step_sessions stepped
      simp only [remember] at changed
      revert changed effect
      generalize world.sessions = after
      intro changed effect
      cases effect with
      | kept => exact absurd there changed
      | opened =>
        have bound := (List.getElem?_eq_some_iff.mp there).1
        rw [List.getElem?_append_left bound] at changed
        exact absurd there changed
      | @worked _ _ index request known =>
        by_cases here : request.session = session
        · exact ⟨index,request,known,here⟩
        · rw [List.getElem?_set_ne here] at changed
          exact absurd there changed

/-- A task identifier is drawn for one owner. -/
theorem Filed.drawn_once (filed : served.Filed) {taskId : String} {one two : Option String}
    (here : (taskId,one) ∈ served.drawn) (there : (taskId,two) ∈ served.drawn) : one = two := by
  have same := List.inj_on_of_nodup_map filed.distinct here there rfl
  exact congrArg Prod.snd same

theorem tasksApart_of_named (named : served.Named validator) (filed : served.Filed) :
    served.TasksApart validator where
  creators contents member taskId record found := by
    have drawn := filed.drawn contents member taskId record found
    obtain ⟨creator,accepted,owner⟩ := named.drew _ drawn
    simp only at owner
    exact ⟨creator,accepted,owner,owner ▸ drawn⟩
  unseen index request server claims creator taskId known serving accepted owner accepted'
      different drew contents member now := by
    have requestor : server.requestor = some (ownerOf claims) :=
      (filed.serves index request known server serving).trans owner
    have foreign (record : TaskRecord) (found : contents.record? taskId = some record) :
        record.owner ≠ server.requestor := by
      intro mine
      have theirs := filed.drawn_once drew (filed.drawn contents member taskId record found)
      rw [mine,requestor,Option.some.injEq] at theirs
      exact different ((ownerOf_eq_iff accepted accepted').mp theirs.symm)
    have hidden := visible_unseen foreign now
    refine ⟨?_,?_,?_⟩
    · intro asked named
      refine ⟨?_,?_⟩
      · simp only [Server.handleTaskGet,named,TaskStore.get,hidden]
        rfl
      · simp only [Server.handleTaskCancel,named,TaskStore.cancel_unseen hidden]
        rfl
    · intro expired
      simp only [TaskStore.awaitResultOnce,TaskStore.tryResult,hidden]
    · intro task listed here
      obtain ⟨taskId',record,seen,rfl⟩ := TaskStore.mem_list_iff.mp listed
      obtain ⟨stored,_⟩ := TaskStore.visible_some seen
      have swept := TaskStore.keyed_sweep (filed.keyed contents member) now
      rw [swept taskId' record stored] at here
      rw [here,hidden] at seen
      cases seen

end ServedWorld

/-- Keys of accepted identities are equal for the same identity and identifier only, and
in every run of theirs nobody gets at another identity's sessions or tasks. -/
theorem identities_isolated (validator : JwtValidator) (http : HttpServer C)
    (labels : List ServedLabel) (final : ServedWorld C)
    (run : Runs.execute (ServedWorld.step http) .empty labels = some final)
    (authenticated : ∀ label ∈ labels, label.Authenticated validator) :
    (∀ claims other, validator.Accepts claims → validator.Accepts other → ∀ id id',
      Sessions.key (some (ownerOf claims)) id = Sessions.key (some (ownerOf other)) id' ↔
        SameIdentity claims other ∧ id = id') ∧
    final.SessionsApart http validator ∧ final.TasksApart validator := by
  have named := ServedWorld.named_of_run run authenticated
  refine ⟨?_,?_,?_⟩
  · intro claims other accepted accepted' id id'
    exact key_eq_iff accepted accepted' id id'
  · exact ServedWorld.sessionsApart_of_named named
  · exact ServedWorld.tasksApart_of_named named (ServedWorld.filed_of_run run)

/-! ### Alice and Bob -/

def aliceClaims : Claims := ⟨"alice",2000,1000,none,none,none,none⟩

def bobClaims : Claims := ⟨"bob",2000,1000,none,none,some "alice",none⟩

/-- Tokens are the names of their subjects. -/
def namesValidator : JwtValidator where
  decode token :=
    if token = "alice" then .ok aliceClaims
    else if token = "bob" then .ok bobClaims
    else .error "InvalidToken"
  audiences := []

/-- Alice starts a task, and Bob names her session. -/
def bobAfterAlice : List ServedLabel :=
  [.http (.checkoutNew (some (ownerOf aliceClaims)) [7]),.http (.restore 0),
    .http (.process 0 (.ok startJob) "job"),.http (.absorb 0),.http (.test 0),.http (.update 0),
    .http (.checkout (some (ownerOf bobClaims)) (randomHexId [7])),
    .http (.checkoutNew (some (ownerOf bobClaims)) [8]),.http (.restore 1)]

theorem bobAfterAlice_isolated :
    ∃ final, Runs.execute (ServedWorld.step oneTaskHttp) .empty bobAfterAlice = some final ∧
      final.SessionsApart oneTaskHttp namesValidator ∧ final.TasksApart namesValidator := by
  refine ⟨_,rfl,?_⟩
  refine (identities_isolated namesValidator oneTaskHttp bobAfterAlice _ rfl ?_).2
  intro label member owner bears
  have bearer : owner ∈ bobAfterAlice.filterMap ServedLabel.bearer :=
    List.mem_filterMap.mpr ⟨label,member,bears⟩
  have alice : namesValidator.Owns (some (ownerOf aliceClaims)) := ⟨aliceClaims,⟨"alice",by rfl⟩,rfl⟩
  have bob : namesValidator.Owns (some (ownerOf bobClaims)) := ⟨bobClaims,⟨"bob",by rfl⟩,rfl⟩
  rcases bearer with _ | ⟨_,_ | ⟨_,_ | ⟨_,none⟩⟩⟩
  · exact alice
  · exact bob
  · exact bob
  · cases none

end SmlMcps
