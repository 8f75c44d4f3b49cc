import Mathlib.Data.List.TakeWhile
import SmlMcps.HttpSession

/-! What one step of the HTTP world can do to the session table and to the requests in
flight, said once. Session contents and task stores are left open: the table's laws
do not depend on them. -/
namespace SmlMcps

variable {C : Type}

/-! ## Keys and identifiers -/

/-- The part of a key behind its last separator. -/
def identifierOf (filed : String) : String :=
  String.ofList (filed.toList.reverse.takeWhile fun c => c != identitySeparator).reverse

theorem hexDigit_not_separator (value : Nat) (small : value < 16) :
    hexDigit value ≠ identitySeparator := by
  have all : ∀ value < 16, hexDigit value ≠ identitySeparator := by decide
  exact all value small

theorem separator_not_mem_randomHexId (entropy : List UInt8) :
    identitySeparator ∉ (randomHexId entropy).toList := by
  simp only [randomHexId,String.toList_ofList,List.mem_flatMap,not_exists,not_and]
  intro byte _ member
  have bound : byte.toNat < 256 := byte.toNat_lt
  simp only [List.mem_cons,List.not_mem_nil,or_false] at member
  rcases member with high | low
  · exact hexDigit_not_separator _ (by omega) high.symm
  · exact hexDigit_not_separator _ (by omega) low.symm

theorem takeWhile_stop {α : Type} (keep : α → Bool) (front back : List α) (stop : α)
    (kept : ∀ item ∈ front, keep item = true) (stopped : keep stop = false) :
    (front ++ stop :: back).takeWhile keep = front := by
  rw [List.takeWhile_append_of_pos kept]
  simp [stopped]

/-- The owner's part of a key cannot be mistaken for a part of the identifier. -/
theorem identifierOf_key (owner : Option String) (id : String)
    (plain : identitySeparator ∉ id.toList) : identifierOf (Sessions.key owner id) = id := by
  have kept : ∀ c ∈ id.toList.reverse, (c != identitySeparator) = true := by
    intro c member
    rw [List.mem_reverse] at member
    have different : c ≠ identitySeparator := fun same => plain (same ▸ member)
    simpa using different
  unfold identifierOf Sessions.key
  cases owner with
  | none =>
    simp only
    rw [List.takeWhile_eq_self_iff.mpr kept]
    simp
  | some owner =>
    have shape : (owner ++ String.ofList [identitySeparator] ++ id).toList.reverse =
        id.toList.reverse ++ identitySeparator :: owner.toList.reverse := by
      simp
    simp only [shape]
    rw [takeWhile_stop _ _ _ _ kept (by simp)]
    simp

theorem identifierOf_key_randomHexId (owner : Option String) (entropy : List UInt8) :
    identifierOf (Sessions.key owner (randomHexId entropy)) = randomHexId entropy :=
  identifierOf_key owner _ (separator_not_mem_randomHexId entropy)

/-! ## Lookups after each table operation -/

namespace Sessions

theorem lookup_sweep (now : Nat) (table : Sessions) (filed : String) :
    AList.lookup filed (sweep now table) =
      (AList.lookup filed table).filter fun entry => !idle now entry :=
  KeyedTable.lookup_retain _ _ _

theorem lookup_sweep_some {now : Nat} {table : Sessions} {filed : String} {entry : SessionEntry}
    (found : AList.lookup filed (sweep now table) = some entry) :
    AList.lookup filed table = some entry ∧ idle now entry = false := by
  rw [lookup_sweep,Option.filter_eq_some_iff] at found
  obtain ⟨found,fresh⟩ := found
  exact ⟨found,by simpa using fresh⟩

theorem lookup_sweep_none {now : Nat} {table : Sessions} {filed : String}
    (missing : AList.lookup filed table = none) :
    AList.lookup filed (sweep now table) = none := by
  rw [lookup_sweep,missing]
  rfl

/-- Filing a session makes room by dropping others, never by changing one. -/
theorem lookup_checkIn_keep (table : Sessions) (now : Nat) (filed other : String) (state : Nat) :
    AList.lookup other (checkIn table now filed state true) = none ∨
      AList.lookup other (checkIn table now filed state true) =
        if other = filed then some ⟨state,now⟩ else AList.lookup other table := by
  have evicted := KeyedTable.lookup_evict SessionEntry.lastUsed maxSessions
    (table.insert filed ⟨state,now⟩) other
  rw [KeyedTable.lookup_insert_eq] at evicted
  exact evicted

theorem lookup_checkIn_discard (table : Sessions) (now : Nat) (filed other : String)
    (state : Nat) :
    AList.lookup other (checkIn table now filed state false) =
      if other = filed then none else AList.lookup other table :=
  KeyedTable.lookup_erase_eq filed other table

theorem lookup_terminate (table : Sessions) (owner : Option String) (id other : String) :
    AList.lookup other (terminate table owner id).1 =
      if other = key owner id then none else AList.lookup other table :=
  KeyedTable.lookup_erase_eq _ other table

theorem checkout_missing {table : Sessions} (now : Nat) {owner : Option String} {id : String}
    (missing : AList.lookup (key owner id) table = none) :
    (checkout table now owner id).2 = none := by
  unfold checkout
  simp only [lookup_sweep_none missing]

/-- A session that is found is that of a fresh entry. -/
theorem checkout_some {table : Sessions} {now : Nat} {owner : Option String} {id : String}
    {session : Nat} (found : (checkout table now owner id).2 = some session) :
    ∃ entry, AList.lookup (key owner id) (sweep now table) = some entry ∧
      entry.state = session := by
  simp only [checkout] at found
  cases filed : AList.lookup (key owner id) (sweep now table) with
  | none =>
    rw [filed] at found
    cases found
  | some entry =>
    rw [filed] at found
    exact ⟨entry,rfl,Option.some.inj found⟩

theorem checkout_found {table : Sessions} {now : Nat} {owner : Option String} {id : String}
    {entry : SessionEntry} (found : AList.lookup (key owner id) table = some entry)
    (fresh : idle now entry = false) :
    (checkout table now owner id).2 = some entry.state := by
  have kept : AList.lookup (key owner id) (sweep now table) = some entry := by
    rw [lookup_sweep,found]
    simp [Option.filter,fresh]
  unfold checkout
  simp only [kept]

end Sessions

/-! ## The effect of a step -/

/-- The server a request holds between its restore and its absorb. -/
def HttpRequest.server? (request : HttpRequest C) : Option (Server C) :=
  match request.phase with
  | .restored server | .processed server => some server
  | _ => none

/-- Requests keep their owner, identifier and session, and a finished one stays
finished. -/
def Continues (before after : List (HttpRequest C)) : Prop :=
  ∀ (index : Nat) (next : HttpRequest C), after[index]? = some next → ∃ request, before[index]? = some request ∧
    next.owner = request.owner ∧ next.id = request.id ∧ next.session = request.session ∧
    (next.inFlight = true → request.inFlight = true)

theorem Continues.refl (requests : List (HttpRequest C)) : Continues requests requests :=
  fun _ next found => ⟨next,found,rfl,rfl,rfl,id⟩

theorem Continues.key {before after : List (HttpRequest C)} (continues : Continues before after)
    {index : Nat} {next : HttpRequest C} (found : after[index]? = some next) :
    ∃ request, before[index]? = some request ∧ next.key = request.key ∧
      next.session = request.session ∧ (next.inFlight = true → request.inFlight = true) := by
  obtain ⟨request,known,owner,id,session,flying⟩ := continues index next found
  exact ⟨request,known,by simp only [HttpRequest.key,owner,id],session,flying⟩

/-- The labels that leave the table alone. -/
def HttpLabel.quiet : HttpLabel → Bool
  | .checkoutNew .. | .checkout .. | .update _ | .delete .. => false
  | _ => true

namespace HttpWorld

theorem advance_continues {requests : List (HttpRequest C)} {index : Nat}
    {request : HttpRequest C} (phase : Phase C) (found : requests[index]? = some request)
    (flying : request.inFlight = true) :
    Continues requests (requests.modify index fun request => { request with phase := phase }) := by
  intro other next reached
  rw [List.getElem?_modify,Option.map_eq_map,Option.map_eq_some_iff] at reached
  obtain ⟨old,known,same⟩ := reached
  refine ⟨old,known,?_⟩
  split at same
  · rename_i here
    subst here
    rw [found] at known
    cases known
    subst same
    exact ⟨rfl,rfl,rfl,fun _ => flying⟩
  · subst same
    exact ⟨rfl,rfl,rfl,id⟩

/-- Everything a step may do to the table and to the requests. -/
inductive Effect (world next : HttpWorld C) : HttpLabel → Prop where
  | quiet {label : HttpLabel} (still : label.quiet = true)
      (table : next.table = world.table) (generated : next.generated = world.generated)
      (requests : Continues world.requests next.requests) : Effect world next label
  | arrived {owner : Option String} {entropy : List UInt8}
      (fresh : randomHexId entropy ∉ world.generated)
      (generated : next.generated = randomHexId entropy :: world.generated)
      (table : next.table = Sessions.sweep world.now world.table)
      (requests : next.requests = world.requests ++
        [⟨owner,randomHexId entropy,world.sessions.length,.checkedOut⟩]) :
      Effect world next (.checkoutNew owner entropy)
  | refused {owner : Option String} {id : String}
      (generated : next.generated = world.generated)
      (table : next.table = Sessions.sweep world.now world.table)
      (requests : next.requests = world.requests) : Effect world next (.checkout owner id)
  | found {owner : Option String} {id : String} {entry : SessionEntry}
      (filed : AList.lookup (Sessions.key owner id)
        (Sessions.sweep world.now world.table) = some entry)
      (generated : next.generated = world.generated)
      (table : next.table = (Sessions.sweep world.now world.table).insert
        (Sessions.key owner id) { entry with lastUsed := world.now })
      (requests : next.requests = world.requests ++ [⟨owner,id,entry.state,.checkedOut⟩]) :
      Effect world next (.checkout owner id)
  | updated {index : Nat} {request : HttpRequest C} {keep : Bool}
      (known : world.requests[index]? = some request) (phase : request.phase = .tested keep)
      (generated : next.generated = world.generated)
      (table : next.table =
        Sessions.checkIn world.table world.now request.key request.session keep)
      (requests : Continues world.requests next.requests) : Effect world next (.update index)
  | deleted {owner : Option String} {id : String}
      (generated : next.generated = world.generated)
      (table : next.table = (Sessions.terminate world.table owner id).1)
      (requests : next.requests = world.requests) : Effect world next (.delete owner id)

/-- What a step did, and what it found the world in. -/
inductive Taken (http : HttpServer C) (world : HttpWorld C) : HttpLabel → HttpWorld C → Prop
  | elapse (duration : Nat) :
      Taken http world (.elapse duration) { world with now := world.now + duration }
  | setClock (wall : SystemTime) : Taken http world (.setClock wall) { world with wall := wall }
  | storeChange (store : Nat) (contents : TaskStore) : Taken http world
      (.storeChange store contents) { world with stores := world.stores.set store contents }
  | arrived (owner : Option String) {entropy : List UInt8}
      (fresh : randomHexId entropy ∉ world.generated) : Taken http world
      (.checkoutNew owner entropy) (HttpWorld.arrive { world with
        table := Sessions.sweep world.now world.table
        sessions := world.sessions ++ [.default]
        generated := randomHexId entropy :: world.generated }
        owner (randomHexId entropy) world.sessions.length)
  | refused (owner : Option String) (id : String) : Taken http world (.checkout owner id)
      { world with table := Sessions.sweep world.now world.table }
  | found {owner : Option String} {id : String} {entry : SessionEntry}
      (filed : AList.lookup (Sessions.key owner id)
        (Sessions.sweep world.now world.table) = some entry) :
      Taken http world (.checkout owner id) (HttpWorld.arrive { world with
        table := (Sessions.sweep world.now world.table).insert (Sessions.key owner id)
          { entry with lastUsed := world.now } } owner id entry.state)
  | deleted (owner : Option String) (id : String) : Taken http world (.delete owner id)
      { world with table := (Sessions.terminate world.table owner id).1 }
  | rejected {index : Nat} {request : HttpRequest C}
      (known : world.requests[index]? = some request) (flying : request.inFlight = true) :
      Taken http world (.reject index) (world.advance index (.finished false))
  | unbuilt {index : Nat} {request : HttpRequest C}
      (known : world.requests[index]? = some request) (phase : request.phase = .checkedOut) :
      Taken http world (.restore index) (world.advance index .settled)
  | restored {index : Nat} {request : HttpRequest C} {session : Session} {built : Server C}
      (known : world.requests[index]? = some request) (phase : request.phase = .checkedOut)
      (there : world.sessions[request.session]? = some session)
      (made : http.build request.owner world.stores.length = .ok built) :
      Taken http world (.restore index) (advance { world with
        sessions := world.sessions.set request.session (session.restore built).1
        stores := world.stores ++ built.tasks.toList.map fun runtime =>
          TaskStore.new runtime.storeConfig } index (.restored (session.restore built).2))
  | unread {index : Nat} {request : HttpRequest C} {server : Server C}
      (known : world.requests[index]? = some request) (phase : request.phase = .restored server)
      (e : McpError) (freshId : String) : Taken http world (.process index (.error e) freshId)
        (world.advance index (.processed server))
  | processed {index : Nat} {request : HttpRequest C} {server : Server C} {store : Nat}
      {contents : TaskStore} (known : world.requests[index]? = some request)
      (phase : request.phase = .restored server) (reaches : server.taskStore = some store)
      (there : world.stores[store]? = some contents) (message : JsonRpcMessage)
      (freshId : String) : Taken http world (.process index (.ok message) freshId)
        (advance { world with
          stores := world.stores.set store
            (server.storeAfter ⟨contents,world.wall,freshId⟩ message) } index
          (.processed (server.handled ⟨contents,world.wall,freshId⟩ message)))
  | storeless {index : Nat} {request : HttpRequest C} {server : Server C}
      (known : world.requests[index]? = some request) (phase : request.phase = .restored server)
      (message : JsonRpcMessage) (freshId : String) :
      Taken http world (.process index (.ok message) freshId) (world.advance index
        (.processed (server.handled ⟨.new .default,world.wall,freshId⟩ message)))
  | absorbed {index : Nat} {request : HttpRequest C} {server : Server C} {session : Session}
      (known : world.requests[index]? = some request) (phase : request.phase = .processed server)
      (there : world.sessions[request.session]? = some session) :
      Taken http world (.absorb index) (advance { world with
        sessions := world.sessions.set request.session
          (session.absorb server http.config.defaultLogLevel) } index .settled)
  | settled {index : Nat} {request : HttpRequest C}
      (known : world.requests[index]? = some request) (flying : request.inFlight = true) :
      Taken http world (.settle index) (world.advance index .settled)
  | tested {index : Nat} {request : HttpRequest C} {session : Session}
      (known : world.requests[index]? = some request) (phase : request.phase = .settled)
      (there : world.sessions[request.session]? = some session) :
      Taken http world (.test index) (advance { world with
        stores := (session.worthKeeping world.stores world.wall).1 } index
        (.tested (session.worthKeeping world.stores world.wall).2))
  | updated {index : Nat} {request : HttpRequest C} {keep : Bool}
      (known : world.requests[index]? = some request) (phase : request.phase = .tested keep) :
      Taken http world (.update index) (advance { world with
        table := Sessions.checkIn world.table world.now request.key request.session keep }
        index (.finished keep))

section Inversion

variable {http : HttpServer C} {world next : HttpWorld C}

theorem taken_checkout (owner : Option String) (id : String) :
    Taken http world (.checkout owner id) (world.stepCheckout owner id) := by
  cases filed : AList.lookup (Sessions.key owner id) (Sessions.sweep world.now world.table) with
  | none =>
    have same : world.stepCheckout owner id =
        { world with table := Sessions.sweep world.now world.table } := by
      simp only [stepCheckout,Sessions.checkout,filed]
    rw [same]
    exact .refused owner id
  | some entry =>
    have same : world.stepCheckout owner id = HttpWorld.arrive { world with
        table := (Sessions.sweep world.now world.table).insert (Sessions.key owner id)
          { entry with lastUsed := world.now } } owner id entry.state := by
      simp only [stepCheckout,Sessions.checkout,filed]
    rw [same]
    exact .found filed

theorem taken_restore {index : Nat} {request : HttpRequest C}
    (known : world.requests[index]? = some request) (phase : request.phase = .checkedOut)
    (taken : stepRestore http world index request = some next) :
    Taken http world (.restore index) next := by
  simp only [stepRestore,Option.bind_eq_bind,Option.bind_eq_some_iff] at taken
  obtain ⟨session,there,taken⟩ := taken
  split at taken
  · cases taken
    exact .unbuilt known phase
  · rename_i built made
    cases taken
    exact .restored known phase there made

theorem taken_process {index : Nat} {request : HttpRequest C} {server : Server C}
    (known : world.requests[index]? = some request) (phase : request.phase = .restored server)
    (input : Except McpError JsonRpcMessage) (freshId : String) :
    Taken http world (.process index input freshId)
      (world.stepProcess index server input freshId) := by
  cases input with
  | error e => exact .unread known phase e freshId
  | ok message =>
    simp only [stepProcess]
    split
    · rename_i store contents reaches there
      rw [reaches] at there
      exact .processed known phase reaches there message freshId
    · exact .storeless known phase message freshId

/-- The inversion every law of the world is derived from. -/
theorem step_taken {label : HttpLabel} (taken : step http world label = some next) :
    Taken http world label next := by
  cases label with
  | elapse duration => cases taken; exact .elapse duration
  | setClock wall => cases taken; exact .setClock wall
  | storeChange store contents => cases taken; exact .storeChange store contents
  | delete owner id => cases taken; exact .deleted owner id
  | checkout owner id => cases taken; exact taken_checkout owner id
  | checkoutNew owner entropy =>
    simp only [step,stepCheckoutNew] at taken
    split at taken
    · cases taken
    · rename_i fresh
      cases taken
      exact .arrived owner fresh
  | reject index =>
    simp only [step,Option.bind_eq_bind,Option.bind_eq_some_iff] at taken
    obtain ⟨request,known,taken⟩ := taken
    split at taken
    · rename_i flying
      cases taken
      exact .rejected known flying
    · cases taken
  | restore index =>
    simp only [step,Option.bind_eq_bind,Option.bind_eq_some_iff] at taken
    obtain ⟨request,known,taken⟩ := taken
    split at taken
    · rename_i phase
      exact taken_restore known phase taken
    · cases taken
  | process index input freshId =>
    simp only [step,Option.bind_eq_bind,Option.bind_eq_some_iff] at taken
    obtain ⟨request,known,taken⟩ := taken
    split at taken
    · rename_i server phase
      cases taken
      exact taken_process known phase input freshId
    · cases taken
  | absorb index =>
    simp only [step,Option.bind_eq_bind,Option.bind_eq_some_iff] at taken
    obtain ⟨request,known,taken⟩ := taken
    split at taken
    · rename_i server phase
      simp only [Option.bind_eq_some_iff] at taken
      obtain ⟨session,there,taken⟩ := taken
      cases taken
      exact .absorbed known phase there
    · cases taken
  | settle index =>
    simp only [step,Option.bind_eq_bind,Option.bind_eq_some_iff] at taken
    obtain ⟨request,known,taken⟩ := taken
    split at taken
    all_goals first
      | cases taken
        rename_i phase
        exact .settled known (by simp [HttpRequest.inFlight,phase])
      | cases taken
  | test index =>
    simp only [step,Option.bind_eq_bind,Option.bind_eq_some_iff] at taken
    obtain ⟨request,known,taken⟩ := taken
    split at taken
    · rename_i phase
      simp only [Option.bind_eq_some_iff] at taken
      obtain ⟨session,there,taken⟩ := taken
      cases taken
      exact .tested known phase there
    · cases taken
  | update index =>
    simp only [step,Option.bind_eq_bind,Option.bind_eq_some_iff] at taken
    obtain ⟨request,known,taken⟩ := taken
    split at taken
    · rename_i keep phase
      cases taken
      exact .updated known phase
    · cases taken

/-- What a step did to the table and to the requests. -/
theorem step_effect {label : HttpLabel} (taken : step http world label = some next) :
    Effect world next label := by
  have advanced {index : Nat} {request : HttpRequest C} (phase : Phase C)
      (known : world.requests[index]? = some request) (flying : request.inFlight = true) :=
    advance_continues phase known flying
  cases step_taken taken with
  | elapse | setClock | storeChange => exact .quiet rfl rfl rfl (.refl _)
  | arrived owner fresh => exact .arrived fresh rfl rfl rfl
  | refused => exact .refused rfl rfl rfl
  | found filed => exact .found filed rfl rfl rfl
  | deleted => exact .deleted rfl rfl rfl
  | rejected known flying => exact .quiet rfl rfl rfl (advanced _ known flying)
  | settled known flying => exact .quiet rfl rfl rfl (advanced _ known flying)
  | updated known phase =>
    exact .updated known phase rfl rfl (advanced _ known (by simp [HttpRequest.inFlight,phase]))
  | unbuilt known phase | restored known phase | unread known phase | processed known phase
  | storeless known phase | absorbed known phase | tested known phase =>
    exact .quiet rfl rfl rfl (advanced _ known (by simp [HttpRequest.inFlight,phase]))

end Inversion

variable {world next : HttpWorld C} {label : HttpLabel}

theorem Effect.generated_mono (effect : Effect world next label) {id : String}
    (drawn : id ∈ world.generated) : id ∈ next.generated := by
  cases effect with
  | quiet _ _ generated _ => exact generated ▸ drawn
  | arrived _ generated _ _ => exact generated ▸ List.mem_cons_of_mem _ drawn
  | refused generated _ _ => exact generated ▸ drawn
  | found _ generated _ _ => exact generated ▸ drawn
  | updated _ _ generated _ _ => exact generated ▸ drawn
  | deleted generated _ _ => exact generated ▸ drawn

/-- Where an entry comes from: it was filed before with the same state, or a request
in flight is checking it in. -/
theorem Effect.entry_origin (effect : Effect world next label) {filed : String}
    {entry : SessionEntry} (present : AList.lookup filed next.table = some entry) :
    (∃ old, AList.lookup filed world.table = some old ∧ old.state = entry.state) ∨
      ∃ index request, label = .update index ∧ world.requests[index]? = some request ∧
        request.phase = .tested true ∧ request.key = filed ∧ request.session = entry.state := by
  cases effect with
  | quiet _ table _ _ => exact .inl ⟨entry,table ▸ present,rfl⟩
  | arrived _ _ table _ =>
    rw [table] at present
    exact .inl ⟨entry,(Sessions.lookup_sweep_some present).1,rfl⟩
  | refused _ table _ =>
    rw [table] at present
    exact .inl ⟨entry,(Sessions.lookup_sweep_some present).1,rfl⟩
  | @found _ _ old known _ table _ =>
    rw [table,KeyedTable.lookup_insert_eq] at present
    split at present
    · rename_i same
      cases present
      exact .inl ⟨old,same ▸ (Sessions.lookup_sweep_some known).1,rfl⟩
    · exact .inl ⟨entry,(Sessions.lookup_sweep_some present).1,rfl⟩
  | @updated index request keep known phase _ table _ =>
    rw [table] at present
    cases keep with
    | true =>
      have origin := Sessions.lookup_checkIn_keep world.table world.now request.key filed
        request.session
      rw [present] at origin
      rcases origin with missing | same
      · cases missing
      · split at same
        · rename_i here
          cases same
          exact .inr ⟨index,request,rfl,known,phase,here.symm,rfl⟩
        · exact .inl ⟨entry,same.symm,rfl⟩
    | false =>
      rw [Sessions.lookup_checkIn_discard] at present
      split at present
      · cases present
      · exact .inl ⟨entry,present,rfl⟩
  | deleted _ table _ =>
    rw [table,Sessions.lookup_terminate] at present
    split at present
    · cases present
    · exact .inl ⟨entry,present,rfl⟩

/-- Where a request comes from: it was there before, it drew a new identifier, or it
found its session in the table. -/
theorem Effect.request_origin (effect : Effect world next label) {index : Nat}
    {request : HttpRequest C} (known : next.requests[index]? = some request) :
    (∃ old, world.requests[index]? = some old ∧ request.key = old.key ∧
        request.session = old.session ∧ (request.inFlight = true → old.inFlight = true)) ∨
      (∃ owner entropy, label = .checkoutNew owner entropy ∧
        request.key = Sessions.key owner (randomHexId entropy) ∧
        randomHexId entropy ∉ world.generated ∧ randomHexId entropy ∈ next.generated ∧
        index = world.requests.length) ∨
      (∃ entry, AList.lookup request.key world.table = some entry ∧
        entry.state = request.session) := by
  cases effect with
  | quiet _ _ _ requests => exact .inl (requests.key known)
  | @arrived owner entropy fresh generated _ requests =>
    rw [requests,List.getElem?_append] at known
    split at known
    · exact .inl ⟨request,known,rfl,rfl,id⟩
    · rename_i bound
      rw [List.getElem?_singleton] at known
      split at known
      · cases known
        exact .inr (.inl ⟨owner,entropy,rfl,rfl,fresh,by simp [generated],by omega⟩)
      · cases known
  | refused _ _ requests =>
    rw [requests] at known
    exact .inl ⟨request,known,rfl,rfl,id⟩
  | found filed _ _ requests =>
    rw [requests,List.getElem?_append] at known
    split at known
    · exact .inl ⟨request,known,rfl,rfl,id⟩
    · rw [List.getElem?_singleton] at known
      split at known
      · cases known
        exact .inr (.inr ⟨_,(Sessions.lookup_sweep_some filed).1,rfl⟩)
      · cases known
  | updated _ _ _ _ requests => exact .inl (requests.key known)
  | deleted _ _ requests =>
    rw [requests] at known
    exact .inl ⟨request,known,rfl,rfl,id⟩

/-- Keys name sessions: every key in use ends in an identifier that was drawn, and
all that is filed or held under one key is one session. -/
structure Identified (world : HttpWorld C) : Prop where
  filed : ∀ key entry, AList.lookup key world.table = some entry →
    identifierOf key ∈ world.generated
  requested : ∀ (index : Nat) request, world.requests[index]? = some request →
    identifierOf request.key ∈ world.generated
  shared : ∀ (first second : Nat) left right, world.requests[first]? = some left →
    world.requests[second]? = some right → left.key = right.key → left.session = right.session
  agreed : ∀ (index : Nat) request entry, world.requests[index]? = some request →
    AList.lookup request.key world.table = some entry → entry.state = request.session

theorem identified_empty : Identified (HttpWorld.empty : HttpWorld C) where
  filed key entry found := by cases found
  requested index request found := by simp [HttpWorld.empty] at found
  shared first second left right found := by simp [HttpWorld.empty] at found
  agreed index request entry found := by simp [HttpWorld.empty] at found

/-- The session a key stands for before a step: the one filed, or the one held. -/
theorem Identified.session_unique (valid : Identified world) {index : Nat}
    {request held : HttpRequest C} (known : world.requests[index]? = some held)
    (same : request.key = held.key)
    (filed : ∃ entry, AList.lookup request.key world.table = some entry ∧
      entry.state = request.session) : request.session = held.session := by
  obtain ⟨entry,found,state⟩ := filed
  rw [same] at found
  exact state.symm.trans (valid.agreed index held entry known found)

theorem Identified.preserved (valid : Identified world) (effect : Effect world next label) :
    Identified next where
  filed key entry found := by
    apply effect.generated_mono
    rcases effect.entry_origin found with ⟨old,before,_⟩ | ⟨index,request,_,known,_,rfl,_⟩
    · exact valid.filed key old before
    · exact valid.requested index request known
  requested index request found := by
    rcases effect.request_origin found with ⟨old,known,key,_,_⟩ | ⟨owner,entropy,_,key,_,drawn,_⟩ |
      ⟨entry,filed,_⟩
    · rw [key]
      exact effect.generated_mono (valid.requested index old known)
    · rw [key,identifierOf_key_randomHexId]
      exact drawn
    · exact effect.generated_mono (valid.filed _ entry filed)
  shared first second left right found known same := by
    -- A fresh key is neither filed nor held, so it cannot be the key of an old request.
    rcases effect.request_origin found with ⟨old,before,key,session,_⟩ |
      ⟨owner,entropy,isNew,key,fresh,_,position⟩ | filed
    · rcases effect.request_origin known with ⟨other,prior,otherKey,otherSession,_⟩ |
        ⟨owner,entropy,_,otherKey,fresh,_,_⟩ | filed
      · rw [session,otherSession]
        exact valid.shared first second old other before prior (by rw [← key,same,otherKey])
      · have drawn := valid.requested first old before
        rw [← key,same,otherKey,identifierOf_key_randomHexId] at drawn
        exact absurd drawn fresh
      · rw [session]
        exact (valid.session_unique before (by rw [← same,key]) filed).symm
    · rcases effect.request_origin known with ⟨other,prior,otherKey,_,_⟩ |
        ⟨_,_,_,_,_,_,otherPosition⟩ | ⟨entry,filed,_⟩
      · have drawn := valid.requested second other prior
        rw [← otherKey,← same,key,identifierOf_key_randomHexId] at drawn
        exact absurd drawn fresh
      · rw [position,← otherPosition,known] at found
        cases found
        rfl
      · have drawn := valid.filed _ entry filed
        rw [← same,key,identifierOf_key_randomHexId] at drawn
        exact absurd drawn fresh
    · rcases effect.request_origin known with ⟨other,prior,otherKey,otherSession,_⟩ |
        ⟨owner,entropy,_,otherKey,fresh,_,_⟩ | otherFiled
      · rw [otherSession]
        exact valid.session_unique prior (by rw [same,otherKey]) filed
      · obtain ⟨entry,filed,_⟩ := filed
        have drawn := valid.filed _ entry filed
        rw [same,otherKey,identifierOf_key_randomHexId] at drawn
        exact absurd drawn fresh
      · obtain ⟨entry,filed,state⟩ := filed
        obtain ⟨other,otherFiled,otherState⟩ := otherFiled
        rw [same,otherFiled] at filed
        cases filed
        exact state.symm.trans otherState
  agreed index request entry found filed := by
    rcases effect.entry_origin filed with ⟨old,before,state⟩ |
      ⟨updating,checked,_,known,_,key,session⟩
    · rcases effect.request_origin found with ⟨prior,held,same,sameSession,_⟩ |
        ⟨owner,entropy,_,same,fresh,_,_⟩ | ⟨other,otherFiled,otherState⟩
      · rw [same] at before
        rw [sameSession,← valid.agreed index prior old held before,state]
      · have drawn := valid.filed _ old before
        rw [same,identifierOf_key_randomHexId] at drawn
        exact absurd drawn fresh
      · rw [before] at otherFiled
        cases otherFiled
        exact state.symm.trans otherState
    · rw [← session]
      rcases effect.request_origin found with ⟨prior,held,same,sameSession,_⟩ |
        ⟨owner,entropy,_,same,fresh,_,_⟩ | otherFiled
      · rw [sameSession]
        exact valid.shared updating index checked prior known held (by rw [key,same])
      · have drawn := valid.requested updating checked known
        rw [key,same,identifierOf_key_randomHexId] at drawn
        exact absurd drawn fresh
      · exact (valid.session_unique known key.symm otherFiled).symm

end HttpWorld

end SmlMcps
