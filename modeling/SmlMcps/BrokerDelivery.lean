import SmlMcps.BrokerLaws
import SmlMcps.Library.Runs

/-! Delivery through the broker. Whatever operations come in whatever order, its stores
stay bounded, a response is handed out at most as often as it was passed in, a waiter
gets its own answer or none, and the deferred queue loses and reorders nothing. -/
namespace SmlMcps

namespace RequestBroker

variable {broker : RequestBroker} {registered : List RequestId}

/-! ## The parked responses -/

/-- Room for one more, after the oldest beyond the bound are dropped. -/
theorem drop_length_le {α : Type} (items : List α) (bound : Nat) :
    (items.drop (items.length - bound)).length ≤ bound := by
  rw [List.length_drop]
  omega

theorem parkIn_length_le {parked : List JsonRpcResponse} (bounded : parked.length ≤ maxParked)
    (response : JsonRpcResponse) : (parkIn parked response).length ≤ maxParked := by
  simp only [parkIn]
  split
  · rw [List.length_set]
    exact bounded
  · exact drop_length_le _ maxParked

/-- An answer in the place of one with the same id leaves the ids as they are. -/
theorem set_ids {parked : List JsonRpcResponse} {response : JsonRpcResponse} {index : Nat}
    (found : parked.findIdx? (fun known => known.id == response.id) = some index) :
    (parked.set index response).map JsonRpcResponse.id = parked.map JsonRpcResponse.id := by
  obtain ⟨inside,same,_⟩ := List.findIdx?_eq_some_iff_getElem.mp found
  have there : response.id = parked[index].id := (beq_iff_eq.mp same).symm
  rw [List.map_set,there]
  apply List.ext_getElem (List.length_set)
  intro place short long
  rw [List.getElem_set]
  split
  · rename_i here
    subst here
    simp
  · rfl

theorem parkIn_nodup {parked : List JsonRpcResponse}
    (apart : (parked.map JsonRpcResponse.id).Nodup) (response : JsonRpcResponse) :
    ((parkIn parked response).map JsonRpcResponse.id).Nodup := by
  simp only [parkIn]
  split
  · rename_i found
    rw [set_ids found]
    exact apart
  · rename_i absent
    rw [List.map_drop]
    apply List.Nodup.sublist (List.drop_sublist _ _)
    rw [List.map_append]
    apply List.Nodup.append apart (List.nodup_singleton _)
    intro id known new
    obtain ⟨old,member,rfl⟩ := List.mem_map.mp known
    have same : old.id = response.id := List.mem_singleton.mp new
    have different := List.findIdx?_eq_none_iff.mp absent old member
    simp [same] at different

theorem mem_parkIn {parked : List JsonRpcResponse} {response known : JsonRpcResponse}
    (member : known ∈ parkIn parked response) : known ∈ parked ∨ known = response := by
  simp only [parkIn] at member
  split at member
  · exact List.mem_or_eq_of_mem_set member
  · have inside := List.mem_of_mem_drop member
    rcases List.mem_append.mp inside with old | new
    · exact .inl old
    · exact .inr (List.mem_singleton.mp new)

/-- A response parked is held at most once more than before. -/
theorem count_parkIn_le (parked : List JsonRpcResponse) (response known : JsonRpcResponse) :
    (parkIn parked response).count known ≤ parked.count known + [response].count known := by
  simp only [parkIn]
  split
  · rename_i index found
    obtain ⟨inside,_,_⟩ := List.findIdx?_eq_some_iff_getElem.mp found
    rw [List.count_set inside,List.count_singleton]
    split <;> split <;> simp_all
  · rw [← List.count_append]
    exact List.Sublist.count_le known (List.drop_sublist _ _)

/-! ## The bounded stores -/

/-- What holds of the three stores. No parked answer is to a request that was given up. -/
structure Stored (broker : RequestBroker) : Prop where
  parked : broker.parked.length ≤ maxParked
  ids : (broker.parked.map JsonRpcResponse.id).Nodup
  abandoned : broker.abandoned.length ≤ maxAbandoned
  deferred : broker.deferred.length ≤ maxDeferred
  apart : ∀ response ∈ broker.parked, response.id ∉ broker.abandoned

theorem stored_new : new.Stored :=
  ⟨Nat.zero_le _,List.nodup_nil,Nat.zero_le _,Nat.zero_le _,nofun⟩

/-- Stores that only lost something. -/
theorem Stored.fewer (stored : broker.Stored) {after : RequestBroker}
    (parked : after.parked.Sublist broker.parked)
    (abandoned : after.abandoned.Sublist broker.abandoned)
    (deferred : after.deferred.length ≤ maxDeferred) : after.Stored where
  parked := parked.length_le.trans stored.parked
  ids := stored.ids.sublist (parked.map _)
  abandoned := abandoned.length_le.trans stored.abandoned
  deferred := deferred
  apart response member known :=
    stored.apart response (parked.subset member) (abandoned.subset known)

theorem park_cases (broker : RequestBroker) (response : JsonRpcResponse) :
    broker.park response = broker ∨
      (response.id ∈ broker.abandoned ∧ broker.park response =
        { broker with abandoned := broker.abandoned.erase response.id }) ∨
      (response.id ∉ broker.abandoned ∧ broker.park response =
        { broker with parked := parkIn broker.parked response }) := by
  simp only [park,forgetAbandoned]
  split
  · exact .inl rfl
  · by_cases given : response.id ∈ broker.abandoned
    · rw [if_pos given]
      exact .inr (.inl ⟨given,rfl⟩)
    · rw [if_neg given]
      exact .inr (.inr ⟨given,rfl⟩)

theorem Stored.park (stored : broker.Stored) (response : JsonRpcResponse) :
    (broker.park response).Stored := by
  rcases park_cases broker response with same | ⟨_,forgot⟩ | ⟨wanted,kept⟩
  · rw [same]
    exact stored
  · rw [forgot]
    exact stored.fewer (List.Sublist.refl _) List.erase_sublist stored.deferred
  · rw [kept]
    refine ⟨parkIn_length_le stored.parked response,parkIn_nodup stored.ids response,
      stored.abandoned,stored.deferred,?_⟩
    intro known member
    rcases mem_parkIn member with old | new
    · exact stored.apart known old
    · exact new ▸ wanted

theorem Stored.deliver (stored : broker.Stored) (response : JsonRpcResponse) :
    (broker.deliver response).Stored := by
  simp only [RequestBroker.deliver]
  split
  · exact stored.fewer (List.Sublist.refl _) (List.Sublist.refl _) stored.deferred
  · exact stored.park response

theorem Stored.takeParked (stored : broker.Stored) (id : RequestId) :
    (broker.takeParked id).1.Stored := by
  simp only [RequestBroker.takeParked]
  split
  · exact stored
  · exact stored.fewer List.eraseP_sublist (List.Sublist.refl _) stored.deferred

theorem Stored.abandon (stored : broker.Stored) (id : RequestId) : (broker.abandon id).Stored where
  parked := (List.length_filter_le _ _).trans stored.parked
  ids := stored.ids.sublist (List.filter_sublist.map _)
  abandoned := drop_length_le _ maxAbandoned
  deferred := stored.deferred
  apart response member known := by
    obtain ⟨old,other⟩ := List.mem_filter.mp member
    have inside := List.mem_of_mem_drop known
    rcases List.mem_append.mp inside with earlier | now
    · exact stored.apart response old earlier
    · rw [List.mem_singleton.mp now] at other
      simp at other

theorem Stored.cancel (stored : broker.Stored) (id : RequestId) : (broker.cancel id).1.Stored := by
  simp only [RequestBroker.cancel]
  split
  · exact stored.abandon id
  · exact stored

theorem Stored.defer (stored : broker.Stored) (message : JsonRpcMessage) :
    (broker.defer message).1.Stored := by
  simp only [RequestBroker.defer]
  split
  · exact stored
  · rename_i room
    refine stored.fewer (List.Sublist.refl _) (List.Sublist.refl _) ?_
    rw [List.length_append]
    exact Nat.lt_of_not_le room

theorem Stored.nextDeferred (stored : broker.Stored) : broker.nextDeferred.1.Stored := by
  simp only [RequestBroker.nextDeferred]
  split
  · exact stored
  · rename_i message rest queue
    refine stored.fewer (List.Sublist.refl _) (List.Sublist.refl _) ?_
    have bounded := stored.deferred
    rw [queue,List.length_cons] at bounded
    exact Nat.le_of_succ_le bounded

/-! ## The waiters and their channels -/

/-- `registered` names the id each channel was registered for. A connected channel is
its id's waiter and still empty; what a channel holds answers its id. -/
structure Wired (registered : List RequestId) (broker : RequestBroker) : Prop where
  numbered : broker.channels.length = registered.length
  waiting : ∀ id channel, broker.waiter? id = some channel →
    registered[channel]? = some id ∧ broker.Open channel
  own : ∀ (channel : Nat) (response : JsonRpcResponse) (connected : Bool),
    broker.channels[channel]? = some ⟨some response,connected⟩ →
    registered[channel]? = some response.id
  held : ∀ (channel : Nat) (id : RequestId) (slot : Option JsonRpcResponse),
    broker.channels[channel]? = some ⟨slot,true⟩ →
    registered[channel]? = some id → broker.waiter? id = some channel

theorem wired_new : Wired [] new := ⟨rfl,nofun,nofun,nofun⟩

/-- The waiters and the channels are as they were. -/
theorem Wired.same (wired : Wired registered broker) {after : RequestBroker}
    (found : ∀ other, after.waiter? other = broker.waiter? other)
    (channels : after.channels = broker.channels) : Wired registered after := by
  constructor
  · rw [channels]
    exact wired.numbered
  · intro other channel held
    rw [found] at held
    simpa only [Open,channels] using wired.waiting other channel held
  · intro channel response connected present
    rw [channels] at present
    exact wired.own channel response connected present
  · intro channel other slot present named
    rw [channels] at present
    rw [found]
    exact wired.held channel other slot present named

theorem Wired.aside (wired : Wired registered broker) {after : RequestBroker}
    (waiters : after.waiters = broker.waiters) (channels : after.channels = broker.channels) :
    Wired registered after :=
  wired.same (fun other => congrArg (AList.lookup other) waiters) channels

/-- The waiter under an id is dropped, and its channel closed, perhaps with an answer to
that id. -/
theorem Wired.close (wired : Wired registered broker) {after : RequestBroker} (id : RequestId)
    (change : Channel → Channel) (closes : ∀ known, (change known).connected = false)
    (answers : ∀ response, (change ⟨none,true⟩).slot = some response → response.id = id)
    (found : ∀ other, after.waiter? other = if other = id then none else broker.waiter? other)
    (channels : after.channels = match broker.waiter? id with
      | some channel => broker.channels.modify channel change
      | none => broker.channels) : Wired registered after := by
  cases waits : broker.waiter? id with
  | none =>
    rw [waits] at channels
    refine wired.same ?_ channels
    intro other
    rw [found]
    split
    · rename_i here
      rw [here,waits]
    · rfl
  | some closed =>
    obtain ⟨named,opened⟩ := wired.waiting id closed waits
    rw [waits] at channels
    have shape (channel : Nat) : after.channels[channel]? =
        if channel = closed then some (change ⟨none,true⟩) else broker.channels[channel]? := by
      rw [channels,List.getElem?_modify]
      by_cases here : closed = channel
      · subst here
        rw [show broker.channels[closed]? = some ⟨none,true⟩ from opened]
        simp
      · simp [here,Ne.symm here]
    constructor
    · rw [channels]
      exact (List.length_modify _ _ _).trans wired.numbered
    · intro other channel held
      rw [found] at held
      split at held
      · cases held
      · rename_i different
        obtain ⟨registration,free⟩ := wired.waiting other channel held
        refine ⟨registration,?_⟩
        have apart : channel ≠ closed := by
          rintro rfl
          exact different (Option.some.inj (registration.symm.trans named))
        simp only [Open]
        rw [shape,if_neg apart]
        exact free
    · intro channel response connected present
      rw [shape] at present
      split at present
      · rename_i here
        rw [here,named]
        have answer := answers response (congrArg Channel.slot (Option.some.inj present))
        rw [answer]
      · exact wired.own channel response connected present
    · intro channel other slot present registration
      rw [shape] at present
      split at present
      · have shut := congrArg Channel.connected (Option.some.inj present)
        rw [closes] at shut
        cases shut
      · rename_i apart
        have known := wired.held channel other slot present registration
        rw [found,if_neg]
        · exact known
        · rintro rfl
          exact apart (Option.some.inj (known.symm.trans waits))

theorem Wired.deliver (wired : Wired registered broker) (response : JsonRpcResponse) :
    Wired registered (broker.deliver response) := by
  simp only [RequestBroker.deliver]
  split
  · rename_i channel found
    refine wired.close response.id (fun known => ⟨some (known.slot.getD response),false⟩)
      (fun _ => rfl) ?_ (fun other => KeyedTable.lookup_erase_eq _ other _) ?_
    · intro answer here
      rw [← Option.some.inj here]
      rfl
    · rw [show broker.waiter? response.id = some channel from found]
      rfl
  · obtain ⟨waiters,channels,_⟩ := park_aside broker response
    exact wired.aside waiters channels

theorem Wired.park (wired : Wired registered broker) (response : JsonRpcResponse) :
    Wired registered (broker.park response) := by
  obtain ⟨waiters,channels,_⟩ := park_aside broker response
  exact wired.aside waiters channels

theorem Wired.abandon (wired : Wired registered broker) (id : RequestId) :
    Wired registered (broker.abandon id) :=
  wired.close id (fun known => { known with connected := false }) (fun _ => rfl) nofun
    (fun other => KeyedTable.lookup_erase_eq id other _) rfl

theorem Wired.cancel (wired : Wired registered broker) (id : RequestId) :
    Wired registered (broker.cancel id).1 := by
  simp only [RequestBroker.cancel]
  split
  · exact wired.abandon id
  · exact wired

/-- The channel at the end of the list is new, and whoever waited before is dropped. -/
theorem Wired.registerWaiter (wired : Wired registered broker) (id : RequestId) :
    Wired (registered ++ [id]) (broker.registerWaiter id).1 := by
  have closed : Wired registered
      { broker with waiters := broker.waiters.erase id, channels := broker.dropSender id } :=
    wired.close id (fun known => { known with connected := false }) (fun _ => rfl) nofun
      (fun other => KeyedTable.lookup_erase_eq id other _) rfl
  have length : (broker.dropSender id).length = registered.length := closed.numbered
  have grown : broker.channels.length = registered.length := wired.numbered
  have found (other : RequestId) : (broker.registerWaiter id).1.waiter? other =
      if other = id then some registered.length else broker.waiter? other := by
    rw [← grown]
    exact KeyedTable.lookup_insert_eq id other broker.channels.length broker.waiters
  have kept (other : RequestId) (different : other ≠ id) :
      RequestBroker.waiter? { broker with
        waiters := broker.waiters.erase id, channels := broker.dropSender id } other =
      broker.waiter? other :=
    (KeyedTable.lookup_erase_eq id other _).trans (if_neg different)
  constructor
  · change (broker.dropSender id ++ [_]).length = _
    rw [List.length_append,List.length_append,length]
    rfl
  · intro other channel held
    rw [found] at held
    simp only [Open,RequestBroker.registerWaiter]
    split at held
    · rename_i same
      cases held
      rw [same]
      constructor
      · exact List.getElem?_concat_length
      · rw [← length]
        exact List.getElem?_concat_length
    · rename_i different
      obtain ⟨registration,free⟩ := closed.waiting other channel ((kept other different).trans held)
      have inside := (List.getElem?_eq_some_iff.mp registration).1
      rw [List.getElem?_append_left inside,List.getElem?_append_left (length ▸ inside)]
      exact ⟨registration,free⟩
  · intro channel response connected present
    simp only [RequestBroker.registerWaiter] at present
    rcases Nat.lt_or_ge channel registered.length with inside | beyond
    · rw [List.getElem?_append_left (length ▸ inside)] at present
      rw [List.getElem?_append_left inside]
      exact closed.own channel response connected present
    · rw [List.getElem?_append_right (length ▸ beyond)] at present
      have fresh := List.mem_singleton.mp (List.mem_of_getElem? present)
      cases fresh
  · intro channel other slot present registration
    rw [found]
    simp only [RequestBroker.registerWaiter] at present
    rcases Nat.lt_or_ge channel registered.length with inside | beyond
    · rw [List.getElem?_append_left (length ▸ inside)] at present
      rw [List.getElem?_append_left inside] at registration
      have known := closed.held channel other slot present registration
      have different : other ≠ id := by
        rintro rfl
        have gone : RequestBroker.waiter? { broker with
            waiters := broker.waiters.erase other, channels := broker.dropSender other } other =
            none := (KeyedTable.lookup_erase_eq other other _).trans (if_pos rfl)
        rw [gone] at known
        cases known
      rw [if_neg different,← kept other different]
      exact known
    · have last : channel = registered.length := by
        have bound := (List.getElem?_eq_some_iff.mp registration).1
        rw [List.length_append,List.length_singleton] at bound
        omega
      subst last
      rw [List.getElem?_concat_length] at registration
      rw [if_pos (Option.some.inj registration).symm]

/-! ## Every operation, with its history -/

end RequestBroker

inductive BrokerLabel where
  | nextRequestId
  | takeParked (id : RequestId)
  | registerWaiter (id : RequestId)
  | deliver (response : JsonRpcResponse)
  | park (response : JsonRpcResponse)
  | abandon (id : RequestId)
  | cancel (id : RequestId)
  | defer (message : JsonRpcMessage)
  | nextDeferred

/-- What went in and what came out. A response passed in is marked when it was refused:
its request given up, and nobody registered for it. -/
structure Deliveries where
  registered : List RequestId
  passed : List (JsonRpcResponse × Bool)
  taken : List JsonRpcResponse
  accepted : List JsonRpcMessage
  returned : List JsonRpcMessage

namespace RequestBroker

/-- The counter draws the number after its last one, which is its first again. -/
def drawId (broker : RequestBroker) : RequestBroker :=
  match broker.nextRequestId with
  | some (next,_) => next
  | none => { broker with nextId := 0 }

def perform (broker : RequestBroker) : BrokerLabel → RequestBroker
  | .nextRequestId => broker.drawId
  | .takeParked id => (broker.takeParked id).1
  | .registerWaiter id => (broker.registerWaiter id).1
  | .deliver response => broker.deliver response
  | .park response => broker.park response
  | .abandon id => broker.abandon id
  | .cancel id => (broker.cancel id).1
  | .defer message => (broker.defer message).1
  | .nextDeferred => broker.nextDeferred.1

def step (broker : RequestBroker) (label : BrokerLabel) : Option RequestBroker :=
  some (broker.perform label)

/-- The request was given up, and no waiter is registered under its id. -/
def refuses (broker : RequestBroker) (response : JsonRpcResponse) : Bool :=
  response.id ∈ broker.abandoned && (broker.waiter? response.id).isNone

end RequestBroker

namespace Deliveries

def empty : Deliveries := ⟨[],[],[],[],[]⟩

def record (before : RequestBroker) (label : BrokerLabel) (_ : RequestBroker)
    (history : Deliveries) : Deliveries :=
  match label with
  | .takeParked id =>
    { history with taken := history.taken ++ (before.takeParked id).2.toList }
  | .registerWaiter id => { history with registered := history.registered ++ [id] }
  | .deliver response | .park response =>
    { history with passed := history.passed ++ [(response,before.refuses response)] }
  | .defer message =>
    match (before.defer message).2 with
    | some _ => history
    | none => { history with accepted := history.accepted ++ [message] }
  | .nextDeferred =>
    { history with returned := history.returned ++ before.nextDeferred.2.toList }
  | _ => history

/-- The responses passed in that were not refused. -/
def wanted (history : Deliveries) : List JsonRpcResponse :=
  (history.passed.filter fun passed => !passed.2).map Prod.fst

/-- What was taken by a waiter that reads, or sent to one that cannot. -/
def handedOut (history : Deliveries) (broker : RequestBroker) : List JsonRpcResponse :=
  history.taken ++ broker.channels.filterMap Channel.slot

end Deliveries

namespace RequestBroker

variable {broker : RequestBroker} {registered : List RequestId} {history : Deliveries}
  {label : BrokerLabel}

/-! ### At most once -/

theorem slots_modify {change : Channel → Channel} (keeps : ∀ known, (change known).slot = known.slot)
    (channels : List Channel) (channel : Nat) :
    (channels.modify channel change).filterMap Channel.slot = channels.filterMap Channel.slot := by
  induction channels generalizing channel with
  | nil => simp
  | cons first rest ih =>
    cases channel with
    | zero => simp [List.filterMap_cons,keeps]
    | succ channel => simp [List.filterMap_cons,ih]

theorem slots_dropSender (broker : RequestBroker) (id : RequestId) :
    (broker.dropSender id).filterMap Channel.slot = broker.channels.filterMap Channel.slot := by
  simp only [dropSender]
  split
  · rename_i channel _
    exact @slots_modify (fun known => { known with connected := false }) (fun _ => rfl) _ channel
  · rfl

/-- A send into an open channel hands out one response more. -/
theorem count_send {channels : List Channel} {channel : Nat}
    (opened : channels[channel]? = some ⟨none,true⟩) (response known : JsonRpcResponse) :
    ((send channel response channels).filterMap Channel.slot).count known =
      (channels.filterMap Channel.slot).count known + [response].count known := by
  induction channels generalizing channel with
  | nil => cases opened
  | cons first rest ih =>
    cases channel with
    | zero =>
      cases Option.some.inj opened
      simp [send,List.count_cons]
    | succ channel =>
      have later := ih opened
      simp only [send] at later
      simp only [send,List.modify_succ_cons,List.filterMap_cons]
      cases first.slot with
      | none => exact later
      | some held =>
        simp only [List.count_cons] at later ⊢
        omega

/-- What is found first is what is erased. -/
theorem count_eraseP {accepts : JsonRpcResponse → Bool} {parked : List JsonRpcResponse}
    {response : JsonRpcResponse} (found : parked.find? accepts = some response)
    (known : JsonRpcResponse) :
    [response].count known + (parked.eraseP accepts).count known = parked.count known := by
  induction parked with
  | nil => cases found
  | cons first rest ih =>
    by_cases here : accepts first = true
    · rw [List.find?_cons_of_pos here] at found
      cases found
      rw [List.eraseP_cons_of_pos here,← List.count_append]
      rfl
    · rw [List.find?_cons_of_neg here] at found
      have later := ih found
      rw [List.eraseP_cons_of_neg here]
      simp only [List.count_cons] at later ⊢
      omega

/-- What is taken out of the parked responses was one of them. -/
theorem count_takeParked (broker : RequestBroker) (id : RequestId) (known : JsonRpcResponse) :
    (broker.takeParked id).2.toList.count known + (broker.takeParked id).1.parked.count known =
      broker.parked.count known := by
  simp only [takeParked]
  split
  · simp
  · rename_i found
    exact count_eraseP found known

/-- What was handed out or is parked was passed in, and not refused. -/
def Counted (history : Deliveries) (broker : RequestBroker) : Prop :=
  ∀ response, (history.handedOut broker).count response + broker.parked.count response ≤
    history.wanted.count response

theorem counted_new : Counted .empty new := fun _ => Nat.le_refl _

/-- Nothing comes in, and nothing but parked responses goes. -/
theorem Counted.keep (counted : Counted history broker) {after : RequestBroker}
    {later : Deliveries} (taken : later.taken = history.taken)
    (passed : later.passed = history.passed)
    (channels : after.channels.filterMap Channel.slot = broker.channels.filterMap Channel.slot)
    (parked : after.parked.Sublist broker.parked) : Counted later after := by
  intro response
  have known := counted response
  have fewer := parked.count_le response
  have out : later.handedOut after = history.handedOut broker := by
    simp only [Deliveries.handedOut,taken,channels]
  have in_ : later.wanted = history.wanted := by simp only [Deliveries.wanted,passed]
  rw [out,in_]
  omega

/-- A response comes in, and is held once more at most, or not at all if it is refused. -/
theorem Counted.pass (counted : Counted history broker) {after : RequestBroker}
    (response : JsonRpcResponse) (refused : Bool)
    (grown : ∀ known, (after.channels.filterMap Channel.slot).count known +
        after.parked.count known ≤
      (broker.channels.filterMap Channel.slot).count known + broker.parked.count known +
        if refused then 0 else [response].count known) :
    Counted { history with passed := history.passed ++ [(response,refused)] } after := by
  intro known
  have before := counted known
  have now := grown known
  simp only [Deliveries.handedOut,Deliveries.wanted,List.filter_append,List.map_append,
    List.count_append] at before ⊢
  cases refused with
  | true =>
    simp only [if_true] at now
    omega
  | false =>
    have kept : ([(response,false)].filter fun passed : JsonRpcResponse × Bool => !passed.2).map
        Prod.fst = [response] := rfl
    rw [kept]
    simp only [Bool.false_eq_true,if_false] at now
    omega

theorem Counted.park (counted : Counted history broker) (response : JsonRpcResponse) :
    Counted { history with passed := history.passed ++ [(response,broker.refuses response)] }
      (broker.park response) := by
  apply counted.pass
  intro known
  rcases park_cases broker response with same | ⟨_,forgot⟩ | ⟨wanted,kept⟩
  · rw [same]
    exact Nat.le_add_right _ _
  · rw [forgot]
    exact Nat.le_add_right _ _
  · have open_ : broker.refuses response = false := by simp [refuses,wanted]
    have bound := count_parkIn_le broker.parked response known
    rw [kept,open_]
    simp only [Bool.false_eq_true,if_false]
    omega

theorem Counted.deliver (counted : Counted history broker)
    (wired : Wired history.registered broker) (response : JsonRpcResponse) :
    Counted { history with passed := history.passed ++ [(response,broker.refuses response)] }
      (broker.deliver response) := by
  cases waits : broker.waiter? response.id with
  | none =>
    have parked : broker.deliver response = broker.park response := by
      simp only [RequestBroker.deliver]
      rw [show AList.lookup response.id broker.waiters = none from waits]
    rw [parked]
    exact counted.park response
  | some channel =>
    obtain ⟨_,opened⟩ := wired.waiting response.id channel waits
    have open_ : broker.refuses response = false := by simp [refuses,waits]
    have sent : broker.deliver response = { broker with
        waiters := broker.waiters.erase response.id
        channels := send channel response broker.channels } := by
      simp only [RequestBroker.deliver]
      rw [show AList.lookup response.id broker.waiters = some channel from waits]
    apply counted.pass
    intro known
    rw [sent,open_]
    simp only [Bool.false_eq_true,if_false]
    rw [count_send opened response known]
    omega

theorem Counted.takeParked (counted : Counted history broker) (id : RequestId) :
    Counted { history with taken := history.taken ++ (broker.takeParked id).2.toList }
      (broker.takeParked id).1 := by
  intro known
  have before := counted known
  have moved := count_takeParked broker id known
  have channels : (broker.takeParked id).1.channels = broker.channels := by
    simp only [RequestBroker.takeParked]
    split <;> rfl
  simp only [Deliveries.handedOut,Deliveries.wanted,List.count_append,channels] at before ⊢
  omega

theorem Counted.abandon (counted : Counted history broker) (id : RequestId) :
    Counted history (broker.abandon id) :=
  counted.keep rfl rfl (slots_dropSender broker id) List.filter_sublist

theorem Counted.registerWaiter (counted : Counted history broker) (id : RequestId) :
    Counted { history with registered := history.registered ++ [id] }
      (broker.registerWaiter id).1 := by
  refine counted.keep rfl rfl ?_ (List.Sublist.refl _)
  simp only [RequestBroker.registerWaiter,List.filterMap_append,slots_dropSender]
  exact List.append_nil _

/-! ### The deferred queue -/

/-- What came back and what is still owed is what was accepted, in order. -/
def Queued (history : Deliveries) (broker : RequestBroker) : Prop :=
  history.returned ++ broker.deferred = history.accepted

theorem defer_cases (broker : RequestBroker) (message : JsonRpcMessage) :
    broker.defer message = (broker,some message) ∨
      broker.defer message = ({ broker with deferred := broker.deferred ++ [message] },none) := by
  by_cases full : maxDeferred ≤ broker.deferred.length
  · exact .inl (if_pos full)
  · exact .inr (if_neg full)

theorem Queued.nextDeferred (queued : Queued history broker) :
    Queued { history with returned := history.returned ++ broker.nextDeferred.2.toList }
      broker.nextDeferred.1 := by
  simp only [RequestBroker.nextDeferred]
  split
  · simpa [Queued] using queued
  · rename_i queue
    simp only [Queued,queue] at queued ⊢
    rw [← queued,Option.toList_some,List.append_assoc]
    rfl

/-! ### Runs -/

structure Sound (state : RequestBroker × Deliveries) : Prop where
  stored : state.1.Stored
  wired : Wired state.2.registered state.1
  counted : Counted state.2 state.1
  queued : Queued state.2 state.1

theorem drawId_kept (broker : RequestBroker) :
    ∃ nextId, broker.drawId = { broker with nextId := nextId } := by
  simp only [drawId,nextRequestId]
  split
  · rename_i drawn
    split at drawn
    · cases drawn
      exact ⟨_,rfl⟩
    · cases drawn
  · exact ⟨0,rfl⟩

theorem perform_sound (state : RequestBroker × Deliveries) (label : BrokerLabel)
    (next : RequestBroker × Deliveries) (sound : Sound state)
    (observed : Runs.observed step Deliveries.record state label = some next) : Sound next := by
  obtain ⟨broker,history⟩ := state
  obtain ⟨stored,wired,counted,queued⟩ := sound
  cases observed
  cases label with
  | nextRequestId =>
    obtain ⟨nextId,drawn⟩ := drawId_kept broker
    simp only [perform,drawn]
    exact ⟨⟨stored.parked,stored.ids,stored.abandoned,stored.deferred,stored.apart⟩,
      wired.aside rfl rfl,counted.keep rfl rfl rfl (List.Sublist.refl _),queued⟩
  | takeParked id =>
    have kept : (broker.takeParked id).1.waiters = broker.waiters ∧
        (broker.takeParked id).1.channels = broker.channels := by
      simp only [takeParked]
      split <;> exact ⟨rfl,rfl⟩
    refine ⟨stored.takeParked id,wired.aside kept.1 kept.2,counted.takeParked id,?_⟩
    simpa only [Queued,perform,Deliveries.record,takeParked_deferred] using queued
  | registerWaiter id =>
    exact ⟨stored.fewer (List.Sublist.refl _) (List.Sublist.refl _) stored.deferred,
      wired.registerWaiter id,counted.registerWaiter id,queued⟩
  | deliver response =>
    refine ⟨stored.deliver response,wired.deliver response,counted.deliver wired response,?_⟩
    simpa only [Queued,perform,Deliveries.record,deliver_deferred] using queued
  | park response =>
    refine ⟨stored.park response,wired.park response,counted.park response,?_⟩
    have same : (broker.park response).deferred = broker.deferred := by
      rcases park_cases broker response with same | ⟨_,forgot⟩ | ⟨_,kept⟩
      · rw [same]
      · rw [forgot]
      · rw [kept]
    simpa only [Queued,perform,Deliveries.record,same] using queued
  | abandon id => exact ⟨stored.abandon id,wired.abandon id,counted.abandon id,queued⟩
  | cancel id =>
    have given : Counted history (broker.cancel id).1 := by
      simp only [cancel]
      split
      · exact counted.abandon id
      · exact counted
    refine ⟨stored.cancel id,wired.cancel id,given,?_⟩
    simpa only [Queued,perform,Deliveries.record,cancel_deferred] using queued
  | defer message =>
    have room := stored.defer message
    simp only [perform,Deliveries.record]
    rcases defer_cases broker message with full | taken
    · rw [full]
      exact ⟨stored,wired,counted,queued⟩
    · rw [taken] at room ⊢
      refine ⟨room,wired.aside rfl rfl,counted.keep rfl rfl rfl (List.Sublist.refl _),?_⟩
      simp only [Queued] at queued ⊢
      rw [← queued,List.append_assoc]
  | nextDeferred =>
    have kept : broker.nextDeferred.1.waiters = broker.waiters ∧
        broker.nextDeferred.1.channels = broker.channels ∧
        broker.nextDeferred.1.parked = broker.parked := by
      simp only [nextDeferred]
      split <;> exact ⟨rfl,rfl,rfl⟩
    exact ⟨stored.nextDeferred,wired.aside kept.1 kept.2.1,
      counted.keep rfl rfl (congrArg _ kept.2.1) (kept.2.2 ▸ List.Sublist.refl _),
      queued.nextDeferred⟩

/-! ### What a waiter sees -/

/-- The operation takes the sender behind `id` away without an answer. -/
def ends (id : RequestId) : BrokerLabel → Prop
  | .abandon given | .cancel given | .registerWaiter given => given = id
  | _ => False

/-- A waiter's channel stays as it is, or it was empty: then it gets an answer to its own
id, or is closed by an operation that names its id. -/
inductive Sees (broker : RequestBroker) (label : BrokerLabel) (channel : Nat) (id : RequestId) :
    Prop where
  | same (unchanged : (broker.perform label).receive channel = broker.receive channel)
  | answered (response : JsonRpcResponse) (delivered : label = .deliver response)
      (own : response.id = id) (waited : broker.receive channel = .empty)
      (got : (broker.perform label).receive channel = .response response)
  | closed (named : ends id label) (waited : broker.receive channel = .empty)
      (gone : (broker.perform label).receive channel = .disconnected)

theorem receive_congr {after : RequestBroker} {channel : Nat}
    (same : after.channels[channel]? = broker.channels[channel]?) :
    after.receive channel = broker.receive channel := by
  simp only [receive,same]

/-- Dropping the sender behind an id closes that id's channel only. -/
theorem dropSender_sees (wired : Wired registered broker) {channel : Nat} {id : RequestId}
    (named : registered[channel]? = some id) (given : RequestId) :
    (broker.dropSender given)[channel]? = broker.channels[channel]? ∨
      (given = id ∧ broker.Open channel ∧
        (broker.dropSender given)[channel]? = some ⟨none,false⟩) := by
  cases waits : broker.waiter? given with
  | none =>
    left
    simp only [dropSender]
    rw [show AList.lookup given broker.waiters = none from waits]
  | some closed =>
    obtain ⟨registration,opened⟩ := wired.waiting given closed waits
    have shape : broker.dropSender given = disconnect closed broker.channels := by
      simp only [dropSender]
      rw [show AList.lookup given broker.waiters = some closed from waits]
    rw [shape]
    simp only [disconnect,List.getElem?_modify]
    by_cases here : closed = channel
    · subst here
      right
      refine ⟨Option.some.inj (registration.symm.trans named),opened,?_⟩
      rw [show broker.channels[closed]? = some ⟨none,true⟩ from opened]
      simp
    · left
      simp [here]

theorem receive_of_dropped {after : RequestBroker} {channel : Nat}
    (dropped : after.channels[channel]? = some ⟨none,false⟩) :
    after.receive channel = .disconnected :=
  receive_dropped dropped

theorem Sees.of_drop (wired : Wired registered broker) {channel : Nat} {id : RequestId}
    (named : registered[channel]? = some id) {given : RequestId} (naming : ends given label)
    (dropped : (broker.perform label).channels[channel]? =
      (broker.dropSender given)[channel]?) : Sees broker label channel id := by
  rcases dropSender_sees wired named given with same | ⟨rfl,opened,gone⟩
  · exact .same (receive_congr (dropped.trans same))
  · exact .closed naming ((receive_empty_iff broker channel).mpr opened)
      (receive_of_dropped (dropped.trans gone))

theorem deliver_sees (wired : Wired registered broker) {channel : Nat} {id : RequestId}
    (named : registered[channel]? = some id) (response : JsonRpcResponse) :
    Sees broker (.deliver response) channel id := by
  cases waits : broker.waiter? response.id with
  | none =>
    have parked : broker.deliver response = broker.park response := by
      simp only [deliver]
      rw [show AList.lookup response.id broker.waiters = none from waits]
    refine .same (receive_congr ?_)
    simp only [perform,parked,(park_aside broker response).2.1]
  | some sent =>
    obtain ⟨registration,opened⟩ := wired.waiting response.id sent waits
    have shape : (broker.deliver response).channels = send sent response broker.channels := by
      simp only [deliver]
      rw [show AList.lookup response.id broker.waiters = some sent from waits]
    by_cases here : sent = channel
    · subst here
      have got : (broker.deliver response).channels[sent]? = some ⟨some response,false⟩ := by
        rw [shape]
        simp only [send,List.getElem?_modify]
        rw [show broker.channels[sent]? = some ⟨none,true⟩ from opened]
        simp
      refine .answered response rfl (Option.some.inj (registration.symm.trans named))
        ((receive_empty_iff broker sent).mpr opened) ?_
      simp only [perform,receive,got]
    · refine .same (receive_congr ?_)
      simp only [perform,shape,send,List.getElem?_modify]
      simp [here]

theorem perform_sees (wired : Wired registered broker) {channel : Nat} {id : RequestId}
    (named : registered[channel]? = some id) (label : BrokerLabel) :
    Sees broker label channel id := by
  cases label with
  | nextRequestId =>
    obtain ⟨nextId,drawn⟩ := drawId_kept broker
    refine .same (receive_congr ?_)
    simp only [perform,drawn]
  | takeParked taken =>
    refine .same (receive_congr ?_)
    simp only [perform,takeParked]
    split <;> rfl
  | registerWaiter given =>
    refine .of_drop wired named (rfl : ends given (.registerWaiter given)) ?_
    have grown : (broker.dropSender given).length = registered.length := by
      have closed := (wired.abandon given).numbered
      exact closed
    exact List.getElem?_append_left (grown ▸ (List.getElem?_eq_some_iff.mp named).1)
  | deliver response => exact deliver_sees wired named response
  | park response =>
    refine .same (receive_congr ?_)
    simp only [perform,(park_aside broker response).2.1]
  | abandon given => exact .of_drop wired named (rfl : ends given (.abandon given)) rfl
  | cancel given =>
    by_cases ours : broker.wasIssuedHere given = true
    · refine .of_drop wired named (rfl : ends given (.cancel given)) ?_
      simp only [perform,cancel,ours,if_true]
      rfl
    · refine .same (receive_congr ?_)
      simp only [perform,cancel,ours]
      rfl
  | defer message =>
    refine .same (receive_congr ?_)
    simp only [perform]
    rcases defer_cases broker message with full | taken
    · rw [full]
    · rw [taken]
  | nextDeferred =>
    refine .same (receive_congr ?_)
    simp only [perform,nextDeferred]
    split <;> rfl

/-! ## Delivery -/

structure Delivers (broker : RequestBroker) (history : Deliveries) : Prop where
  parked : broker.parked.length ≤ 16 ∧ (broker.parked.map JsonRpcResponse.id).Nodup
  abandoned : broker.abandoned.length ≤ 64
  deferred : broker.deferred.length ≤ 256
  /-- Each response is handed out at most as often as it was passed in unrefused. -/
  once : ∀ response, (history.handedOut broker).count response ≤ history.wanted.count response
  /-- A response to a request given up, and without a waiter, reaches nobody. -/
  refused : ∀ response, broker.refuses response = true →
    (∀ channel, (broker.deliver response).receive channel = broker.receive channel) ∧
      (broker.deliver response).parked = broker.parked ∧
      (broker.park response).parked = broker.parked
  /-- Nor is one to be found that was parked before its request was given up. -/
  forgotten : ∀ id ∈ broker.abandoned, (broker.takeParked id).2 = none
  own : ∀ channel response, broker.receive channel = .response response →
    history.registered[channel]? = some response.id
  waiters : ∀ channel id, history.registered[channel]? = some id → ∀ label,
    Sees broker label channel id
  queue : history.returned ++ broker.deferred = history.accepted

theorem receive_response {channel : Nat} {response : JsonRpcResponse}
    (got : broker.receive channel = .response response) :
    ∃ connected, broker.channels[channel]? = some ⟨some response,connected⟩ := by
  simp only [receive] at got
  split at got
  · rename_i held connected present
    cases got
    exact ⟨connected,present⟩
  · cases got
  · cases got

theorem refused_unseen {response : JsonRpcResponse} (refused : broker.refuses response = true) :
    broker.deliver response = broker.park response ∧
      (broker.park response).parked = broker.parked := by
  simp only [refuses,Bool.and_eq_true,decide_eq_true_eq,Option.isNone_iff_eq_none] at refused
  obtain ⟨given,unheld⟩ := refused
  constructor
  · simp only [deliver]
    rw [show AList.lookup response.id broker.waiters = none from unheld]
  · rcases park_cases broker response with same | ⟨_,forgot⟩ | ⟨wanted,_⟩
    · rw [same]
    · rw [forgot]
    · exact (wanted given).elim

/-- A waiter gets its answer, the client answers once more, then gives another request up
and answers it. -/
def answeredTwice : List BrokerLabel :=
  let answer (id : RequestId) : JsonRpcResponse := ⟨id,some .null,none⟩
  [.registerWaiter (.number 1),.deliver (answer (.number 1)),.deliver (answer (.number 1)),
    .registerWaiter (.number 2),.abandon (.number 2),.deliver (answer (.number 2)),
    .defer (.response (answer (.number 3))),.nextDeferred]

end RequestBroker

end SmlMcps
