import SmlMcps.Broker

/-! Laws of the request broker. Every registered waiter has a channel of its own that is
open and empty, under an id the broker handed out. No operation but a registration adds
a waiter, and one that takes a waiter away closes its channel. -/
namespace SmlMcps

namespace RequestBroker

/-! ## Issued identifiers -/

theorem issued_toList (number : Nat) :
    ("sml-" ++ toString number).toList = 's' :: 'm' :: 'l' :: '-' :: Nat.toDigits 10 number := by
  rw [String.toList_append,Nat.toString_eq_repr,Nat.toList_repr]
  rfl

theorem issued_injective {first second : Nat} (same : issued first = issued second) :
    first = second := by
  have texts : "sml-" ++ toString first = "sml-" ++ toString second := RequestId.string.inj same
  have chars := congrArg String.toList texts
  rw [issued_toList,issued_toList] at chars
  simp only [List.cons.injEq,true_and] at chars
  have values := congrArg (fun digits => Nat.ofDigitChars 10 digits 0) chars
  simpa using values

/-- The id carries a number this broker has handed out. -/
def Issued (broker : RequestBroker) (id : RequestId) : Prop :=
  ∃ number, number < broker.nextId ∧ id = issued number

theorem wasIssuedHere_of_issued {broker : RequestBroker} {id : RequestId} (known : broker.Issued id)
    (bound : broker.nextId ≤ 2^64) : broker.wasIssuedHere id = true := by
  obtain ⟨number,below,rfl⟩ := known
  have small : number < 2^64 := by omega
  have chars := issued_toList number
  simp only [wasIssuedHere,issued]
  simp only [chars,parseUnsigned_toDigits small]
  exact decide_eq_true below

theorem not_issued_next (broker : RequestBroker) : ¬broker.Issued (issued broker.nextId) := by
  rintro ⟨number,below,same⟩
  have := issued_injective same
  omega

/-! ## Waiters and their channels -/

/-- The channel is open and nothing has come. -/
def Open (broker : RequestBroker) (channel : Nat) : Prop :=
  broker.channels[channel]? = some ⟨none,true⟩

/-- The sender is gone and nothing has come. -/
def Dropped (broker : RequestBroker) (channel : Nat) : Prop :=
  broker.channels[channel]? = some ⟨none,false⟩

def waiter? (broker : RequestBroker) (id : RequestId) : Option Nat := AList.lookup id broker.waiters

theorem receive_empty_iff (broker : RequestBroker) (channel : Nat) :
    broker.receive channel = .empty ↔ broker.Open channel := by
  simp only [receive,Open]
  split
  · rename_i found
    simp [found]
  · rename_i found
    simp [found]
  · rename_i full closed
    constructor
    · intro absurd
      cases absurd
    · intro opened
      exact (closed opened).elim

theorem receive_dropped {broker : RequestBroker} {channel : Nat}
    (dropped : broker.Dropped channel) : broker.receive channel = .disconnected := by
  simp only [Dropped] at dropped
  simp [receive,dropped]

structure Routed (broker : RequestBroker) : Prop where
  bound : broker.nextId ≤ 2^64
  known : ∀ id channel, broker.waiter? id = some channel → broker.Issued id
  live : ∀ id channel, broker.waiter? id = some channel → broker.Open channel
  single : ∀ first second channel, broker.waiter? first = some channel →
    broker.waiter? second = some channel → first = second

theorem routed_new : new.Routed where
  bound := Nat.zero_le _
  known _ _ found := by cases found
  live _ _ found := by cases found
  single _ _ _ found := by cases found

/-- What any operation but a registration does to the waiters: none appears, no channel
opens, and a waiter whose channel is still open is still registered. -/
structure Follows (before after : RequestBroker) : Prop where
  routed : after.Routed
  issued : ∀ id, before.Issued id → after.Issued id
  fewer : ∀ id channel, after.waiter? id = some channel → before.waiter? id = some channel
  closed : ∀ channel, after.Open channel → before.Open channel
  kept : ∀ id channel, before.waiter? id = some channel → after.Open channel →
    after.waiter? id = some channel
  dropped : ∀ channel, before.Dropped channel → after.Dropped channel
  channels : after.channels.length = before.channels.length

theorem Follows.trans {first second third : RequestBroker} (one : Follows first second)
    (two : Follows second third) : Follows first third where
  routed := two.routed
  issued id known := two.issued id (one.issued id known)
  fewer id channel found := one.fewer id channel (two.fewer id channel found)
  closed channel opened := one.closed channel (two.closed channel opened)
  kept id channel found opened :=
    two.kept id channel (one.kept id channel found (two.closed channel opened)) opened
  dropped channel gone := two.dropped channel (one.dropped channel gone)
  channels := two.channels.trans one.channels

/-- The operations on the parked, deferred and abandoned messages. -/
theorem Follows.aside {before after : RequestBroker} (routed : before.Routed)
    (waiters : after.waiters = before.waiters) (channels : after.channels = before.channels)
    (grown : before.nextId ≤ after.nextId) (bound : after.nextId ≤ 2^64) :
    Follows before after := by
  have same : ∀ id, after.waiter? id = before.waiter? id := fun id => by unfold waiter?; rw [waiters]
  have opened : ∀ channel, after.Open channel ↔ before.Open channel := fun channel => by
    simp only [Open]
    rw [channels]
  have issued : ∀ id, before.Issued id → after.Issued id := by
    rintro id ⟨number,below,named⟩
    exact ⟨number,by omega,named⟩
  refine ⟨⟨bound,?_,?_,?_⟩,issued,?_,?_,?_,?_,by rw [channels]⟩
  · intro id channel found
    exact issued id (routed.known id channel (by rw [← same id]; exact found))
  · intro id channel found
    exact (opened channel).mpr (routed.live id channel (by rw [← same id]; exact found))
  · intro first second channel one two
    rw [same] at one two
    exact routed.single first second channel one two
  · intro id channel found
    rw [← same id]
    exact found
  · intro channel live
    exact (opened channel).mp live
  · intro id channel found _
    rw [same id]
    exact found
  · intro channel gone
    simp only [Dropped]
    rw [channels]
    exact gone

theorem Follows.refl {broker : RequestBroker} (routed : broker.Routed) : Follows broker broker :=
  .aside routed rfl rfl (Nat.le_refl _) routed.bound

/-- A waiter is taken away and its channel is put in a state it never leaves. -/
theorem Follows.remove {before after : RequestBroker} (id : RequestId)
    (close : Channel → Channel) (routed : before.Routed) (final : ∀ channel, close channel ≠ ⟨none,true⟩)
    (waiters : after.waiters = before.waiters.erase id)
    (channels : after.channels = match before.waiter? id with
      | some channel => before.channels.modify channel close
      | none => before.channels)
    (nextId : after.nextId = before.nextId) : Follows before after := by
  have found : ∀ other, after.waiter? other = if other = id then none else before.waiter? other := by
    intro other
    simp only [waiter?]
    rw [waiters]
    exact KeyedTable.lookup_erase_eq id other before.waiters
  have fewer : ∀ other channel, after.waiter? other = some channel →
      other ≠ id ∧ before.waiter? other = some channel := by
    intro other channel present
    rw [found] at present
    split at present
    · cases present
    · rename_i different
      exact ⟨different,present⟩
  have opened : ∀ channel, after.Open channel ↔
      before.Open channel ∧ before.waiter? id ≠ some channel := by
    intro channel
    simp only [Open]
    rw [channels]
    cases held : before.waiter? id with
    | none => simp
    | some taken =>
      simp only [List.getElem?_modify,Option.map_eq_map]
      by_cases here : taken = channel
      · subst here
        simp only [if_true,ne_eq,not_true,and_false,iff_false]
        cases before.channels[taken]? with
        | none => simp
        | some known => simpa using final known
      · simp [here]
  have issued : ∀ other, before.Issued other → after.Issued other := by
    rintro other ⟨number,below,named⟩
    exact ⟨number,by omega,named⟩
  refine ⟨⟨by rw [nextId]; exact routed.bound,?_,?_,?_⟩,issued,?_,?_,?_,?_,?_⟩
  · intro other channel present
    exact issued other (routed.known other channel (fewer other channel present).2)
  · intro other channel present
    obtain ⟨different,old⟩ := fewer other channel present
    refine (opened channel).mpr ⟨routed.live other channel old,?_⟩
    intro same
    exact different (routed.single other id channel old same)
  · intro first second channel one two
    exact routed.single first second channel (fewer first channel one).2 (fewer second channel two).2
  · intro other channel present
    exact (fewer other channel present).2
  · intro channel live
    exact ((opened channel).mp live).1
  · intro other channel old live
    rw [found,if_neg]
    · exact old
    · intro same
      subst same
      exact ((opened channel).mp live).2 old
  · intro channel gone
    simp only [Dropped] at gone ⊢
    rw [channels]
    split
    · rename_i taken held
      have different : taken ≠ channel := by
        intro same
        have live := routed.live id taken held
        simp only [Open] at live
        rw [same,gone] at live
        cases live
      simpa [different] using gone
    · exact gone
  · rw [channels]
    split
    · exact List.length_modify _ _ _
    · rfl

/-! ## The operations -/

theorem park_aside (broker : RequestBroker) (response : JsonRpcResponse) :
    (broker.park response).waiters = broker.waiters ∧
      (broker.park response).channels = broker.channels ∧
      (broker.park response).nextId = broker.nextId := by
  simp only [park,forgetAbandoned]
  split
  · exact ⟨rfl,rfl,rfl⟩
  · split
    · rename_i found
      split at found
      · cases found
        exact ⟨rfl,rfl,rfl⟩
      · cases found
    · exact ⟨rfl,rfl,rfl⟩

theorem deliver_follows {broker : RequestBroker} (routed : broker.Routed)
    (response : JsonRpcResponse) : Follows broker (broker.deliver response) := by
  simp only [deliver]
  split
  · rename_i channel found
    have held : broker.waiter? response.id = some channel := found
    have closes : ∀ known : Channel,
        (⟨some (known.slot.getD response),false⟩ : Channel) ≠ ⟨none,true⟩ := by simp
    refine .remove response.id _ routed closes rfl ?_ rfl
    rw [held]
    rfl
  · obtain ⟨waiters,channels,nextId⟩ := park_aside broker response
    exact .aside routed waiters channels (Nat.le_of_eq nextId.symm) (nextId ▸ routed.bound)

theorem abandon_follows {broker : RequestBroker} (routed : broker.Routed) (id : RequestId) :
    Follows broker (broker.abandon id) := by
  have closes : ∀ known : Channel, ({ known with connected := false } : Channel) ≠ ⟨none,true⟩ := by
    simp
  exact .remove id _ routed closes rfl rfl rfl

theorem cancel_follows {broker : RequestBroker} (routed : broker.Routed) (id : RequestId) :
    Follows broker (broker.cancel id).1 := by
  simp only [cancel]
  split
  · exact abandon_follows routed id
  · exact .refl routed

theorem takeParked_follows {broker : RequestBroker} (routed : broker.Routed) (id : RequestId) :
    Follows broker (broker.takeParked id).1 := by
  simp only [takeParked]
  split
  · exact .refl routed
  · exact .aside routed rfl rfl (Nat.le_refl _) routed.bound

theorem defer_follows {broker : RequestBroker} (routed : broker.Routed)
    (message : JsonRpcMessage) : Follows broker (broker.defer message).1 := by
  simp only [defer]
  split
  · exact .refl routed
  · exact .aside routed rfl rfl (Nat.le_refl _) routed.bound

theorem nextDeferred_follows {broker : RequestBroker} (routed : broker.Routed) :
    Follows broker broker.nextDeferred.1 := by
  simp only [nextDeferred]
  split
  · exact .refl routed
  · exact .aside routed rfl rfl (Nat.le_refl _) routed.bound

/-- A drawn id is new, and nobody waits under it. -/
theorem nextRequestId_follows {broker next : RequestBroker} {id : RequestId}
    (routed : broker.Routed) (drawn : broker.nextRequestId = some (next,id)) :
    Follows broker next ∧ next.Issued id ∧ ¬broker.Issued id ∧ next.waiter? id = none := by
  simp only [nextRequestId] at drawn
  split at drawn
  · rename_i room
    cases drawn
    have unheld : broker.waiter? (issued broker.nextId) = none := by
      cases held : broker.waiter? (issued broker.nextId) with
      | none => rfl
      | some channel => exact (not_issued_next broker (routed.known _ channel held)).elim
    refine ⟨.aside routed rfl rfl (Nat.le_succ _) (Nat.le_of_lt room),?_,not_issued_next broker,
      unheld⟩
    exact ⟨broker.nextId,Nat.lt_succ_self _,rfl⟩
  · cases drawn

/-- A registration adds one waiter, on a channel that did not exist. -/
structure Registers (before : RequestBroker) (id : RequestId) (after : RequestBroker)
    (channel : Nat) : Prop where
  routed : after.Routed
  issued : ∀ other, before.Issued other → after.Issued other
  found : ∀ other, after.waiter? other = if other = id then some channel else before.waiter? other
  opened : ∀ other, other < before.channels.length → (after.Open other ↔ before.Open other)
  fresh : channel = before.channels.length
  dropped : ∀ other, before.Dropped other → after.Dropped other
  channels : after.channels.length = before.channels.length + 1

theorem registerWaiter_registers {broker : RequestBroker} {id : RequestId}
    (routed : broker.Routed) (known : broker.Issued id) (unheld : broker.waiter? id = none) :
    Registers broker id (broker.registerWaiter id).1 (broker.registerWaiter id).2 := by
  have kept : broker.dropSender id = broker.channels := by
    simp only [dropSender]
    have none : AList.lookup id broker.waiters = none := unheld
    rw [none]
  have channels : (broker.registerWaiter id).1.channels = broker.channels ++ [⟨none,true⟩] := by
    simp only [registerWaiter,kept]
  have found : ∀ other, (broker.registerWaiter id).1.waiter? other =
      if other = id then some broker.channels.length else broker.waiter? other :=
    fun other => KeyedTable.lookup_insert_eq id other broker.channels.length broker.waiters
  have opened : ∀ other, other < broker.channels.length →
      ((broker.registerWaiter id).1.Open other ↔ broker.Open other) := by
    intro other inside
    simp only [Open]
    rw [channels,List.getElem?_append_left inside]
  have inside : ∀ other channel, broker.waiter? other = some channel →
      channel < broker.channels.length := by
    intro other channel present
    exact (List.getElem?_eq_some_iff.mp (routed.live other channel present)).1
  refine ⟨⟨routed.bound,?_,?_,?_⟩,fun other old => old,found,opened,rfl,?_,?_⟩
  · intro other channel present
    rw [found] at present
    split at present
    · rename_i same
      rw [same]
      exact known
    · exact routed.known other channel present
  · intro other channel present
    rw [found] at present
    split at present
    · cases present
      simp only [Open]
      rw [channels]
      simp
    · exact (opened channel (inside other channel present)).mpr (routed.live other channel present)
  · intro first second channel one two
    rw [found] at one two
    split at one
    · rename_i sameFirst
      split at two
      · rename_i sameSecond
        exact sameFirst.trans sameSecond.symm
      · cases one
        have := inside second _ two
        omega
    · split at two
      · cases two
        have := inside first _ one
        omega
      · exact routed.single first second channel one two
  · intro other gone
    have bound : other < broker.channels.length := (List.getElem?_eq_some_iff.mp gone).1
    simp only [Dropped]
    rw [channels,List.getElem?_append_left bound]
    exact gone
  · rw [channels,List.length_append]
    rfl

/-! ## Threads with a question -/

/-- Any number of threads, each with at most one question: its id and, for a thread that
waits to be handed the answer, its channel. Ids are drawn from the broker and never
shared, and a channel that is open is registered under its thread's id. -/
structure Askers {κ : Type} (broker : RequestBroker) (asks : κ → Option RequestId)
    (channelOf : κ → Option Nat) : Prop where
  routed : broker.Routed
  drawn : ∀ thread id, asks thread = some id → broker.Issued id
  apart : ∀ first second id, asks first = some id → asks second = some id → first = second
  unregistered : ∀ thread id, asks thread = some id → channelOf thread = none →
    broker.waiter? id = none
  registered : ∀ thread id channel, asks thread = some id → channelOf thread = some channel →
    channel < broker.channels.length ∧ (broker.Open channel → broker.waiter? id = some channel)

variable {κ : Type} {before after : RequestBroker} {asks later : κ → Option RequestId}
  {channelOf laterChannel : κ → Option Nat}

/-- The thread is done with its question, or goes on with it. -/
def Carries (asks later : κ → Option RequestId) (channelOf laterChannel : κ → Option Nat)
    (thread : κ) : Prop :=
  later thread = none ∨ later thread = asks thread ∧ laterChannel thread = channelOf thread

theorem Carries.asked {thread : κ} {id : RequestId}
    (carries : Carries asks later channelOf laterChannel thread) (asking : later thread = some id) :
    asks thread = some id ∧ laterChannel thread = channelOf thread := by
  rcases carries with done | ⟨same,channel⟩
  · rw [done] at asking
    cases asking
  · exact ⟨same ▸ asking,channel⟩

theorem Follows.unheld (follows : Follows before after) {id : RequestId}
    (unheld : before.waiter? id = none) : after.waiter? id = none := by
  cases held : after.waiter? id with
  | none => rfl
  | some channel =>
    rw [follows.fewer id channel held] at unheld
    cases unheld

theorem Askers.follow (askers : Askers before asks channelOf) (follows : Follows before after)
    (carries : ∀ thread, Carries asks later channelOf laterChannel thread) :
    Askers after later laterChannel where
  routed := follows.routed
  drawn thread id asking :=
    follows.issued id (askers.drawn thread id ((carries thread).asked asking).1)
  apart first second id one two :=
    askers.apart first second id ((carries first).asked one).1 ((carries second).asked two).1
  unregistered thread id asking free := by
    obtain ⟨old,same⟩ := (carries thread).asked asking
    exact follows.unheld (askers.unregistered thread id old (same ▸ free))
  registered thread id channel asking held := by
    obtain ⟨old,same⟩ := (carries thread).asked asking
    obtain ⟨inside,known⟩ := askers.registered thread id channel old (same ▸ held)
    refine ⟨follows.channels ▸ inside,fun opened => ?_⟩
    exact follows.kept id channel (known (follows.closed channel opened)) opened

theorem Askers.draw (askers : Askers before asks channelOf) (thread : κ) {id : RequestId}
    (drawn : before.nextRequestId = some (after,id)) (asking : later thread = some id)
    (free : laterChannel thread = none)
    (others : ∀ other, other ≠ thread → Carries asks later channelOf laterChannel other) :
    Askers after later laterChannel := by
  obtain ⟨follows,issued,new,unheld⟩ := nextRequestId_follows askers.routed drawn
  have different : ∀ other, other ≠ thread → later other ≠ some id := by
    intro other apart same
    exact new (askers.drawn other id ((others other apart).asked same).1)
  refine ⟨follows.routed,?_,?_,?_,?_⟩
  · intro other asked same
    by_cases here : other = thread
    · rw [here,asking] at same
      exact Option.some.inj same ▸ issued
    · exact follows.issued asked (askers.drawn other asked ((others other here).asked same).1)
  · intro first second asked one two
    by_cases here : first = thread <;> by_cases there : second = thread
    · exact here.trans there.symm
    · rw [here,asking] at one
      exact (different second there (two.trans one.symm)).elim
    · rw [there,asking] at two
      exact (different first here (one.trans two.symm)).elim
    · exact askers.apart first second asked ((others first here).asked one).1
        ((others second there).asked two).1
  · intro other asked same unregistered
    by_cases here : other = thread
    · rw [here,asking] at same
      exact Option.some.inj same ▸ unheld
    · obtain ⟨old,channel⟩ := (others other here).asked same
      exact follows.unheld (askers.unregistered other asked old (channel ▸ unregistered))
  · intro other asked channel same held
    by_cases here : other = thread
    · rw [here,free] at held
      cases held
    · obtain ⟨old,kept⟩ := (others other here).asked same
      obtain ⟨inside,known⟩ := askers.registered other asked channel old (kept ▸ held)
      refine ⟨follows.channels ▸ inside,fun opened => ?_⟩
      exact follows.kept asked channel (known (follows.closed channel opened)) opened

theorem Askers.register (askers : Askers before asks channelOf) {thread : κ} {id : RequestId}
    {channel : Nat} (registers : Registers before id after channel) (asked : asks thread = some id)
    (asking : later thread = some id) (held : laterChannel thread = some channel)
    (others : ∀ other, other ≠ thread → Carries asks later channelOf laterChannel other) :
    Askers after later laterChannel := by
  have different : ∀ other known, other ≠ thread → later other = some known → known ≠ id := by
    intro other known apart same here
    subst here
    exact apart (askers.apart other thread known ((others other apart).asked same).1 asked)
  refine ⟨registers.routed,?_,?_,?_,?_⟩
  · intro other known same
    by_cases here : other = thread
    · rw [here,asking] at same
      exact registers.issued known (Option.some.inj same ▸ askers.drawn thread id asked)
    · exact registers.issued known (askers.drawn other known ((others other here).asked same).1)
  · intro first second known one two
    by_cases here : first = thread <;> by_cases there : second = thread
    · exact here.trans there.symm
    · rw [here,asking] at one
      exact (different second known there two (Option.some.inj one).symm).elim
    · rw [there,asking] at two
      exact (different first known here one (Option.some.inj two).symm).elim
    · exact askers.apart first second known ((others first here).asked one).1
        ((others second there).asked two).1
  · intro other known same free
    by_cases here : other = thread
    · rw [here,held] at free
      cases free
    · obtain ⟨old,kept⟩ := (others other here).asked same
      rw [registers.found,if_neg (different other known here same)]
      exact askers.unregistered other known old (kept ▸ free)
  · intro other known at_ same holds
    by_cases here : other = thread
    · rw [here] at same holds
      rw [held] at holds
      rw [asking] at same
      cases holds
      cases same
      refine ⟨?_,fun _ => by rw [registers.found,if_pos rfl]⟩
      rw [registers.channels,registers.fresh]
      exact Nat.lt_succ_self _
    · obtain ⟨old,kept⟩ := (others other here).asked same
      obtain ⟨inside,known'⟩ := askers.registered other known at_ old (kept ▸ holds)
      refine ⟨by rw [registers.channels]; omega,fun opened => ?_⟩
      rw [registers.found,if_neg (different other known here same)]
      exact known' ((registers.opened at_ inside).mp opened)

end RequestBroker

end SmlMcps
