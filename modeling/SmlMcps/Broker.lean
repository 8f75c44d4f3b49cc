import SmlMcps.Pagination
import SmlMcps.Library.KeyedTable

/-! The request broker: routing of responses to server-initiated requests, and the
queue of client messages owed to the main loop. Every operation is taken as atomic, also
where it takes several locks one after the other. A waiter on another thread is a channel of one slot; dropping its sender is
how the waiter learns that nothing will come. -/
namespace SmlMcps

def maxAbandoned : Nat := 64
def maxParked : Nat := 16
def maxDeferred : Nat := 256

/-- A channel of capacity one, by what its receiver can observe. -/
structure Channel where
  slot : Option JsonRpcResponse
  connected : Bool
  deriving DecidableEq

/-- `waiters` maps a request to the channel whose sender the broker holds; channels
are numbered and never reused. -/
structure RequestBroker where
  nextId : Nat
  parked : List JsonRpcResponse
  deferred : List JsonRpcMessage
  abandoned : List RequestId
  waiters : KeyedTable RequestId Nat
  channels : List Channel

namespace RequestBroker

def new : RequestBroker := ⟨0,[],[],[],∅,[]⟩

def issued (number : Nat) : RequestId := .string ("sml-" ++ toString number)

/-- `none` once the 64-bit counter is exhausted, which no run gets to. -/
def nextRequestId (broker : RequestBroker) : Option (RequestBroker × RequestId) :=
  if broker.nextId + 1 < 2^64 then
    some ({ broker with nextId := broker.nextId + 1 },issued broker.nextId)
  else none

def takeParked (broker : RequestBroker) (id : RequestId) :
    RequestBroker × Option JsonRpcResponse :=
  match broker.parked.find? fun response => response.id == id with
  | none => (broker,none)
  | some response =>
    ({ broker with parked := broker.parked.eraseP fun known => known.id == id },some response)

/-- Is `id` one this broker handed out? -/
def wasIssuedHere (broker : RequestBroker) (id : RequestId) : Bool :=
  match id with
  | .string text =>
    match text.toList with
    | 's' :: 'm' :: 'l' :: '-' :: rest =>
      match parseUnsigned rest with
      | some number => number < broker.nextId
      | none => false
    | _ => false
  | _ => false

def disconnect (channel : Nat) (channels : List Channel) : List Channel :=
  channels.modify channel fun known => { known with connected := false }

/-- The sender behind `id`, if any, is dropped. -/
def dropSender (broker : RequestBroker) (id : RequestId) : List Channel :=
  match AList.lookup id broker.waiters with
  | some channel => disconnect channel broker.channels
  | none => broker.channels

/-- Replacing a sender drops the one that was there. -/
def registerWaiter (broker : RequestBroker) (id : RequestId) : RequestBroker × Nat :=
  ({ broker with
      waiters := broker.waiters.insert id broker.channels.length
      channels := broker.dropSender id ++ [⟨none,true⟩] },broker.channels.length)

/-- Was `id` abandoned? It is forgotten if so. -/
def forgetAbandoned (broker : RequestBroker) (id : RequestId) : RequestBroker × Bool :=
  if id ∈ broker.abandoned then
    ({ broker with abandoned := broker.abandoned.erase id },true)
  else (broker,false)

/-- A newer answer to a parked id replaces the older in place; the oldest beyond the
bound is dropped. -/
def parkIn (parked : List JsonRpcResponse) (response : JsonRpcResponse) :
    List JsonRpcResponse :=
  match parked.findIdx? fun known => known.id == response.id with
  | some index => parked.set index response
  | none =>
    let longer := parked ++ [response]
    longer.drop (longer.length - maxParked)

def park (broker : RequestBroker) (response : JsonRpcResponse) : RequestBroker :=
  if !broker.wasIssuedHere response.id then broker
  else match broker.forgetAbandoned response.id with
    | (forgetting,true) => forgetting
    | (_,false) => { broker with parked := parkIn broker.parked response }

/-- Send into a channel whose sender is consumed: a full slot keeps what it has. -/
def send (channel : Nat) (response : JsonRpcResponse) (channels : List Channel) :
    List Channel :=
  channels.modify channel fun known =>
    ⟨some (known.slot.getD response),false⟩

def deliver (broker : RequestBroker) (response : JsonRpcResponse) : RequestBroker :=
  match AList.lookup response.id broker.waiters with
  | some channel =>
    { broker with
      waiters := broker.waiters.erase response.id
      channels := send channel response broker.channels }
  | none => broker.park response

def abandon (broker : RequestBroker) (id : RequestId) : RequestBroker :=
  let longer := broker.abandoned ++ [id]
  { broker with
    parked := broker.parked.filter fun response => response.id != id
    waiters := broker.waiters.erase id
    channels := broker.dropSender id
    abandoned := longer.drop (longer.length - maxAbandoned) }

def cancel (broker : RequestBroker) (id : RequestId) : RequestBroker × Bool :=
  if broker.wasIssuedHere id then (broker.abandon id,true) else (broker,false)

/-- The message comes back when there is no room. -/
def defer (broker : RequestBroker) (message : JsonRpcMessage) :
    RequestBroker × Option JsonRpcMessage :=
  if maxDeferred ≤ broker.deferred.length then (broker,some message)
  else ({ broker with deferred := broker.deferred ++ [message] },none)

def nextDeferred (broker : RequestBroker) : RequestBroker × Option JsonRpcMessage :=
  match broker.deferred with
  | [] => (broker,none)
  | message :: rest => ({ broker with deferred := rest },some message)

/-- A client's response as the result of the request, or the error it carried. -/
def intoResult (response : JsonRpcResponse) : Except McpError Json :=
  match response.error, response.result with
  | some error, _ => .error (.internal
      ("client returned error " ++ toString error.code ++ ": " ++ error.message))
  | none, some result => .ok result
  | none, none => .error (.invalidMessage "response has neither result nor error")

/-- What a receiver finds: a response, a dropped sender, or nothing yet. -/
inductive Received where
  | response (response : JsonRpcResponse)
  | disconnected
  | empty
  deriving DecidableEq

def receive (broker : RequestBroker) (channel : Nat) : Received :=
  match broker.channels[channel]? with
  | some ⟨some response,_⟩ => .response response
  | some ⟨none,true⟩ => .empty
  | _ => .disconnected

/-! ## Frame lemmas -/

@[simp] theorem deliver_deferred (broker : RequestBroker) (response : JsonRpcResponse) :
    (broker.deliver response).deferred = broker.deferred := by
  simp only [deliver,park,forgetAbandoned]
  split
  · rfl
  · split
    · rfl
    · split
      · rename_i forgetting found
        split at found
        · cases found
          rfl
        · cases found
      · rfl

@[simp] theorem abandon_deferred (broker : RequestBroker) (id : RequestId) :
    (broker.abandon id).deferred = broker.deferred := rfl

@[simp] theorem cancel_deferred (broker : RequestBroker) (id : RequestId) :
    (broker.cancel id).1.deferred = broker.deferred := by
  simp only [cancel]
  split <;> rfl

@[simp] theorem takeParked_deferred (broker : RequestBroker) (id : RequestId) :
    (broker.takeParked id).1.deferred = broker.deferred := by
  simp only [takeParked]
  split <;> rfl

theorem takeParked_found (broker : RequestBroker) (id : RequestId) :
    (broker.takeParked id).2 = broker.parked.find? fun response => response.id == id := by
  simp only [takeParked]
  split
  · rename_i absent
    exact absent.symm
  · rename_i present
    exact present.symm

@[simp] theorem registerWaiter_deferred (broker : RequestBroker) (id : RequestId) :
    (broker.registerWaiter id).1.deferred = broker.deferred := rfl

theorem nextRequestId_deferred {broker next : RequestBroker} {id : RequestId}
    (drawn : broker.nextRequestId = some (next,id)) : next.deferred = broker.deferred := by
  simp only [nextRequestId] at drawn
  split at drawn
  · cases drawn
    rfl
  · cases drawn

end RequestBroker

end SmlMcps
