import SmlMcps.ServerLoop
import SmlMcps.Library.Runs

/-! The bridge: two pumps, one a direction, over two sinks that both may write on. A
pump forwards what it reads to the other side and answers what it cannot read, or what
the transform refuses, on its own side. A step is one pass of one pump's loop; the
environment chooses what is read and whether the write succeeds. -/
namespace SmlMcps

/-! ## The transform -/

/-- What came of running a transform over one message. -/
inductive Transformed where
  | accepted
  | refused (error : McpError)
  | panicked
  deriving DecidableEq

/-- A rewrite of what the client says. It edits the message in place, so that a message
is left behind whatever came of it, and may remember what it has seen. -/
structure ShimTransform (σ : Type) where
  run : σ → JsonRpcMessage → σ × JsonRpcMessage × Transformed

inductive Verdict where
  | forward
  | answer (message : JsonRpcMessage)
  | drop

/-- A panic is caught and counts as an internal error. -/
def Transformed.outcome : Transformed → Except McpError Unit
  | .accepted => .ok ()
  | .refused error => .error error
  | .panicked => .error (.internal "the shim's message transform panicked")

/-- The id an answer would go to, taken before the transform may rewrite it. -/
def JsonRpcMessage.requestId : JsonRpcMessage → Option RequestId
  | .request asked => some asked.id
  | .notification _ | .response _ => none

variable {σ : Type}

def ShimTransform.apply (transform : ShimTransform σ) (memory : σ) (message : JsonRpcMessage) :
    σ × JsonRpcMessage × Verdict :=
  let id := message.requestId
  let (after,left,transformed) := transform.run memory message
  match transformed.outcome, id with
  | .ok (), _ => (after,left,.forward)
  | .error error, some id => (after,left,.answer (.error id error.toJsonrpcError))
  | .error _, none => (after,left,.drop)

/-! ## The pump -/

/-- What one pass of the loop has decided when it comes to its write. -/
inductive PumpTurn where
  | forward (message : JsonRpcMessage)
  | answer (message : JsonRpcMessage)
  | skip
  | stop (result : Except McpError Unit)

def pump (transform : Option (ShimTransform σ)) (memory : σ)
    (read : Except McpError JsonRpcMessage) : σ × PumpTurn :=
  match read with
  | .ok message =>
    match transform with
    | none => (memory,.forward message)
    | some transform =>
      match transform.apply memory message with
      | (after,left,.forward) => (after,.forward left)
      | (after,_,.answer answer) => (after,.answer answer)
      | (after,_,.drop) => (after,.skip)
  | .error .transportClosed => (memory,.stop (.ok ()))
  | .error e =>
    if isMalformed e then (memory,.answer (malformedAnswer e)) else (memory,.stop (.error e))

/-! ## The two pumps -/

/-- `up` carries what the client says, `down` what the daemon says. -/
inductive Direction where
  | up
  | down
  deriving DecidableEq

def Direction.other : Direction → Direction
  | .up => .down
  | .down => .up

/-- Where a direction reads from ends, or gives a line, newline included, or fails. -/
inductive ReadEvent where
  | line (bytes : ByteArray)
  | closed
  | failed (error : McpError)

/-- The limits are those of the two readers. Only the client's messages are transformed. -/
structure BridgeSetup (σ : Type) where
  format : WireFormat
  transform : Option (ShimTransform σ)
  clientLimit : Nat
  upstreamLimit : Nat

/-- `toUpstream` and `toClient` are what the two sinks were given, each message with the
direction whose pump wrote it. A pump that is over has its result. -/
structure Bridge (σ : Type) where
  memory : σ
  toUpstream : List (Direction × JsonRpcMessage)
  toClient : List (Direction × JsonRpcMessage)
  upEnded : Option (Except McpError Unit)
  downEnded : Option (Except McpError Unit)

/-- `failure` is what the write of this pass fails with, if it makes one and it fails. -/
structure BridgeLabel where
  direction : Direction
  event : ReadEvent
  failure : Option McpError

namespace BridgeSetup

def transformOf (setup : BridgeSetup σ) : Direction → Option (ShimTransform σ)
  | .up => setup.transform
  | .down => none

def limit (setup : BridgeSetup σ) : Direction → Nat
  | .up => setup.clientLimit
  | .down => setup.upstreamLimit

def read (setup : BridgeSetup σ) (direction : Direction) (event : ReadEvent) :
    Except McpError JsonRpcMessage :=
  match event with
  | .line bytes => setup.format.readLine (setup.limit direction) bytes
  | .closed => .error .transportClosed
  | .failed error => .error error

end BridgeSetup

namespace Bridge

def start (memory : σ) : Bridge σ := ⟨memory,[],[],none,none⟩

def ended (bridge : Bridge σ) : Direction → Option (Except McpError Unit)
  | .up => bridge.upEnded
  | .down => bridge.downEnded

def remember (bridge : Bridge σ) (memory : σ) : Bridge σ := { bridge with memory := memory }

/-- A message put on the sink that direction `sink` forwards to. -/
def write (bridge : Bridge σ) (sink author : Direction) (message : JsonRpcMessage) : Bridge σ :=
  match sink with
  | .up => { bridge with toUpstream := bridge.toUpstream ++ [(author,message)] }
  | .down => { bridge with toClient := bridge.toClient ++ [(author,message)] }

def finish (bridge : Bridge σ) (direction : Direction) (result : Except McpError Unit) :
    Bridge σ :=
  match direction with
  | .up => { bridge with upEnded := some result }
  | .down => { bridge with downEnded := some result }

/-- The write of a pass. A forward that fails is the pump's error; an answer that fails
leaves nobody to tell. -/
def act (bridge : Bridge σ) (direction : Direction) (turn : PumpTurn)
    (failure : Option McpError) : Bridge σ :=
  match turn, failure with
  | .forward message, none => bridge.write direction direction message
  | .forward _, some e => bridge.finish direction (.error e)
  | .answer message, none => bridge.write direction.other direction message
  | .answer _, some _ => bridge.finish direction (.ok ())
  | .skip, _ => bridge
  | .stop result, _ => bridge.finish direction result

end Bridge

def BridgeSetup.step (setup : BridgeSetup σ) (bridge : Bridge σ) (label : BridgeLabel) :
    Option (Bridge σ) :=
  match bridge.ended label.direction with
  | some _ => none
  | none =>
    let (memory,turn) := pump (setup.transformOf label.direction) bridge.memory
      (setup.read label.direction label.event)
    some ((bridge.remember memory).act label.direction turn label.failure)

/-! ## What each pump has written -/

namespace Bridge

/-- The messages a direction forwarded, in order. -/
def sent (bridge : Bridge σ) (direction : Direction) : List JsonRpcMessage :=
  let sink := match direction with
    | .up => bridge.toUpstream
    | .down => bridge.toClient
  (sink.filter fun entry => entry.1 = direction).map Prod.snd

/-- The answers a direction wrote on the side it reads from, in order. -/
def answered (bridge : Bridge σ) (direction : Direction) : List JsonRpcMessage :=
  let sink := match direction with
    | .up => bridge.toClient
    | .down => bridge.toUpstream
  (sink.filter fun entry => entry.1 = direction).map Prod.snd

variable (bridge : Bridge σ) (direction : Direction) (message : JsonRpcMessage)

@[simp] theorem sent_remember (memory : σ) :
    (bridge.remember memory).sent direction = bridge.sent direction := rfl

@[simp] theorem answered_remember (memory : σ) :
    (bridge.remember memory).answered direction = bridge.answered direction := rfl

@[simp] theorem ended_remember (memory : σ) :
    (bridge.remember memory).ended direction = bridge.ended direction := rfl

@[simp] theorem sent_forward :
    (bridge.write direction direction message).sent direction =
      bridge.sent direction ++ [message] := by
  cases direction <;> simp [sent,write]

@[simp] theorem answered_forward :
    (bridge.write direction direction message).answered direction =
      bridge.answered direction := by
  cases direction <;> simp [answered,write]

@[simp] theorem sent_answer :
    (bridge.write direction.other direction message).sent direction = bridge.sent direction := by
  cases direction <;> simp [sent,write,Direction.other]

@[simp] theorem answered_answer :
    (bridge.write direction.other direction message).answered direction =
      bridge.answered direction ++ [message] := by
  cases direction <;> simp [answered,write,Direction.other]

@[simp] theorem ended_write (sink author : Direction) :
    (bridge.write sink author message).ended direction = bridge.ended direction := by
  cases sink <;> cases direction <;> rfl

@[simp] theorem sent_finish (closing : Direction) (result : Except McpError Unit) :
    (bridge.finish closing result).sent direction = bridge.sent direction := by
  cases closing <;> rfl

@[simp] theorem answered_finish (closing : Direction) (result : Except McpError Unit) :
    (bridge.finish closing result).answered direction = bridge.answered direction := by
  cases closing <;> rfl

@[simp] theorem ended_finish (result : Except McpError Unit) :
    (bridge.finish direction result).ended direction = some result := by
  cases direction <;> rfl

end Bridge

theorem Bridge.act_memory (bridge : Bridge σ) (direction : Direction) (turn : PumpTurn)
    (failure : Option McpError) : (bridge.act direction turn failure).memory = bridge.memory := by
  cases turn <;> cases failure <;> cases direction <;> rfl

/-- What one direction's pass leaves of the other direction. -/
structure Bridge.Apart (before after : Bridge σ) (direction : Direction) : Prop where
  sent : after.sent direction = before.sent direction
  answered : after.answered direction = before.answered direction
  ended : after.ended direction = before.ended direction

theorem Bridge.act_apart (bridge : Bridge σ) {direction reading : Direction}
    (different : reading ≠ direction) (turn : PumpTurn) (failure : Option McpError) :
    Bridge.Apart bridge (bridge.act reading turn failure) direction := by
  cases reading <;> cases direction <;> first
    | exact (different rfl).elim
    | (cases turn <;> cases failure <;>
        exact ⟨by simp [act,sent,write,finish,Direction.other],
          by simp [act,answered,write,finish,Direction.other],rfl⟩)

end SmlMcps
