import Mathlib.Algebra.Order.Ring.Int
import Mathlib.Data.List.Basic

/-! The reading side of an HTTP/1.1 connection: a buffered socket with a read timeout, the
clock the deadlines are checked against, and the two loops that take bytes off it. The
peer's bytes, how they are cut into reads, the errors a read may meet, the passing of
time and the outcome of every write are data of the connection, so a statement about
every connection is one about all of them. Times are in nanoseconds. -/
namespace SmlMcps.Http1

inductive ErrorKind where
  | interrupted
  | timedOut
  | wouldBlock
  | other
  deriving DecidableEq, Repr

/-- The socket's own timeout is armed from what is left of a budget, so one firing means
the budget is spent. -/
def isTimeout : ErrorKind → Bool
  | .timedOut | .wouldBlock => true
  | _ => false

/-- What one `read` of the socket brings and when it is there. No bytes are a hangup. -/
structure Arrival where
  instant : Nat
  outcome : Except ErrorKind (List UInt8)

def Arrival.bytes (arrival : Arrival) : List UInt8 :=
  match arrival.outcome with
  | .ok bytes => bytes
  | .error _ => []

/-- The outcome of one `write_all` and flush: how long it took, and how many bytes had
gone out where it failed. -/
structure Delivery where
  took : Nat
  failedAfter : Option Nat
  deriving DecidableEq, Repr

/-- A buffered connection and the platform under it. `buffer` is what was read and not
consumed, `armed` and `writeArmed` the socket's timeouts, `lapses` the time that passes
before each reading of the clock, and `latest` the last instant the clock can express. -/
structure Wire where
  buffer : List UInt8
  arriving : List Arrival
  armed : Nat
  writeArmed : Nat
  now : Nat
  lapses : List Nat
  latest : Nat
  deliveries : List Delivery
  sent : List UInt8

namespace Wire

/-- Every byte the peer gets across that has not been consumed. -/
def stream (wire : Wire) : List UInt8 := wire.buffer ++ wire.arriving.flatMap Arrival.bytes

/-- What the loops that only wait and consume use up. -/
def weight (wire : Wire) : Nat :=
  wire.buffer.length + (wire.arriving.map fun arrival => arrival.bytes.length + 1).sum

/-- One `read` of the socket into the empty buffer. A read that outlasts its timeout
leaves what arrives later for the next one. -/
def receive (wire : Wire) : Except ErrorKind (List UInt8) × Wire :=
  match wire.arriving with
  | [] => (.ok [],wire)
  | arrival :: later =>
    if wire.now + wire.armed < arrival.instant then
      (.error .timedOut,{ wire with now := wire.now + wire.armed })
    else (arrival.outcome,{ wire with
      buffer := arrival.bytes, arriving := later, now := max wire.now arrival.instant })

/-- `BufReader::fill_buf`: what is buffered, or else what one read brings. -/
def fillBuf (wire : Wire) : Except ErrorKind (List UInt8) × Wire :=
  if wire.buffer = [] then wire.receive else (.ok wire.buffer,wire)

def consume (wire : Wire) (count : Nat) : Wire := { wire with buffer := wire.buffer.drop count }

/-- `Instant::now()`. -/
def instantNow (wire : Wire) : Nat × Wire :=
  match wire.lapses with
  | [] => (wire.now,wire)
  | lapse :: later => (wire.now + lapse,{ wire with now := wire.now + lapse, lapses := later })

end Wire

/-- The shortest deadline put on a socket: a zero one would block for ever. -/
def minTimeout : Nat := 1000000

/-- The longest a request's budget can be where the clock cannot express the configured one. -/
def maxBudget : Nat := 3600 * 1000000000

def Wire.armRead (wire : Wire) (timeout : Nat) : Wire :=
  { wire with armed := max timeout minTimeout }

def Wire.armWrite (wire : Wire) (timeout : Nat) : Wire :=
  { wire with writeArmed := max timeout minTimeout }

/-- `write_all` and `flush`, and whether they succeeded. -/
def Wire.writeAll (wire : Wire) (bytes : List UInt8) : Bool × Wire :=
  match wire.deliveries with
  | [] => (true,{ wire with sent := wire.sent ++ bytes })
  | delivery :: later =>
    (delivery.failedAfter.isNone,{ wire with
      deliveries := later, now := wire.now + delivery.took,
      sent := wire.sent ++ bytes.take (delivery.failedAfter.getD bytes.length) })

/-- The budget of one request. -/
structure Deadline where
  instant : Nat
  deriving DecidableEq, Repr

namespace Deadline

def startingNow (total : Nat) (wire : Wire) : Deadline × Wire :=
  let (now,wire) := wire.instantNow
  if now + total ≤ wire.latest then (⟨now + total⟩,wire)
  else if now + maxBudget ≤ wire.latest then (⟨now + maxBudget⟩,wire)
  else (⟨now⟩,wire)

def expired (deadline : Deadline) (wire : Wire) : Bool × Wire :=
  (decide (deadline.instant ≤ wire.instantNow.1),wire.instantNow.2)

/-- Put the socket on what is left. -/
def arm (deadline : Deadline) (wire : Wire) : Wire :=
  wire.instantNow.2.armRead (deadline.instant - wire.instantNow.1)

/-- How every pass of a body's loops starts: the deadline is checked between reads, the
socket is armed with what is left of it, and the buffer is filled. -/
def fill (deadline : Deadline) (wire : Wire) : Except ErrorKind (List UInt8) × Wire :=
  if (deadline.expired wire).1 then (.error .timedOut,(deadline.expired wire).2)
  else (deadline.arm (deadline.expired wire).2).fillBuf

end Deadline

/-! ## What waiting and consuming do to the stream -/

namespace Wire

variable {wire next : Wire} {bytes : List UInt8} {kind : ErrorKind}

@[simp] theorem instantNow_buffer (wire : Wire) : wire.instantNow.2.buffer = wire.buffer := by
  simp only [instantNow]
  split <;> rfl

@[simp] theorem instantNow_arriving (wire : Wire) :
    wire.instantNow.2.arriving = wire.arriving := by
  simp only [instantNow]
  split <;> rfl

@[simp] theorem armRead_buffer (wire : Wire) (timeout : Nat) :
    (wire.armRead timeout).buffer = wire.buffer := rfl

@[simp] theorem armRead_arriving (wire : Wire) (timeout : Nat) :
    (wire.armRead timeout).arriving = wire.arriving := rfl

@[simp] theorem armWrite_buffer (wire : Wire) (timeout : Nat) :
    (wire.armWrite timeout).buffer = wire.buffer := rfl

@[simp] theorem armWrite_arriving (wire : Wire) (timeout : Nat) :
    (wire.armWrite timeout).arriving = wire.arriving := rfl

@[simp] theorem writeAll_buffer (wire : Wire) (bytes : List UInt8) :
    (wire.writeAll bytes).2.buffer = wire.buffer := by
  simp only [writeAll]
  split <;> rfl

@[simp] theorem writeAll_arriving (wire : Wire) (bytes : List UInt8) :
    (wire.writeAll bytes).2.arriving = wire.arriving := by
  simp only [writeAll]
  split <;> rfl

/-- A step that leaves the buffer and the arrivals alone leaves the stream alone. -/
theorem stream_congr {left right : Wire} (buffer : left.buffer = right.buffer)
    (arriving : left.arriving = right.arriving) : left.stream = right.stream := by
  rw [stream,stream,buffer,arriving]

theorem weight_congr {left right : Wire} (buffer : left.buffer = right.buffer)
    (arriving : left.arriving = right.arriving) : left.weight = right.weight := by
  rw [weight,weight,buffer,arriving]

/-- A read into the empty buffer moves bytes and loses none. -/
theorem receive_stream (empty : wire.buffer = []) : wire.receive.2.stream = wire.stream := by
  cases pending : wire.arriving with
  | nil => simp [receive,pending]
  | cons arrival later =>
    by_cases late : wire.now + wire.armed < arrival.instant
    · simp [receive,pending,late,stream]
    · simp [receive,pending,late,stream,empty]

theorem receive_ok (empty : wire.buffer = []) (received : wire.receive = (.ok bytes,next)) :
    next.buffer = bytes := by
  cases pending : wire.arriving with
  | nil =>
    simp only [receive,pending,Prod.mk.injEq,Except.ok.injEq] at received
    obtain ⟨rfl,rfl⟩ := received
    exact empty
  | cons arrival later =>
    by_cases late : wire.now + wire.armed < arrival.instant
    · simp [receive,pending,late] at received
    · simp only [receive,pending,late,if_false,Prod.mk.injEq] at received
      obtain ⟨outcome,rfl⟩ := received
      simp only [Arrival.bytes,outcome]

/-- A read that is not cut short by its timeout has used up an arrival. -/
theorem receive_weight (empty : wire.buffer = []) : wire.receive.2.weight ≤ wire.weight ∧
    (wire.receive.1 = .error .interrupted → wire.receive.2.weight < wire.weight) := by
  cases pending : wire.arriving with
  | nil => simp [receive,pending]
  | cons arrival later =>
    by_cases late : wire.now + wire.armed < arrival.instant
    · simp [receive,pending,late,weight]
    · simp only [receive,pending,late,if_false,weight,empty,List.map_cons,List.sum_cons,
        List.length_nil]
      omega

theorem fillBuf_stream (wire : Wire) : wire.fillBuf.2.stream = wire.stream := by
  by_cases empty : wire.buffer = []
  · simp only [fillBuf,empty,if_true,receive_stream empty]
  · simp only [fillBuf,empty,if_false]

/-- What filling the buffer answers is what the buffer then holds. -/
theorem fillBuf_ok (filled : wire.fillBuf = (.ok bytes,next)) : next.buffer = bytes := by
  by_cases empty : wire.buffer = []
  · simp only [fillBuf,empty,if_true] at filled
    exact receive_ok empty filled
  · simp only [fillBuf,empty,if_false,Prod.mk.injEq,Except.ok.injEq] at filled
    obtain ⟨rfl,rfl⟩ := filled
    rfl

theorem fillBuf_weight (wire : Wire) : wire.fillBuf.2.weight ≤ wire.weight ∧
    (wire.fillBuf.1 = .error .interrupted → wire.fillBuf.2.weight < wire.weight) := by
  by_cases empty : wire.buffer = []
  · simp only [fillBuf,empty,if_true]
    exact receive_weight empty
  · simp [fillBuf,empty]

theorem fillBuf_interrupted (filled : wire.fillBuf = (.error .interrupted,next)) :
    next.weight < wire.weight := by
  have used := wire.fillBuf_weight.2
  rw [filled] at used
  exact used rfl

/-- Consuming buffered bytes takes exactly them off the front of the stream. -/
theorem consume_stream (wire : Wire) (count : Nat) :
    wire.stream = wire.buffer.take count ++ (wire.consume count).stream := by
  simp only [stream,consume,← List.append_assoc,List.take_append_drop]

theorem consume_weight (wire : Wire) (count : Nat) (buffered : count ≤ wire.buffer.length) :
    (wire.consume count).weight + count = wire.weight := by
  simp only [weight,consume,List.length_drop]
  omega

end Wire

namespace Deadline

variable {deadline : Deadline} {wire next : Wire} {bytes : List UInt8}

theorem startingNow_buffer (total : Nat) (wire : Wire) :
    (startingNow total wire).2.buffer = wire.buffer := by
  simp only [startingNow]
  split <;> [skip; split] <;> exact wire.instantNow_buffer

theorem startingNow_arriving (total : Nat) (wire : Wire) :
    (startingNow total wire).2.arriving = wire.arriving := by
  simp only [startingNow]
  split <;> [skip; split] <;> exact wire.instantNow_arriving

@[simp] theorem expired_buffer (deadline : Deadline) (wire : Wire) :
    (deadline.expired wire).2.buffer = wire.buffer := wire.instantNow_buffer

@[simp] theorem expired_arriving (deadline : Deadline) (wire : Wire) :
    (deadline.expired wire).2.arriving = wire.arriving := wire.instantNow_arriving

@[simp] theorem arm_buffer (deadline : Deadline) (wire : Wire) :
    (deadline.arm wire).buffer = wire.buffer := wire.instantNow_buffer

@[simp] theorem arm_arriving (deadline : Deadline) (wire : Wire) :
    (deadline.arm wire).arriving = wire.arriving := wire.instantNow_arriving

theorem fill_stream (deadline : Deadline) (wire : Wire) :
    (deadline.fill wire).2.stream = wire.stream := by
  by_cases spent : (deadline.expired wire).1
  · simp only [fill,spent,if_true]
    exact Wire.stream_congr (by simp) (by simp)
  · simp only [fill,spent,Bool.false_eq_true,if_false]
    exact (Wire.fillBuf_stream _).trans (Wire.stream_congr (by simp) (by simp))

theorem fill_ok (filled : deadline.fill wire = (.ok bytes,next)) : next.buffer = bytes := by
  by_cases spent : (deadline.expired wire).1
  · simp [fill,spent] at filled
  · simp only [fill,spent,Bool.false_eq_true,if_false] at filled
    exact Wire.fillBuf_ok filled

theorem fill_weight (deadline : Deadline) (wire : Wire) :
    (deadline.fill wire).2.weight ≤ wire.weight := by
  by_cases spent : (deadline.expired wire).1
  · simp only [fill,spent,if_true]
    exact Nat.le_of_eq (Wire.weight_congr (by simp) (by simp))
  · simp only [fill,spent,Bool.false_eq_true,if_false]
    have used := (deadline.arm (deadline.expired wire).2).fillBuf_weight.1
    have same : (deadline.arm (deadline.expired wire).2).weight = wire.weight :=
      Wire.weight_congr (by simp) (by simp)
    omega

theorem fill_interrupted (filled : deadline.fill wire = (.error .interrupted,next)) :
    next.weight < wire.weight := by
  by_cases spent : (deadline.expired wire).1
  · simp [fill,spent] at filled
  · simp only [fill,spent,Bool.false_eq_true,if_false] at filled
    have used := Wire.fillBuf_interrupted filled
    have same : (deadline.arm (deadline.expired wire).2).weight = wire.weight :=
      Wire.weight_congr (by simp) (by simp)
    omega

/-- A pass that consumes something of what it found makes progress. -/
theorem fill_consumed (filled : deadline.fill wire = (.ok bytes,next)) {count : Nat}
    (some : 0 < count) (buffered : count ≤ bytes.length) :
    (next.consume count).weight < wire.weight := by
  have whole : next.buffer = bytes := fill_ok filled
  have smaller := next.consume_weight count (by rw [whole]; exact buffered)
  have kept : next.weight ≤ wire.weight := by simpa [filled] using fill_weight deadline wire
  omega

/-- The bytes a pass consumes were the front of the stream. -/
theorem fill_front (filled : deadline.fill wire = (.ok bytes,next)) (count : Nat) :
    wire.stream = bytes.take count ++ (next.consume count).stream := by
  have whole : next.buffer = bytes := fill_ok filled
  have kept : next.stream = wire.stream := by simpa [filled] using fill_stream deadline wire
  rw [← kept,next.consume_stream count,whole]

end Deadline

/-! ## Text -/

/-- `String::from_utf8`. -/
def fromUtf8 (bytes : List UInt8) : Option String := String.fromUTF8? ⟨bytes.toArray⟩

/-- `str::as_bytes`. -/
def asBytes (text : String) : List UInt8 := text.toByteArray.data.toList

theorem fromUtf8_some {bytes : List UInt8} {text : String} (read : fromUtf8 bytes = some text) :
    asBytes text = bytes := by
  simp only [fromUtf8,String.fromUTF8?] at read
  split at read
  · cases read
    rfl
  · cases read

def cr : UInt8 := 13
def lf : UInt8 := 10
def crlf : List UInt8 := [cr,lf]

/-! ## Taking a body off the connection -/

/-- Why a body could not be handed over. -/
inductive BodyError where
  | tooLarge
  | malformed
  | incomplete
  | timedOut
  deriving DecidableEq, Repr

/-- Only a deadline gets a different word for the end of a connection. -/
def BodyError.ofKind (kind : ErrorKind) : BodyError :=
  if isTimeout kind then .timedOut else .incomplete

/-- Read exactly `outstanding` bytes onto the end of `into`. -/
def readExactly (outstanding : Nat) (into : List UInt8) (deadline : Deadline) (wire : Wire) :
    Except BodyError (List UInt8) × Wire :=
  if outstanding = 0 then (.ok into,wire)
  else match _ : deadline.fill wire with
    | (.error .interrupted,next) => readExactly outstanding into deadline next
    | (.error kind,next) => (.error (.ofKind kind),next)
    | (.ok available,next) =>
      if available = [] then (.error .incomplete,next)
      else
        let take := min available.length outstanding
        readExactly (outstanding - take) (into ++ available.take take) deadline
          (next.consume take)
termination_by wire.weight
decreasing_by
  · rename_i filled
    exact Deadline.fill_interrupted filled
  · rename_i filled present
    have some : 0 < available.length := List.length_pos_iff.mpr present
    exact Deadline.fill_consumed filled (by omega) (by omega)

/-- One line of chunked framing. `crlf` tells a line that ended in one from a bare LF. -/
inductive Line where
  | text (text : String) (crlf : Bool)
  | eof
  | tooLong
  | invalid
  deriving DecidableEq, Repr

/-- How much of what is available belongs to the line. -/
def lineTake (available : List UInt8) (budget : Nat) : Nat :=
  let room := min available.length budget
  match (available.take room).idxOf? lf with
  | some position => position + 1
  | none => room

theorem take_idxOf? {bytes : List UInt8} {mark : UInt8} {position : Nat}
    (found : bytes.idxOf? mark = some position) : position < bytes.length ∧
      bytes.take (position + 1) = bytes.take position ++ [mark] ∧
      mark ∉ bytes.take position := by
  obtain ⟨inside,here,first⟩ := List.idxOf?_eq_some_iff.mp found
  refine ⟨inside,?_,fun member => ?_⟩
  · rw [List.take_succ_eq_append_getElem inside,here]
  · obtain ⟨index,before,same⟩ := List.mem_take_iff_getElem.mp member
    exact first index (by omega) same

/-- A pass takes up to the first LF, or else all there is room for. -/
theorem lineTake_cases (available : List UInt8) (budget : Nat) :
    lineTake available budget ≤ min available.length budget ∧
    ((∃ front, available.take (lineTake available budget) = front ++ [lf] ∧ lf ∉ front) ∨
      (lineTake available budget = min available.length budget ∧
        lf ∉ available.take (lineTake available budget))) := by
  cases found : (available.take (min available.length budget)).idxOf? lf with
  | some position =>
    obtain ⟨inside,ends,first⟩ := take_idxOf? found
    simp only [List.length_take] at inside
    rw [List.take_take,List.take_take] at ends
    rw [List.take_take] at first
    simp only [lineTake,found]
    refine ⟨by omega,.inl ⟨available.take position,?_,?_⟩⟩
    · have short : min (position + 1) (min available.length budget) = position + 1 := by omega
      have shorter : min position (min available.length budget) = position := by omega
      rw [short,shorter] at ends
      exact ends
    · have shorter : min position (min available.length budget) = position := by omega
      rw [shorter] at first
      exact first
  | none =>
    simp only [lineTake,found]
    exact ⟨Nat.le_refl _,.inr ⟨trivial,List.idxOf?_eq_none_iff.mp found⟩⟩

theorem lineTake_positive {available : List UInt8} {budget : Nat} (present : available ≠ [])
    (room : 0 < budget) : 0 < lineTake available budget := by
  have some : 0 < available.length := List.length_pos_iff.mpr present
  obtain ⟨-,⟨front,ends,-⟩ | ⟨all,-⟩⟩ := lineTake_cases available budget
  · by_contra nothing
    have zero : lineTake available budget = 0 := by omega
    simp [zero] at ends
  · omega

/-- The bytes of one line, and whether its LF is among them. -/
def readLineBytes (budget : Nat) (raw : List UInt8) (deadline : Deadline) (wire : Wire) :
    Except ErrorKind (List UInt8 × Bool) × Wire :=
  match _ : deadline.fill wire with
  | (.error .interrupted,next) => readLineBytes budget raw deadline next
  | (.error kind,next) => (.error kind,next)
  | (.ok available,next) =>
    if available = [] then (.ok (raw,false),next)
    else
      let take := lineTake available budget
      let grown := raw ++ available.take take
      if grown.getLast? = some lf then (.ok (grown,true),next.consume take)
      else if budget - take = 0 then (.ok (grown,false),next.consume take)
      else readLineBytes (budget - take) grown deadline (next.consume take)
termination_by wire.weight
decreasing_by
  · rename_i filled
    exact Deadline.fill_interrupted filled
  · rename_i filled present _ room
    have bound := (lineTake_cases available budget).1
    exact Deadline.fill_consumed filled (lineTake_positive present (by omega)) (by omega)

/-- What the bytes taken for a line say. A line is framing, so it is text without control
characters. -/
def lineOf (raw : List UInt8) (terminated : Bool) : Line :=
  if raw = [] then .eof
  else if !terminated then .tooLong
  else
    let body := raw.dropLast
    let crlf := body.getLast? == some cr
    let body := if crlf then body.dropLast else body
    match fromUtf8 body with
    | some text =>
      if body.all fun b => b == 9 || (0x20 ≤ b && b < 0x7f) || 0x80 ≤ b then .text text crlf
      else .invalid
    | none => .invalid

def readLine (budget : Nat) (deadline : Deadline) (wire : Wire) :
    Except ErrorKind Line × Wire :=
  if budget = 0 then (.ok .tooLong,wire)
  else match readLineBytes budget [] deadline wire with
    | (.error kind,next) => (.error kind,next)
    | (.ok (raw,terminated),next) => (.ok (lineOf raw terminated),next)

/-! ## What they take -/

section
variable {deadline : Deadline} {wire next : Wire}

/-- Success has taken exactly that many bytes off the stream, onto the end of `into`. -/
theorem readExactly_ok {outstanding : Nat} {into bytes : List UInt8}
    (read : readExactly outstanding into deadline wire = (.ok bytes,next)) :
    ∃ taken, taken.length = outstanding ∧ bytes = into ++ taken ∧
      wire.stream = taken ++ next.stream := by
  fun_induction readExactly outstanding into deadline wire with
  | case1 into wire =>
    cases read
    exact ⟨[],rfl,by simp,rfl⟩
  | case2 outstanding into wire more middle filled again =>
    have kept : middle.stream = wire.stream := by simpa [filled] using deadline.fill_stream wire
    rw [← kept]
    exact again read
  | case3 => cases read
  | case4 => cases read
  | case5 outstanding into wire more available middle filled present take again =>
    obtain ⟨taken,length,rfl,rest⟩ := again read
    refine ⟨available.take take ++ taken,?_,by simp,?_⟩
    · simp only [List.length_append,List.length_take,length]
      omega
    · rw [Deadline.fill_front filled take,rest,List.append_assoc]

/-- A line that has just ended ends in its only LF; one that has not has none. -/
theorem grown_line {raw : List UInt8} (available : List UInt8) (budget : Nat)
    (unended : lf ∉ raw) :
    ((raw ++ available.take (lineTake available budget)).getLast? = some lf →
      ∃ front, raw ++ available.take (lineTake available budget) = front ++ [lf] ∧ lf ∉ front) ∧
    ((raw ++ available.take (lineTake available budget)).getLast? ≠ some lf →
      lf ∉ raw ++ available.take (lineTake available budget)) := by
  obtain ⟨-,⟨front,ends,first⟩ | ⟨-,absent⟩⟩ := lineTake_cases available budget
  · rw [ends]
    refine ⟨fun _ => ⟨raw ++ front,by simp,by simp [unended,first]⟩,fun open' => ?_⟩
    simp at open'
  · have none : lf ∉ raw ++ available.take (lineTake available budget) := by
      simp [unended,absent]
    exact ⟨fun last => absurd (List.mem_of_getLast? last) none,fun _ => none⟩

/-- The bytes of a line are the front of the stream, and its LF is the last of them. -/
theorem readLineBytes_ok {budget : Nat} {raw line : List UInt8} {ended : Bool}
    (read : readLineBytes budget raw deadline wire = (.ok (line,ended),next))
    (unended : lf ∉ raw) :
    ∃ taken, line = raw ++ taken ∧ wire.stream = taken ++ next.stream ∧
      (ended = true → ∃ front, line = front ++ [lf] ∧ lf ∉ front) := by
  fun_induction readLineBytes budget raw deadline wire with
  | case1 budget raw wire middle filled again =>
    have kept : middle.stream = wire.stream := by simpa [filled] using deadline.fill_stream wire
    rw [← kept]
    exact again read unended
  | case2 => cases read
  | case3 budget raw wire middle filled =>
    cases read
    have kept : next.stream = wire.stream := by simpa [filled] using deadline.fill_stream wire
    exact ⟨[],by simp,by simp [kept],by simp⟩
  | case4 budget raw wire available middle filled present take grown last =>
    simp only [Prod.mk.injEq,Except.ok.injEq] at read
    obtain ⟨⟨rfl,-⟩,rfl⟩ := read
    exact ⟨available.take take,rfl,Deadline.fill_front filled take,fun _ =>
      (grown_line available budget unended).1 last⟩
  | case5 budget raw wire available middle filled present take grown last full =>
    simp only [Prod.mk.injEq,Except.ok.injEq] at read
    obtain ⟨⟨rfl,rfl⟩,rfl⟩ := read
    exact ⟨available.take take,rfl,Deadline.fill_front filled take,by simp⟩
  | case6 budget raw wire available middle filled present take grown last room again =>
    obtain ⟨taken,rfl,rest,ends⟩ := again read ((grown_line available budget unended).2 last)
    refine ⟨available.take take ++ taken,by simp [grown],?_,ends⟩
    rw [Deadline.fill_front filled take,rest,List.append_assoc]

theorem lineOf_text {raw : List UInt8} {terminated : Bool} {text : String}
    (line : lineOf raw terminated = .text text true) :
    terminated = true ∧ raw.dropLast = asBytes text ++ [cr] ∧ cr ∉ asBytes text := by
  by_cases empty : raw = []
  · simp [lineOf,empty] at line
  by_cases open' : terminated = false
  · simp [lineOf,empty,open'] at line
  simp only [Bool.not_eq_false] at open'
  subst open'
  by_cases ends : raw.dropLast.getLast? = some cr
  · simp only [lineOf,empty,if_false,Bool.not_true,Bool.false_eq_true,ends,beq_self_eq_true,
      if_true] at line
    split at line
    · rename_i body valid
      have same : asBytes body = raw.dropLast.dropLast := fromUtf8_some valid
      split at line
      · rename_i permitted
        cases line
        rw [same]
        refine ⟨rfl,(List.dropLast_append_getLast? cr (by simpa using ends)).symm,fun member => ?_⟩
        have allowed := List.all_eq_true.mp permitted cr member
        simp [cr] at allowed
      · cases line
    · cases line
  · have bare : (raw.dropLast.getLast? == some cr) = false := by simpa using ends
    simp only [lineOf,empty,if_false,Bool.not_true,Bool.false_eq_true,bare] at line
    split at line
    · split at line <;> simp at line
    · cases line

/-- A line that ended in CRLF stood at the front of the stream, and has no other CR or
LF. -/
theorem readLine_text {budget : Nat} {text : String}
    (read : readLine budget deadline wire = (.ok (.text text true),next)) :
    wire.stream = asBytes text ++ crlf ++ next.stream ∧ cr ∉ asBytes text ∧
      lf ∉ asBytes text := by
  by_cases spent : budget = 0
  · simp [readLine,spent] at read
  simp only [readLine,spent,if_false] at read
  split at read
  · cases read
  · rename_i raw terminated middle bytes
    simp only [Prod.mk.injEq,Except.ok.injEq] at read
    obtain ⟨line,rfl⟩ := read
    obtain ⟨ended,body,plain⟩ := lineOf_text line
    obtain ⟨taken,rfl,rest,ends⟩ := readLineBytes_ok bytes (by simp)
    obtain ⟨front,whole,first⟩ := ends ended
    rw [whole,List.dropLast_concat] at body
    rw [rest,whole,body]
    refine ⟨by simp [crlf],plain,fun member => ?_⟩
    exact first (by simp [body,member])

end

end SmlMcps.Http1
