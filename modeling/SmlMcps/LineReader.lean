import SmlMcps.LoopMalformed
import SmlMcps.Library.Marks

/-! Newline-delimited framing with an optional deadline. A reader keeps the bytes of a line
whose newline has not arrived, or the fact that there were too many of them, from one call
to the next. What each read of the source brings, what the clock shows each time it is
looked at, and whether the source takes a deadline are data of the source. -/
namespace SmlMcps

/-- `b'\n'`. -/
def newline : UInt8 := 10

/-! ## Sources -/

/-- The kinds of I/O error the reader tells apart. -/
inductive IoErrorKind where
  | wouldBlock
  | timedOut
  | interrupted
  | unexpectedEof
  | connectionReset
  | connectionAborted
  | brokenPipe
  | other
  deriving DecidableEq, Repr

structure IoError where
  kind : IoErrorKind
  text : String
  deriving DecidableEq, Repr

namespace IoError

/-- A read timeout surfaces as either on different platforms. -/
def isTimeout (e : IoError) : Bool := e.kind == .wouldBlock || e.kind == .timedOut

def isInterrupt (e : IoError) : Bool := e.kind == .interrupted

def isDisconnect (e : IoError) : Bool :=
  e.kind == .unexpectedEof || e.kind == .connectionReset || e.kind == .connectionAborted ||
    e.kind == .brokenPipe

end IoError

/-- A buffered source. `reads` are the outcomes of its reads, none of which is left at the
end of the stream; `lapses` is the time that passes before each look at the clock, and
`settings` the outcomes of applying a deadline. -/
structure LineSource where
  buffer : List UInt8
  reads : List (Except IoError (List UInt8))
  now : Nat
  lapses : List Nat
  settings : List (Except IoError Unit)

namespace LineSource

def brought : Except IoError (List UInt8) → List UInt8
  | .ok bytes => bytes
  | .error _ => []

/-- Every byte that has not been consumed. -/
def stream (source : LineSource) : List UInt8 := source.buffer ++ source.reads.flatMap brought

def weight (source : LineSource) : Nat :=
  source.buffer.length + (source.reads.map fun read => (brought read).length + 1).sum

/-- `BufReader::fill_buf`. -/
def fillBuf (source : LineSource) : Except IoError (List UInt8) × LineSource :=
  if source.buffer = [] then
    match source.reads with
    | [] => (.ok [],source)
    | read :: later => (read,{ source with buffer := brought read, reads := later })
  else (.ok source.buffer,source)

def consume (source : LineSource) (count : Nat) : LineSource :=
  { source with buffer := source.buffer.drop count }

/-- `Instant::now()`. -/
def instantNow (source : LineSource) : Nat × LineSource :=
  match source.lapses with
  | [] => (source.now,source)
  | lapse :: later =>
    (source.now + lapse,{ source with now := source.now + lapse, lapses := later })

def setDeadline (source : LineSource) : Except IoError Unit × LineSource :=
  match source.settings with
  | [] => (.ok (),source)
  | setting :: later => (setting,{ source with settings := later })

/-- Disturbances a reader survives: a read that brings something, or that a timeout or a
signal cut short. -/
def quiet : Except IoError (List UInt8) → Bool
  | .ok bytes => !bytes.isEmpty
  | .error e => e.isTimeout || e.isInterrupt

/-- Nothing but timeouts and signals comes between the reader and the end of the stream. -/
def Undisturbed (source : LineSource) : Prop :=
  (∀ read ∈ source.reads, quiet read = true) ∧ ∀ setting ∈ source.settings, setting = .ok ()

/-- How many reads still time out. -/
def timeouts (source : LineSource) : Nat :=
  source.reads.countP fun read => match read with
    | .ok _ => false
    | .error e => e.isTimeout

/-- What is left of a source at a later time. -/
structure Later (source next : LineSource) : Prop where
  reads : next.reads <:+ source.reads
  settings : next.settings <:+ source.settings

namespace Later

variable {source middle next : LineSource}

theorem refl (source : LineSource) : Later source source :=
  ⟨List.suffix_refl _,List.suffix_refl _⟩

theorem trans (first : Later source middle) (second : Later middle next) : Later source next :=
  ⟨second.reads.trans first.reads,second.settings.trans first.settings⟩

theorem undisturbed (later : Later source next) (calm : source.Undisturbed) : next.Undisturbed :=
  ⟨fun read member => calm.1 read (later.reads.subset member),
    fun setting member => calm.2 setting (later.settings.subset member)⟩

theorem timeouts (later : Later source next) : next.timeouts ≤ source.timeouts :=
  later.reads.sublist.countP_le

end Later

@[simp] theorem instantNow_buffer (source : LineSource) :
    source.instantNow.2.buffer = source.buffer := by
  simp only [instantNow]
  split <;> rfl

@[simp] theorem instantNow_reads (source : LineSource) :
    source.instantNow.2.reads = source.reads := by
  simp only [instantNow]
  split <;> rfl

@[simp] theorem instantNow_settings (source : LineSource) :
    source.instantNow.2.settings = source.settings := by
  simp only [instantNow]
  split <;> rfl

@[simp] theorem setDeadline_buffer (source : LineSource) :
    source.setDeadline.2.buffer = source.buffer := by
  simp only [setDeadline]
  split <;> rfl

@[simp] theorem setDeadline_reads (source : LineSource) :
    source.setDeadline.2.reads = source.reads := by
  simp only [setDeadline]
  split <;> rfl

end LineSource

theorem LineSource.setDeadline_later (source : LineSource) :
    LineSource.Later source source.setDeadline.2 := by
  cases pending : source.settings with
  | nil => simpa [setDeadline,pending] using Later.refl source
  | cons setting later =>
    simp only [setDeadline,pending]
    exact ⟨List.suffix_refl _,by rw [pending]; exact List.suffix_cons _ _⟩

/-! ## The reader -/

/-- What a reader needs of other crates, the rendering of a duration included. -/
structure LineFormat extends WireFormat where
  duration : Nat → String

structure LineReader where
  inner : LineSource
  /-- `partial`. -/
  unfinished : List UInt8
  maxBytes : Nat
  overflowed : Bool
  armed : Bool

/-- What one pass of `read_message` comes to. -/
inductive Turn where
  | again (reader : LineReader)
  | answer (result : Except McpError JsonRpcMessage) (reader : LineReader)

def Turn.reader : Turn → LineReader
  | .again reader | .answer _ reader => reader

namespace LineReader

/-- A zero ceiling would refuse every message. -/
def withLimit (source : LineSource) (maxBytes : Nat) : LineReader :=
  { inner := source, unfinished := [], maxBytes := max maxBytes 1, overflowed := false,
    armed := false }

def new (source : LineSource) : LineReader := withLimit source (8 * 1024 * 1024)

def setLimit (reader : LineReader) (maxBytes : Nat) : LineReader :=
  { reader with maxBytes := max maxBytes 1 }

/-- Push the deadline down to the source, if that changes anything. -/
def arm (deadline : Option Nat) (reader : LineReader) : Except McpError Unit × LineReader :=
  match deadline with
  | some _ =>
    match reader.inner.setDeadline with
    | (.error e,inner) => (.error (.io e.text),{ reader with inner })
    | (.ok (),inner) => (.ok (),{ reader with inner, armed := true })
  | none =>
    -- Failing to clear a deadline is survivable.
    if reader.armed then (.ok (),{ reader with inner := reader.inner.setDeadline.2, armed := false })
    else (.ok (),reader)

/-- Take what is available into the line: whether it ended, how much of what is available
was part of it, and the reader. -/
def accumulate (available : List UInt8) (reader : LineReader) : Bool × Nat × LineReader :=
  match available.idxOf? newline with
  | some index =>
    (true,index + 1,
      if reader.overflowed then reader
      else if reader.maxBytes < reader.unfinished.length + index + 1 then
        { reader with overflowed := true, unfinished := [] }
      else { reader with unfinished := reader.unfinished ++ available.take (index + 1) })
  | none =>
    (false,available.length,
      if reader.overflowed then reader
      else if reader.maxBytes < reader.unfinished.length + available.length then
        { reader with overflowed := true, unfinished := [] }
      else { reader with unfinished := reader.unfinished ++ available })

def consume (count : Nat) (reader : LineReader) : LineReader :=
  { reader with inner := reader.inner.consume count }

end LineReader

section
variable (format : LineFormat)

/-- What a line that fits says. -/
def LineFormat.decode (line : List UInt8) : Except McpError JsonRpcMessage :=
  match String.fromUTF8? ⟨line.toArray⟩ with
  | none => .error (.invalidMessage
      ("message is not UTF-8: " ++ format.utf8Problem ⟨line.toArray⟩))
  | some text => JsonRpcMessage.parse format.fromStr text

def LineFormat.timedOut (timeout : Option Nat) : McpError :=
  match timeout with
  | some t => .timeout ("no message within " ++ format.duration t)
  | none => .timeout "no message"

end

def exceeds (maxBytes : Nat) : McpError :=
  .invalidMessage ("message exceeds the " ++ toString maxBytes ++ " byte limit")

namespace LineReader

section
variable (format : LineFormat)

/-- The line has ended: it is refused or read, and the next one starts afresh. -/
def finishLine (reader : LineReader) : Except McpError JsonRpcMessage × LineReader :=
  if reader.overflowed then
    (.error (exceeds reader.maxBytes),{ reader with overflowed := false, unfinished := [] })
  else (format.decode reader.unfinished,{ reader with unfinished := [] })

/-- Look at the clock and arm the source. -/
def begin (timeout deadline : Option Nat) (reader : LineReader) :
    Except McpError Unit × LineReader :=
  match deadline with
  | some instant =>
    let (now,inner) := reader.inner.instantNow
    if instant ≤ now then (.error (format.timedOut timeout),{ reader with inner })
    else arm deadline { reader with inner }
  | none => arm deadline reader

/-- One pass of the loop of `read_message`. -/
def turn (timeout deadline : Option Nat) (reader : LineReader) : Turn :=
  match reader.begin format timeout deadline with
  | (.error e,reader) => .answer (.error e) reader
  | (.ok (),reader) =>
    match reader.inner.fillBuf with
    | (.error e,inner) =>
      let reader := { reader with inner }
      if e.isTimeout then .answer (.error (format.timedOut timeout)) reader
      else if e.isInterrupt then .again reader
      else if e.isDisconnect then .answer (.error .transportClosed) reader
      else .answer (.error (.io e.text)) reader
    | (.ok available,inner) =>
      if available = [] then .answer (.error .transportClosed) { reader with inner }
      else
        let (lineEnded,consumed,reader) := accumulate available { reader with inner }
        let reader := reader.consume consumed
        if lineEnded then .answer (reader.finishLine format).1 (reader.finishLine format).2
        else .again reader

end

/-! ## Passes -/

section
variable {format : LineFormat} {timeout deadline : Option Nat} {reader next : LineReader}

/-- Before it fills its buffer, a pass only touches the clock and the deadline. -/
structure Begun (reader next : LineReader) : Prop where
  buffer : next.inner.buffer = reader.inner.buffer
  reads : next.inner.reads = reader.inner.reads
  unfinished : next.unfinished = reader.unfinished
  maxBytes : next.maxBytes = reader.maxBytes
  overflowed : next.overflowed = reader.overflowed
  later : LineSource.Later reader.inner next.inner

theorem arm_begun (deadline : Option Nat) (reader : LineReader) :
    Begun reader (reader.arm deadline).2 := by
  have later := reader.inner.setDeadline_later
  cases deadline with
  | none =>
    by_cases armed : reader.armed
    · simp only [arm,armed,if_true]
      exact ⟨by simp,by simp,rfl,rfl,rfl,later⟩
    · simp only [arm,armed,Bool.false_eq_true,if_false]
      exact ⟨rfl,rfl,rfl,rfl,rfl,.refl _⟩
  | some instant =>
    have buffer := reader.inner.setDeadline_buffer
    have reads := reader.inner.setDeadline_reads
    rcases set : reader.inner.setDeadline with ⟨_ | _,inner⟩
    · rw [set] at buffer reads later
      simp only [arm,set]
      exact ⟨buffer,reads,rfl,rfl,rfl,later⟩
    · rw [set] at buffer reads later
      simp only [arm,set]
      exact ⟨buffer,reads,rfl,rfl,rfl,later⟩

theorem begin_begun (format : LineFormat) (timeout deadline : Option Nat) (reader : LineReader) :
    Begun reader (reader.begin format timeout deadline).2 := by
  cases deadline with
  | none => exact arm_begun none reader
  | some instant =>
    have armed := arm_begun (some instant) { reader with inner := reader.inner.instantNow.2 }
    have looked : LineSource.Later reader.inner reader.inner.instantNow.2 :=
      ⟨by simp,by simp⟩
    by_cases late : instant ≤ reader.inner.instantNow.1
    · simp only [begin,late,if_true]
      exact ⟨by simp,by simp,rfl,rfl,rfl,looked⟩
    · simp only [begin,late,if_false]
      exact ⟨armed.buffer.trans (by simp),armed.reads.trans (by simp),armed.unfinished,
        armed.maxBytes,armed.overflowed,looked.trans armed.later⟩

/-- A pass fails before it reads at its deadline, or when the source will take none. -/
theorem begin_error {e : McpError} (failed : reader.begin format timeout deadline = (.error e,next)) :
    deadline ≠ none ∧ (e = format.timedOut timeout ∨
      ∃ text, e = .io text ∧ ¬reader.inner.Undisturbed) := by
  cases deadline with
  | none =>
    by_cases armed : reader.armed
    · simp [begin,arm,armed] at failed
    · simp [begin,arm,armed] at failed
  | some instant =>
    refine ⟨by simp,?_⟩
    by_cases late : instant ≤ reader.inner.instantNow.1
    · simp only [begin,late,if_true,Prod.mk.injEq,Except.error.injEq] at failed
      exact .inl failed.1.symm
    · simp only [begin,late,if_false,arm] at failed
      rcases pending : reader.inner.settings with _ | ⟨_ | _,others⟩
      · simp [LineSource.setDeadline,pending] at failed
      · simp only [LineSource.setDeadline,LineSource.instantNow_settings,pending,Prod.mk.injEq,
          Except.error.injEq] at failed
        refine .inr ⟨_,failed.1.symm,fun calm => ?_⟩
        have refused := calm.2 _ (by rw [pending]; exact List.mem_cons_self)
        cases refused
      · simp [LineSource.setDeadline,pending] at failed

theorem Begun.stream (begun : Begun reader next) : next.inner.stream = reader.inner.stream := by
  rw [LineSource.stream,LineSource.stream,begun.buffer,begun.reads]

theorem Begun.weight (begun : Begun reader next) : next.inner.weight = reader.inner.weight := by
  rw [LineSource.weight,LineSource.weight,begun.buffer,begun.reads]

end

end LineReader

namespace LineSource

variable {source next : LineSource} {bytes : List UInt8}

theorem fillBuf_ok (filled : source.fillBuf = (.ok bytes,next)) : next.buffer = bytes := by
  by_cases empty : source.buffer = []
  · cases pending : source.reads with
    | nil =>
      simp only [fillBuf,empty,pending,if_true,Prod.mk.injEq,Except.ok.injEq] at filled
      obtain ⟨rfl,rfl⟩ := filled
      exact empty
    | cons read later =>
      simp only [fillBuf,empty,pending,if_true,Prod.mk.injEq] at filled
      obtain ⟨rfl,rfl⟩ := filled
      rfl
  · simp only [fillBuf,empty,if_false,Prod.mk.injEq,Except.ok.injEq] at filled
    obtain ⟨rfl,rfl⟩ := filled
    rfl

theorem fillBuf_stream (source : LineSource) : source.fillBuf.2.stream = source.stream := by
  by_cases empty : source.buffer = []
  · cases pending : source.reads with
    | nil => simp [fillBuf,empty,pending]
    | cons read later => simp [fillBuf,stream,empty,pending]
  · simp [fillBuf,empty]

theorem fillBuf_weight (source : LineSource) : source.fillBuf.2.weight ≤ source.weight ∧
    ∀ e next, source.fillBuf = (.error e,next) → next.weight < source.weight := by
  by_cases empty : source.buffer = []
  · cases pending : source.reads with
    | nil => simp [fillBuf,empty,pending]
    | cons read later =>
      simp only [fillBuf,empty,pending,if_true,weight,List.map_cons,List.sum_cons,List.length_nil,
        Prod.mk.injEq]
      refine ⟨by omega,?_⟩
      rintro e next ⟨-,rfl⟩
      simp only
      omega
  · simp [fillBuf,empty]

theorem fillBuf_later (source : LineSource) : Later source source.fillBuf.2 := by
  by_cases empty : source.buffer = []
  · cases pending : source.reads with
    | nil => simpa [fillBuf,empty,pending] using Later.refl source
    | cons read later =>
      simp only [fillBuf,empty,pending,if_true]
      exact ⟨by rw [pending]; exact List.suffix_cons _ _,List.suffix_refl _⟩
  · simpa [fillBuf,empty] using Later.refl source

/-- A read that fails was one of those to come. -/
theorem fillBuf_error {e : IoError} (filled : source.fillBuf = (.error e,next)) :
    source.reads = .error e :: next.reads := by
  by_cases empty : source.buffer = []
  · cases pending : source.reads with
    | nil => simp [fillBuf,empty,pending] at filled
    | cons read later =>
      simp only [fillBuf,empty,pending,if_true,Prod.mk.injEq] at filled
      obtain ⟨rfl,rfl⟩ := filled
      rfl
  · simp [fillBuf,empty] at filled

/-- Undisturbed, only the end of the stream brings nothing. -/
theorem fillBuf_empty (filled : source.fillBuf = (.ok [],next)) (calm : source.Undisturbed) :
    next.stream = [] := by
  by_cases empty : source.buffer = []
  · cases pending : source.reads with
    | nil =>
      simp only [fillBuf,empty,pending,if_true,Prod.mk.injEq] at filled
      rw [← filled.2]
      simp [stream,empty,pending]
    | cons read later =>
      simp only [fillBuf,empty,pending,if_true,Prod.mk.injEq] at filled
      have brings := calm.1 read (by simp [pending])
      rw [filled.1] at brings
      cases brings
  · simp [fillBuf,empty] at filled

theorem consume_stream (source : LineSource) (count : Nat) :
    source.stream = source.buffer.take count ++ (source.consume count).stream := by
  simp only [stream,consume,← List.append_assoc,List.take_append_drop]

theorem fill_front (filled : source.fillBuf = (.ok bytes,next)) (count : Nat) :
    source.stream = bytes.take count ++ (next.consume count).stream := by
  have kept := source.fillBuf_stream
  rw [filled] at kept
  rw [← kept,next.consume_stream count,fillBuf_ok filled]

theorem fill_consumed (filled : source.fillBuf = (.ok bytes,next)) {count : Nat}
    (some : 0 < count) (buffered : count ≤ bytes.length) :
    (next.consume count).weight < source.weight := by
  have whole : next.buffer = bytes := fillBuf_ok filled
  have kept := source.fillBuf_weight.1
  rw [filled] at kept
  simp only [weight,consume,List.length_drop,whole] at kept ⊢
  omega

end LineSource

namespace LineReader

@[simp] theorem accumulate_inner (available : List UInt8) (reader : LineReader) :
    (accumulate available reader).2.2.inner = reader.inner := by
  simp only [accumulate]
  split <;> grind

@[simp] theorem accumulate_maxBytes (available : List UInt8) (reader : LineReader) :
    (accumulate available reader).2.2.maxBytes = reader.maxBytes := by
  simp only [accumulate]
  split <;> grind

/-- A pass takes up to the first newline, or else all that is available. -/
theorem accumulate_cases (available : List UInt8) (reader : LineReader) :
    (newline ∉ available ∧ (accumulate available reader).1 = false ∧
      (accumulate available reader).2.1 = available.length) ∨
    ∃ front rest, available = front ++ newline :: rest ∧ newline ∉ front ∧
      (accumulate available reader).1 = true ∧
      (accumulate available reader).2.1 = front.length + 1 := by
  cases found : available.idxOf? newline with
  | none => exact .inl ⟨List.idxOf?_eq_none_iff.mp found,by simp [accumulate,found]⟩
  | some index =>
    obtain ⟨front,rest,whole,absent,rfl⟩ := Marks.cut found
    exact .inr ⟨front,rest,whole,absent,by simp [accumulate,found],by simp [accumulate,found]⟩

/-- A pass that goes on has used up a read or consumed something. -/
theorem turn_again {format : LineFormat} {timeout deadline : Option Nat}
    {reader next : LineReader} (goes : reader.turn format timeout deadline = .again next) :
    next.inner.weight < reader.inner.weight := by
  have begun := begin_begun format timeout deadline reader
  rcases started : reader.begin format timeout deadline with ⟨_ | _,ready⟩
  · simp [turn,started] at goes
  rw [started] at begun
  rw [← begun.weight]
  rcases filled : ready.inner.fillBuf with ⟨e | available,inner⟩
  · simp only [turn,started,filled] at goes
    have used := ready.inner.fillBuf_weight.2 e inner filled
    by_cases late : e.isTimeout
    · simp [late] at goes
    by_cases signal : e.isInterrupt
    · simp only [late,signal,if_true,Bool.false_eq_true,if_false,Turn.again.injEq] at goes
      rw [← goes]
      exact used
    by_cases gone : e.isDisconnect
    · simp [late,signal,gone] at goes
    · simp [late,signal,gone] at goes
  · by_cases nothing : available = []
    · simp [turn,started,filled,nothing] at goes
    have some := List.length_pos_iff.mpr nothing
    simp only [turn,started,filled,nothing,if_false] at goes
    obtain ⟨-,ended,count⟩ | ⟨front,rest,-,-,ended,-⟩ :=
      accumulate_cases available { ready with inner }
    · simp only [ended,Bool.false_eq_true,if_false,Turn.again.injEq] at goes
      rw [← goes]
      simp only [LineReader.consume,accumulate_inner,count]
      exact LineSource.fill_consumed filled some (Nat.le_refl _)
    · simp [ended] at goes

/-- The loop of `read_message`, under its deadline. -/
def passes (format : LineFormat) (timeout deadline : Option Nat) (reader : LineReader) :
    Except McpError JsonRpcMessage × LineReader :=
  match _ : reader.turn format timeout deadline with
  | .answer result next => (result,next)
  | .again next => passes format timeout deadline next
termination_by reader.inner.weight
decreasing_by
  rename_i goes
  exact turn_again goes

/-- Read one message, waiting no longer than `timeout` in total. -/
def readMessage (format : LineFormat) (timeout : Option Nat) (reader : LineReader) :
    Except McpError JsonRpcMessage × LineReader :=
  match timeout with
  | some t =>
    let (now,inner) := reader.inner.instantNow
    passes format timeout (some (now + t)) { reader with inner }
  | none => passes format timeout none reader

end LineReader

end SmlMcps
