import SmlMcps.LoopOrder

/-! A malformed line, by reader. The main loop and the pump answer it and go on as they
were; the wait of a tool for the client's answer takes it for the end of the wait. -/
namespace SmlMcps

variable {C : Type}

/-! ## What a malformed line is answered with -/

/-- The id an object with a method gives, if it gives one that can be read. -/
def requestIdIn (fields : JsonMap) : Option RequestId := do
  let _ ← JsonMap.lookup "method" fields
  (RequestId.read (← JsonMap.lookup "id" fields)).toOption

/-- The id of the request a line was meant to be, where it can be read: `null` for a
line that is no request or names no id. -/
def WireFormat.readableId (format : WireFormat) (maxBytes : Nat) (line : ByteArray) :
    RequestId :=
  let fields? : Option JsonMap := do
    let text ← if max maxBytes 1 < line.size then none else String.fromUTF8? line
    let value ← if JsonRpcMessage.isBatch text then none else (format.fromStr text).toOption
    value.asObject
  (fields?.bind requestIdIn).getD .null

theorem requestIdIn_read {fields : JsonMap} {method id : Json}
    (named : JsonMap.lookup "method" fields = some method)
    (given : JsonMap.lookup "id" fields = some id) :
    requestIdIn fields = (RequestId.read id).toOption := by
  simp [requestIdIn,named,given]

theorem fromValue_malformed {value : Json} {e : McpError}
    (refused : JsonRpcMessage.fromValue value = .error e) :
    isMalformed e = true ∧ errorId e = (value.asObject.bind requestIdIn).getD .null := by
  unfold JsonRpcMessage.fromValue at refused
  split at refused
  · rename_i shape
    cases refused
    simp [isMalformed,errorId,shape]
  · rename_i fields shape
    rw [shape,Option.bind_some]
    split at refused
    · rename_i named given
      cases refused
      rw [requestIdIn_read named given]
      exact ⟨rfl,rfl⟩
    · rename_i _ named given
      rw [requestIdIn_read named given]
      split at refused
      · rename_i unread
        cases refused
        rw [unread]
        exact ⟨rfl,rfl⟩
      · rename_i read
        split at refused
        · cases refused
        · cases refused
          rw [read]
          exact ⟨rfl,rfl⟩
    · rename_i missing
      have none : requestIdIn fields = none := by simp [requestIdIn,missing]
      split at refused
      · cases refused
      · cases refused
        rw [none]
        exact ⟨rfl,rfl⟩
    · rename_i missing given
      have none : requestIdIn fields = none := by simp [requestIdIn,missing]
      split at refused
      · cases refused
      · cases refused
        rw [none]
        exact ⟨rfl,rfl⟩
    · rename_i missing given
      have none : requestIdIn fields = none := by simp [requestIdIn,missing]
      cases refused
      rw [none]
      exact ⟨rfl,rfl⟩

/-- Every line that is not a message is malformed, and answered under the id it named. -/
theorem readLine_malformed {format : WireFormat} {maxBytes : Nat} {line : ByteArray}
    {e : McpError} (refused : format.readLine maxBytes line = .error e) :
    isMalformed e = true ∧ errorId e = format.readableId maxBytes line := by
  unfold WireFormat.readLine at refused
  split at refused
  · rename_i long
    cases refused
    simp [isMalformed,errorId,WireFormat.readableId,long]
  · rename_i short
    split at refused
    · rename_i garbled
      cases refused
      simp [isMalformed,errorId,WireFormat.readableId,short,garbled]
    · rename_i text decoded
      unfold JsonRpcMessage.parse at refused
      split at refused
      · rename_i batch
        cases refused
        simp [isMalformed,errorId,WireFormat.readableId,short,decoded,batch]
      · rename_i single
        split at refused
        · rename_i unparsed
          cases refused
          simp [isMalformed,errorId,WireFormat.readableId,short,decoded,single,unparsed,
            Except.toOption]
        · rename_i value parsed
          have whole := fromValue_malformed refused
          simpa [WireFormat.readableId,short,decoded,single,parsed,Except.toOption] using whole

/-! ## What recovering means -/

/-- A wait goes back to look at what it waits for; the main loop stays where it is. -/
def LoopMode.again : LoopMode C → LoopMode C
  | .pumping request taskId _ => .pumping request taskId false
  | .asking request call question _ next => .asking request call question false next
  | other => other

def LoopMode.isAsking : LoopMode C → Bool
  | .asking _ _ _ _ _ => true
  | _ => false

/-- The answer is written, which announces the tasks started so far, and everything
else is left as it was. -/
structure Recovers (loop next : ServerLoop C) (answer : JsonRpcMessage) : Prop where
  server : next.server = loop.server
  context : next.context = loop.context
  shared : next.shared = { loop.shared with written := loop.shared.written ++ [answer] }
  workers : next.workers = loop.releaseTaskWorkers.workers
  mode : next.mode = loop.mode.again

namespace ServerLoop

theorem writeMessage_recovers {loop : ServerLoop C} (taking : loop.shared.writeFailure = none)
    (answer : JsonRpcMessage) :
    ∃ after, loop.writeMessage answer = (after,.ok ()) ∧
      Recovers loop (after.goto loop.mode.again) answer := by
  obtain ⟨after,sent,wrote,_⟩ := writeMessage_ok taking answer
  have same : after = (loop.writeMessage answer).1 := by rw [sent]
  refine ⟨after,sent,?_,?_,wrote,?_,rfl⟩
  · rw [same]
    rfl
  · rw [same]
    rfl
  · rw [same]
    rfl

theorem readMain_recovers {loop : ServerLoop C} (idle : loop.mode = .idle)
    (taking : loop.shared.writeFailure = none) {e : McpError} (malformed : isMalformed e = true)
    (freshId : String) :
    Recovers loop (loop.readMain (.error e) freshId) (malformedAnswer e) := by
  obtain ⟨after,sent,recovers⟩ := writeMessage_recovers taking (malformedAnswer e)
  rw [idle] at recovers
  have turn : loop.readMain (.error e) freshId = thenIdle (loop.writeMessage (malformedAnswer e)) := by
    cases e <;> first | rfl | cases malformed
  rw [turn,sent]
  exact recovers

theorem readPump_recovers {loop : ServerLoop C} {request : JsonRpcRequest} {taskId : String}
    (pumping : loop.mode = .pumping request taskId true)
    (taking : loop.shared.writeFailure = none) {e : McpError} (malformed : isMalformed e = true)
    (freshId : String) :
    Recovers loop (loop.readPump request taskId (.error e) freshId) (malformedAnswer e) := by
  obtain ⟨after,sent,recovers⟩ := writeMessage_recovers taking (malformedAnswer e)
  rw [pumping] at recovers
  have turn : loop.readPump request taskId (.error e) freshId =
      thenPump request taskId (loop.writeMessage (malformedAnswer e)) := by
    cases e <;> first | rfl | cases malformed
  rw [turn,sent]
  exact recovers

end ServerLoop

/-- Whatever the state and the line, its reader answers it under the id it named and
goes on as it was, exactly when that reader is not a tool waiting for its answer. -/
theorem malformed_line_recovers_iff (loop next : ServerLoop C) (format : WireFormat)
    (maxBytes : Nat) (line : ByteArray) (e : McpError) (freshId : String)
    (malformed : format.readLine maxBytes line = .error e)
    (taking : loop.shared.writeFailure = none)
    (taken : loop.step (.read (format.readLine maxBytes line) freshId) = some next) :
    Recovers loop next (.error (format.readableId maxBytes line) e.toJsonrpcError) ↔
      loop.mode.isAsking = false := by
  obtain ⟨unreadable,named⟩ := readLine_malformed malformed
  rw [malformed] at taken
  have answer : malformedAnswer e = .error (format.readableId maxBytes line) e.toJsonrpcError := by
    rw [← named]
    rfl
  rw [← answer]
  simp only [ServerLoop.step,ServerLoop.readStep] at taken
  split at taken
  · rename_i idle
    split at taken
    · cases taken
      rw [idle]
      exact ⟨fun _ => rfl,fun _ => ServerLoop.readMain_recovers idle taking unreadable freshId⟩
    · cases taken
  · rename_i pumping
    cases taken
    rw [pumping]
    exact ⟨fun _ => rfl,fun _ => ServerLoop.readPump_recovers pumping taking unreadable freshId⟩
  · rename_i asking
    cases taken
    rw [asking]
    refine ⟨fun recovers => ?_,fun other => by cases other⟩
    have ended := recovers.mode
    rw [asking] at ended
    cases ended
  · cases taken

/-! ### A line that is not JSON -/

/-- A parser that has only ever met garbage. -/
def garbageFormat : WireFormat :=
  ⟨fun _ => .error "expected value at line 1 column 1",fun _ => "invalid utf-8 sequence"⟩

def garbage : ByteArray := "garbage\n".toUTF8

theorem garbage_malformed :
    garbageFormat.readLine 8388608 garbage =
      .error (.json "expected value at line 1 column 1") := by
  decide +kernel

theorem step_garbage (loop : ServerLoop C) :
    loop.step (.read (garbageFormat.readLine 8388608 garbage) "") =
      loop.step (.read (.error (.json "expected value at line 1 column 1")) "") := by
  rw [garbage_malformed]

theorem garbage_between_messages :
    ∃ next : ServerLoop Unit,
      (ServerLoop.start askingServer () (.new .default) 0 0).step
        (.read (garbageFormat.readLine 8388608 garbage) "") = some next ∧
      (Recovers (ServerLoop.start askingServer () (.new .default) 0 0) next
          (.error (garbageFormat.readableId 8388608 garbage)
            (McpError.json "expected value at line 1 column 1").toJsonrpcError) ↔
        (ServerLoop.start askingServer () (.new .default) 0 0).mode.isAsking = false) := by
  have turn := step_garbage (ServerLoop.start askingServer () (.new .default) 0 0)
  exact ⟨_,turn,malformed_line_recovers_iff _ _ garbageFormat 8388608 garbage _ ""
    garbage_malformed rfl turn⟩

/-- The tool is told of a parse error that was not its client's answer, the line is not
answered, and the answer that comes later finds nobody. -/
theorem garbage_ends_wait :
    ∃ loop next : ServerLoop Unit,
      Runs.execute ServerLoop.step (ServerLoop.start askingServer () (.new .default) 0 0)
        [.read (.ok callAsk) "",.run .null,.look] = some loop ∧
      loop.step (.read (garbageFormat.readLine 8388608 garbage) "") = some next ∧
      next.shared.written = loop.shared.written ∧ next.mode.isAsking = false ∧
      ¬Recovers loop next (.error (garbageFormat.readableId 8388608 garbage)
        (McpError.json "expected value at line 1 column 1").toJsonrpcError) := by
  refine ⟨_,_,rfl,(step_garbage _).trans rfl,rfl,rfl,?_⟩
  intro recovers
  have ended := recovers.mode
  cases ended

end SmlMcps
