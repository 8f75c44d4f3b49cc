import SmlMcps.Bridge
import SmlMcps.LoopMalformed

/-! What a pump writes is decided by what it hears. The messages a transform accepted
go on, in order, as it left them; what it refused or could not be read goes on in no
form, and is answered where an answer is due. -/
namespace SmlMcps

variable {σ : Type}

/-! ## What is heard -/

/-- One thing a pump took from its reader: what could not be read, or a message as it
was sent, as the transform left it, and what the transform said of it. -/
inductive Heard where
  | unreadable (error : McpError)
  | message (sent left : JsonRpcMessage) (transformed : Transformed)
  deriving DecidableEq

/-- Everything the reads bring, the transform's memory carried along. Without a
transform every message is accepted as it is. -/
def hear (transform : Option (ShimTransform σ)) :
    σ → List (Except McpError JsonRpcMessage) → List Heard
  | _, [] => []
  | memory, .error e :: rest => .unreadable e :: hear transform memory rest
  | memory, .ok sent :: rest =>
    match transform with
    | none => .message sent sent .accepted :: hear transform memory rest
    | some known =>
      let (after,left,transformed) := known.run memory sent
      .message sent left transformed :: hear transform after rest

/-- What may go on to the other side. -/
def Heard.accepted : Heard → Option JsonRpcMessage
  | .message _ left .accepted => some left
  | _ => none

/-- The answer the sender is owed: an error for what is no message, and one for a
refused request, under the id it was sent with. -/
def Heard.due : Heard → Option JsonRpcMessage
  | .unreadable e => if isMalformed e then some (malformedAnswer e) else none
  | .message (.request asked) _ (.refused e) => some (.error asked.id e.toJsonrpcError)
  | .message (.request asked) _ .panicked =>
    some (.error asked.id (.internalError "the shim's message transform panicked"))
  | _ => none

/-- What the reads of one direction were, of a run's labels. -/
def BridgeSetup.reads (setup : BridgeSetup σ) (direction : Direction)
    (labels : List BridgeLabel) : List (Except McpError JsonRpcMessage) :=
  (labels.filter fun label => label.direction = direction).map fun label =>
    setup.read direction label.event

def BridgeSetup.heard (setup : BridgeSetup σ) (direction : Direction) (memory : σ)
    (labels : List BridgeLabel) : List Heard :=
  hear (setup.transformOf direction) memory (setup.reads direction labels)

/-- Every write of the direction's pump goes through. -/
def WritesSucceed (direction : Direction) (labels : List BridgeLabel) : Prop :=
  ∀ label ∈ labels, label.direction = direction → label.failure = none

/-- The direction's reader gives lines and nothing else. -/
def OnlyLines (direction : Direction) (labels : List BridgeLabel) : Prop :=
  ∀ label ∈ labels, label.direction = direction → ∃ bytes, label.event = .line bytes

theorem hear_none (memory other : σ) (reads : List (Except McpError JsonRpcMessage)) :
    hear none memory reads = hear none other reads := by
  induction reads with
  | nil => rfl
  | cons read rest ih =>
    cases read with
    | error e => exact congrArg _ ih
    | ok sent => exact congrArg _ ih

/-! ## One pass -/

/-- What one pass hears, before its memory and the rest. -/
def hearOne (transform : Option (ShimTransform σ)) (memory : σ)
    (read : Except McpError JsonRpcMessage) : Heard :=
  match read, transform with
  | .error e, _ => .unreadable e
  | .ok sent, none => .message sent sent .accepted
  | .ok sent, some known => .message sent (known.run memory sent).2.1 (known.run memory sent).2.2

theorem hear_cons (transform : Option (ShimTransform σ)) (memory : σ)
    (read : Except McpError JsonRpcMessage) (rest : List (Except McpError JsonRpcMessage)) :
    hear transform memory (read :: rest) =
      hearOne transform memory read :: hear transform (pump transform memory read).1 rest := by
  cases read with
  | error e =>
    have kept : (pump transform memory (.error e)).1 = memory := by
      unfold pump
      split
      · rename_i absurd
        cases absurd
      · rfl
      · split <;> rfl
    rw [kept]
    rfl
  | ok sent =>
    cases transform with
    | none => rfl
    | some known =>
      simp only [hear,hearOne,pump,ShimTransform.apply]
      cases (known.run memory sent).2.2 <;> cases sent <;> rfl

/-- The turn of a pass, by what it heard. -/
inductive TurnOf (heard : Heard) : PumpTurn → Prop
  | forward {message : JsonRpcMessage} (accepted : heard.accepted = some message)
      (undue : heard.due = none) : TurnOf heard (.forward message)
  | answer {message : JsonRpcMessage} (refused : heard.accepted = none)
      (due : heard.due = some message) : TurnOf heard (.answer message)
  | skip (refused : heard.accepted = none) (undue : heard.due = none) : TurnOf heard .skip
  | stop (result : Except McpError Unit) {e : McpError} (unreadable : heard = .unreadable e)
      (ends : isMalformed e = false) : TurnOf heard (.stop result)

theorem pump_turn (transform : Option (ShimTransform σ)) (memory : σ)
    (read : Except McpError JsonRpcMessage) :
    TurnOf (hearOne transform memory read) (pump transform memory read).2 := by
  cases read with
  | error e =>
    by_cases malformed : isMalformed e = true
    · have turn : (pump transform memory (.error e)).2 = .answer (malformedAnswer e) := by
        cases e <;> first | rfl | cases malformed
      rw [turn]
      exact .answer rfl (if_pos malformed)
    · have ends : isMalformed e = false := by simpa using malformed
      cases e with
      | json | invalidMessage | invalidRequest => cases ends
      | _ => exact .stop _ rfl ends
  | ok sent =>
    cases transform with
    | none => exact .forward rfl (by cases sent <;> rfl)
    | some known =>
      rcases ran : known.run memory sent with ⟨after,left,transformed⟩
      simp only [hearOne,pump,ShimTransform.apply,ran]
      cases transformed with
      | accepted =>
        have undue : (Heard.message sent left .accepted).due = none := by cases sent <;> rfl
        exact .forward rfl undue
      | refused e => cases sent <;> constructor <;> rfl
      | panicked => cases sent <;> constructor <;> rfl

/-- The read was a message or at least a malformed one. -/
def Heard.readable : Heard → Bool
  | .unreadable e => isMalformed e
  | .message .. => true

/-- What a pass adds to what its direction has forwarded and answered: what is due to
what it heard, unless its one write fails, which adds nothing and ends the pump. -/
inductive Pass (before after : Bridge σ) (direction : Direction) (heard : Heard)
    (failure : Option McpError) : Prop
  | whole (sent : after.sent direction = before.sent direction ++ heard.accepted.toList)
      (answered : after.answered direction = before.answered direction ++ heard.due.toList)
      (goesOn : heard.readable = true → after.ended direction = before.ended direction)
  | broken (failed : failure ≠ none) (sent : after.sent direction = before.sent direction)
      (answered : after.answered direction = before.answered direction)
      (stopped : after.ended direction ≠ none)

theorem act_pass (bridge : Bridge σ) (direction : Direction) {heard : Heard} {turn : PumpTurn}
    (turned : TurnOf heard turn) (failure : Option McpError) :
    Pass bridge (bridge.act direction turn failure) direction heard failure := by
  cases turned with
  | forward accepted undue =>
    cases failure with
    | none =>
      refine .whole ?_ ?_ ?_
      · simp [Bridge.act,accepted]
      · simp [Bridge.act,undue]
      · simp [Bridge.act]
    | some e =>
      refine .broken (by simp) ?_ ?_ ?_
      · simp [Bridge.act]
      · simp [Bridge.act]
      · simp [Bridge.act]
  | answer refused due =>
    cases failure with
    | none =>
      refine .whole ?_ ?_ ?_
      · simp [Bridge.act,refused]
      · simp [Bridge.act,due]
      · simp [Bridge.act]
    | some e =>
      refine .broken (by simp) ?_ ?_ ?_
      · simp [Bridge.act]
      · simp [Bridge.act]
      · simp [Bridge.act]
  | skip refused undue =>
    refine .whole ?_ ?_ fun _ => rfl
    · simp [Bridge.act,refused]
    · simp [Bridge.act,undue]
  | stop result unreadable ends =>
    subst unreadable
    refine .whole ?_ ?_ ?_
    · simp [Bridge.act,Heard.accepted]
    · simp [Bridge.act,Heard.due,ends]
    · intro readable
      rw [Heard.readable,ends] at readable
      cases readable

theorem step_pass {setup : BridgeSetup σ} {bridge next : Bridge σ} {label : BridgeLabel}
    (taken : setup.step bridge label = some next) :
    bridge.ended label.direction = none ∧
      next.memory = (pump (setup.transformOf label.direction) bridge.memory
        (setup.read label.direction label.event)).1 ∧
      Pass bridge next label.direction (hearOne (setup.transformOf label.direction) bridge.memory
        (setup.read label.direction label.event)) label.failure ∧
      ∀ direction, label.direction ≠ direction → Bridge.Apart bridge next direction := by
  have turned := pump_turn (setup.transformOf label.direction) bridge.memory
    (setup.read label.direction label.event)
  simp only [BridgeSetup.step] at taken
  split at taken
  · cases taken
  · rename_i running
    rcases pumped : pump (setup.transformOf label.direction) bridge.memory
      (setup.read label.direction label.event) with ⟨memory,turn⟩
    simp only [pumped,Option.some.injEq] at taken turned
    subst taken
    refine ⟨running,Bridge.act_memory _ _ _ _,?_,?_⟩
    · cases act_pass (bridge.remember memory) label.direction turned label.failure with
      | whole sent answered goesOn => exact .whole sent answered goesOn
      | broken failed sent answered stopped => exact .broken failed sent answered stopped
    · intro direction different
      obtain ⟨sent,answered,ended⟩ :=
        Bridge.act_apart (bridge.remember memory) different turn label.failure
      exact ⟨sent,answered,ended⟩

/-! ## A whole run -/

variable {setup : BridgeSetup σ}

/-- A pump that is over reads nothing more. -/
theorem reads_nothing {bridge final : Bridge σ} {labels : List BridgeLabel} {direction : Direction}
    (run : Runs.execute setup.step bridge labels = some final)
    (stopped : bridge.ended direction ≠ none) :
    setup.reads direction labels = [] ∧ final.sent direction = bridge.sent direction ∧
      final.answered direction = bridge.answered direction := by
  induction labels generalizing bridge with
  | nil =>
    cases run
    exact ⟨rfl,rfl,rfl⟩
  | cons label rest ih =>
    rw [Runs.execute_cons,Option.bind_eq_some_iff] at run
    obtain ⟨next,taken,later⟩ := run
    obtain ⟨running,_,_,apart⟩ := step_pass taken
    have different : label.direction ≠ direction := by
      intro same
      exact stopped (same ▸ running)
    obtain ⟨sent,answered,ended⟩ := apart direction different
    obtain ⟨silent,kept,unanswered⟩ := ih later (ended ▸ stopped)
    refine ⟨?_,kept.trans sent,unanswered.trans answered⟩
    simpa [BridgeSetup.reads,different] using silent

/-- A list has grown by the front part of what was due, and by all of it on success. -/
def Grown (before after due : List JsonRpcMessage) (success : Prop) : Prop :=
  ∃ more, after = before ++ more ∧ more <+: due ∧ (success → more = due)

theorem Grown.step {before middle after front due : List JsonRpcMessage} {success later : Prop}
    (grown : Grown middle after due later) (stepped : middle = before ++ front)
    (onward : success → later) : Grown before after (front ++ due) success := by
  obtain ⟨more,whole,part,complete⟩ := grown
  refine ⟨front ++ more,?_,?_,?_⟩
  · rw [whole,stepped,List.append_assoc]
  · exact (List.prefix_append_right_inj front).mpr part
  · intro succeeded
    rw [complete (onward succeeded)]

theorem Grown.stuck {before after due : List JsonRpcMessage} {success : Prop}
    (same : after = before) (failed : ¬success) : Grown before after due success :=
  ⟨[],by rw [same,List.append_nil],List.nil_prefix,fun succeeded => (failed succeeded).elim⟩

theorem filterMap_head (f : Heard → Option JsonRpcMessage) (item : Heard) (rest : List Heard) :
    (item :: rest).filterMap f = (f item).toList ++ rest.filterMap f := by
  cases found : f item <;> simp [found]

/-- What a direction's pump has added to what it wrote, by what it heard. -/
structure Added (before after : Bridge σ) (direction : Direction) (heard : List Heard)
    (success : Prop) : Prop where
  sent : Grown (before.sent direction) (after.sent direction) (heard.filterMap Heard.accepted) success
  answered : Grown (before.answered direction) (after.answered direction)
    (heard.filterMap Heard.due) success
  goesOn : success → (∀ item ∈ heard, item.readable = true) →
    after.ended direction = before.ended direction

theorem heard_own {bridge next : Bridge σ} {label : BridgeLabel} {rest : List BridgeLabel}
    (memory : next.memory = (pump (setup.transformOf label.direction) bridge.memory
      (setup.read label.direction label.event)).1) :
    setup.heard label.direction bridge.memory (label :: rest) =
      hearOne (setup.transformOf label.direction) bridge.memory
        (setup.read label.direction label.event) ::
        setup.heard label.direction next.memory rest := by
  have reads : setup.reads label.direction (label :: rest) =
      setup.read label.direction label.event :: setup.reads label.direction rest := by
    simp [BridgeSetup.reads]
  rw [BridgeSetup.heard,reads,hear_cons,memory]
  rfl

theorem pump_none (memory : σ) (read : Except McpError JsonRpcMessage) :
    (pump none memory read).1 = memory := by
  cases read with
  | ok message => rfl
  | error e =>
    unfold pump
    split
    · rename_i same
      cases same
    · rfl
    · split <;> rfl

/-- Only the client's pump touches the transform's memory. -/
theorem heard_other {bridge next : Bridge σ} {label : BridgeLabel} {rest : List BridgeLabel}
    {direction : Direction} (different : label.direction ≠ direction)
    (memory : next.memory = (pump (setup.transformOf label.direction) bridge.memory
      (setup.read label.direction label.event)).1) :
    setup.heard direction bridge.memory (label :: rest) =
      setup.heard direction next.memory rest := by
  have reads : setup.reads direction (label :: rest) = setup.reads direction rest := by
    simp [BridgeSetup.reads,different]
  rw [BridgeSetup.heard,reads]
  cases direction with
  | up =>
    cases reading : label.direction with
    | up => exact (different reading).elim
    | down =>
      have kept : next.memory = bridge.memory := by
        rw [memory,reading]
        exact pump_none _ _
      rw [kept]
      rfl
  | down => exact hear_none _ _ _

theorem run_added {bridge final : Bridge σ} {labels : List BridgeLabel}
    (run : Runs.execute setup.step bridge labels = some final) (direction : Direction) :
    Added bridge final direction (setup.heard direction bridge.memory labels)
      (WritesSucceed direction labels) := by
  induction labels generalizing bridge with
  | nil =>
    cases run
    have same (list : List JsonRpcMessage) : Grown list list [] (WritesSucceed direction []) :=
      ⟨[],(List.append_nil _).symm,List.nil_prefix,fun _ => rfl⟩
    exact ⟨same _,same _,fun _ _ => rfl⟩
  | cons label rest ih =>
    rw [Runs.execute_cons,Option.bind_eq_some_iff] at run
    obtain ⟨next,taken,later⟩ := run
    obtain ⟨running,memory,pass,apart⟩ := step_pass taken
    have onward : WritesSucceed direction (label :: rest) → WritesSucceed direction rest :=
      fun succeed other member => succeed other (List.mem_cons_of_mem _ member)
    have added := ih later
    by_cases own : label.direction = direction
    · subst own
      rw [heard_own memory]
      cases pass with
      | whole sent answered goesOn =>
        refine ⟨?_,?_,?_⟩
        · rw [filterMap_head]
          exact added.sent.step sent onward
        · rw [filterMap_head]
          exact added.answered.step answered onward
        · intro succeed readable
          rw [added.goesOn (onward succeed) fun item member =>
            readable item (List.mem_cons_of_mem _ member)]
          exact goesOn (readable _ List.mem_cons_self)
      | broken failed sent answered stopped =>
        have failing : ¬WritesSucceed label.direction (label :: rest) := fun succeed =>
          failed (succeed label List.mem_cons_self rfl)
        obtain ⟨_,unsent,unanswered⟩ := reads_nothing later stopped
        exact ⟨.stuck (unsent.trans sent) failing,.stuck (unanswered.trans answered) failing,
          fun succeed => (failing succeed).elim⟩
    · obtain ⟨sent,answered,ended⟩ := apart direction own
      rw [heard_other own memory]
      have grown {before middle after due : List JsonRpcMessage} (same : middle = before)
          (grows : Grown middle after due (WritesSucceed direction rest)) :
          Grown before after due (WritesSucceed direction (label :: rest)) :=
        grows.step (same.trans (List.append_nil _).symm) onward
      exact ⟨grown sent added.sent,grown answered added.answered,fun succeed readable =>
        (added.goesOn (onward succeed) readable).trans ended⟩

/-! ## Failing closed -/

theorem readable_of_malformed {transform : Option (ShimTransform σ)} {memory : σ}
    {reads : List (Except McpError JsonRpcMessage)}
    (malformed : ∀ e, .error e ∈ reads → isMalformed e = true) :
    ∀ item ∈ hear transform memory reads, item.readable = true := by
  induction reads generalizing memory with
  | nil => exact fun item member => by cases member
  | cons read rest ih =>
    have later := fun e member => malformed e (List.mem_cons_of_mem read member)
    rw [hear_cons]
    intro item member
    rcases List.mem_cons.mp member with here | there
    · subst here
      cases read with
      | error e => exact malformed e List.mem_cons_self
      | ok sent => cases transform <;> rfl
    · exact ih later item there

/-- Every line is a message or malformed. -/
theorem readable_of_lines {labels : List BridgeLabel} {direction : Direction} {memory : σ}
    (lines : OnlyLines direction labels) :
    ∀ item ∈ setup.heard direction memory labels, item.readable = true := by
  refine readable_of_malformed ?_
  intro e member
  obtain ⟨label,kept,failed⟩ := List.mem_map.mp member
  obtain ⟨there,reading⟩ := List.mem_filter.mp kept
  obtain ⟨bytes,line⟩ := lines label there (of_decide_eq_true reading)
  rw [line] at failed
  exact (readLine_malformed failed).1

/-- The client's side of the bridge, once a run is over. What went to the daemon is made
of what the transform accepted, as it left it and in the order it was sent; every
refused request and every unreadable line is answered in order, each once, and nothing
else is. Only a failing write can cut the two lists short or, short of the client
hanging up, end the pump. -/
structure FailsClosed (setup : BridgeSetup σ) (memory : σ) (labels : List BridgeLabel)
    (final : Bridge σ) : Prop where
  forwarded : final.sent .up <+: (setup.heard .up memory labels).filterMap Heard.accepted
  answered : final.answered .up <+: (setup.heard .up memory labels).filterMap Heard.due
  whole : WritesSucceed .up labels →
    final.sent .up = (setup.heard .up memory labels).filterMap Heard.accepted ∧
      final.answered .up = (setup.heard .up memory labels).filterMap Heard.due
  goesOn : WritesSucceed .up labels → OnlyLines .up labels → final.ended .up = none

theorem transform_fails_closed (setup : BridgeSetup σ) (memory : σ) (labels : List BridgeLabel)
    (final : Bridge σ) (run : Runs.execute setup.step (.start memory) labels = some final) :
    FailsClosed setup memory labels final := by
  obtain ⟨⟨sent,allSent,sentPart,sentWhole⟩,⟨answers,allAnswered,answerPart,answerWhole⟩,goesOn⟩ :=
    run_added run .up
  have sentSame : final.sent .up = sent := allSent
  have answerSame : final.answered .up = answers := allAnswered
  refine ⟨sentSame ▸ sentPart,answerSame ▸ answerPart,?_,?_⟩
  · intro succeed
    exact ⟨sentSame.trans (sentWhole succeed),answerSame.trans (answerWhole succeed)⟩
  · intro succeed lines
    exact goesOn succeed (readable_of_lines lines)

/-! ### A transform that refuses what it has rewritten -/

def callLine : String := "\x7b\"id\":7,\"method\":\"tools/call\"\x7d\n"

/-- The parser knows one line. The transform renames every request and refuses it. -/
def refusingSetup : BridgeSetup Nat where
  format := ⟨fun text => if text = callLine then
      .ok (.obj [("id",.num (.int 7)),("method",.str "tools/call")])
    else .error "expected value at line 1 column 1",fun _ => "invalid utf-8"⟩
  transform := some ⟨fun count _ =>
    (count + 1,.notification ⟨"renamed",none⟩,.refused (.invalidParams "no working directory"))⟩
  clientLimit := 8 * 1024 * 1024
  upstreamLimit := 8 * 1024 * 1024

def refusedLines : List BridgeLabel :=
  [⟨.up,.line garbage,none⟩,⟨.up,.line callLine.toUTF8,none⟩]

theorem refused_call_fails_closed :
    FailsClosed refusingSetup 0 refusedLines ⟨1,[],
      [(.up,malformedAnswer (.json "expected value at line 1 column 1")),
        (.up,.error (.number 7) (.invalidParams "no working directory"))],none,none⟩ :=
  transform_fails_closed refusingSetup 0 refusedLines _ rfl

end SmlMcps
