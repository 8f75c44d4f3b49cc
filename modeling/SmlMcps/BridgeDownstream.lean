import SmlMcps.BridgeTransform
import SmlMcps.JsonRpcCodec

/-! What the client gets of what the daemon says. Every message of the daemon is read
into the crate's types and written out again: it arrives as it was when it fits the
reader's limit, when the parser reads the printed line back as it was, and when it has no
optional member that is `null`. -/
namespace SmlMcps

variable {σ : Type} {setup : BridgeSetup σ}

/-! ## The daemon's lines -/

namespace JsonText

/-- The bytes a transport writes for a message. -/
def line (text : JsonText) (message : JsonRpcMessage) : ByteArray :=
  (text.serialize message ++ "\n").toUTF8

/-- As `Faithful`, for the text of a whole line. -/
structure FaithfulLine (text : JsonText) (fields : JsonMap) : Prop where
  lossless : text.fromStr (text.print (.obj fields) ++ "\n") = .ok (.obj fields)
  opening : (text.print (.obj fields)).toList.head? = some '\x7b'

/-- A line that fits is what the parser makes of the printed text. -/
theorem readLine_printed {text : JsonText} {format : WireFormat} {message : JsonRpcMessage}
    (limit : Nat) (same : format.fromStr = text.fromStr)
    (fits : (text.line message).size ≤ max limit 1) :
    format.readLine limit (text.line message) =
      JsonRpcMessage.parse text.fromStr (text.serialize message ++ "\n") := by
  have short : ¬max limit 1 < (text.line message).size := Nat.not_lt.mpr fits
  have decoded : String.fromUTF8? (text.line message) = some (text.serialize message ++ "\n") :=
    dif_pos (text.serialize message ++ "\n").isValidUTF8
  simp only [WireFormat.readLine,short,if_false,decoded,same]

theorem parse_printed {text : JsonText} {message : JsonRpcMessage}
    (opening : (text.serialize message).toList.head? = some '\x7b') :
    JsonRpcMessage.parse text.fromStr (text.serialize message ++ "\n") =
      (text.fromStr (text.serialize message ++ "\n")).mapError McpError.json >>=
        JsonRpcMessage.fromValue := by
  have single : JsonRpcMessage.isBatch (text.serialize message ++ "\n") = false := by
    apply isBatch_object
    rw [String.toList_append,List.head?_append,opening]
    rfl
  simp only [JsonRpcMessage.parse,single]
  cases text.fromStr (text.serialize message ++ "\n") <;> rfl

theorem readLine_line {text : JsonText} {format : WireFormat} {message : JsonRpcMessage}
    (limit : Nat) (same : format.fromStr = text.fromStr) (built : message.Built)
    (faithful : text.FaithfulLine message.toFields)
    (fits : (text.line message).size ≤ max limit 1) :
    format.readLine limit (text.line message) = .ok message.settled := by
  have parsed : text.fromStr (text.serialize message ++ "\n") = .ok message.toJson :=
    faithful.lossless
  rw [readLine_printed limit same fits,parse_printed faithful.opening,parsed]
  exact JsonRpcMessage.fromValue_toJson built

theorem readLine_long {text : JsonText} {format : WireFormat} {message : JsonRpcMessage}
    {limit : Nat} (long : max limit 1 < (text.line message).size) :
    format.readLine limit (text.line message) = .error (.invalidMessage
      ("message exceeds the " ++ toString (max limit 1) ++ " byte limit")) := if_pos long

end JsonText

/-! ## The daemon's side of a run -/

/-- What the daemon writes in a run: its messages, a line each, and then perhaps the end
of the stream. -/
def DaemonWrites (text : JsonText) (labels : List BridgeLabel)
    (messages : List JsonRpcMessage) : Prop :=
  ∃ hangsUp : Bool, (labels.filter fun label => label.direction = .down).map BridgeLabel.event =
    messages.map (fun message => .line (text.line message)) ++ if hangsUp then [.closed] else []

/-- The printer and the parser are the ones the readers use, and the messages are all of a
kind the daemon can build. A message is printed as an object. What the parser makes of the
line, when it takes it at all, may have other floating point numbers and is otherwise what
was printed. -/
structure Speaks (setup : BridgeSetup σ) (text : JsonText) (messages : List JsonRpcMessage) :
    Prop where
  same : setup.format.fromStr = text.fromStr
  built : ∀ message ∈ messages, message.Built
  opening : ∀ message ∈ messages, (text.serialize message).toList.head? = some '\x7b'
  skeleton : ∀ message ∈ messages, ∀ value,
    text.fromStr (text.serialize message ++ "\n") = .ok value →
      value.skeleton = message.toJson.skeleton

def fits (setup : BridgeSetup σ) (text : JsonText) (message : JsonRpcMessage) : Bool :=
  (text.line message).size ≤ max setup.upstreamLimit 1

/-- The parser gives the value back that was printed on the line. -/
def linesBack (text : JsonText) (message : JsonRpcMessage) : Bool :=
  text.fromStr (text.serialize message ++ "\n") = .ok message.toJson

/-- How a daemon's message is read. -/
def readBack (setup : BridgeSetup σ) (text : JsonText) (message : JsonRpcMessage) :
    Except McpError JsonRpcMessage := setup.read .down (.line (text.line message))

theorem readBack_malformed {text : JsonText} {message : JsonRpcMessage} {e : McpError}
    (refused : readBack setup text message = .error e) : isMalformed e = true :=
  (readLine_malformed refused).1

/-- What a line is read as, if it is: some message without its null members, which the
parser saw on the line. -/
theorem readBack_ok {text : JsonText} {messages : List JsonRpcMessage}
    (speaks : Speaks setup text messages) {message read : JsonRpcMessage}
    (member : message ∈ messages) (taken : readBack setup text message = .ok read) :
    ∃ other : JsonRpcMessage, fits setup text message = true ∧
      text.fromStr (text.serialize message ++ "\n") = .ok other.toJson ∧
      other.nullFree = message.nullFree ∧ read = other.settled := by
  by_cases short : fits setup text message = true
  · have printed : readBack setup text message =
        JsonRpcMessage.parse text.fromStr (text.serialize message ++ "\n") :=
      JsonText.readLine_printed _ speaks.same (of_decide_eq_true short)
    rw [printed,JsonText.parse_printed (speaks.opening message member)] at taken
    cases parsed : text.fromStr (text.serialize message ++ "\n") with
    | error e =>
      rw [parsed] at taken
      cases taken
    | ok value =>
      rw [parsed] at taken
      have blanked := speaks.skeleton message member value parsed
      obtain ⟨other,built,rfl⟩ :=
        JsonRpcMessage.exists_of_skeleton (speaks.built message member) blanked
      have settled : read = other.settled :=
        (Except.ok.inj ((JsonRpcMessage.fromValue_toJson built).symm.trans taken)).symm
      exact ⟨other,short,rfl,JsonRpcMessage.nullFree_of_skeleton blanked,settled⟩
  · have long : ¬(text.line message).size ≤ max setup.upstreamLimit 1 := fun small =>
      short (decide_eq_true small)
    rw [readBack,BridgeSetup.read,BridgeSetup.limit,
      JsonText.readLine_long (Nat.lt_of_not_le long)] at taken
    cases taken

/-- When a daemon's message is read as one of the same value. -/
theorem readBack_same_iff {text : JsonText} {messages : List JsonRpcMessage}
    (speaks : Speaks setup text messages) {message : JsonRpcMessage} (member : message ∈ messages) :
    (∃ read, readBack setup text message = .ok read ∧ read.toJson = message.toJson) ↔
      fits setup text message = true ∧ linesBack text message = true ∧
        message.nullFree = true := by
  constructor
  · rintro ⟨read,taken,same⟩
    obtain ⟨other,short,parsed,free,rfl⟩ := readBack_ok speaks member taken
    -- a null member would be missing from what was read
    have nullFree : message.nullFree = true := by
      rw [← JsonRpcMessage.nullFree_of_skeleton (congrArg Json.skeleton same)]
      exact other.settled_nullFree
    have settled : other.settled = other := (settled_eq_iff other).mpr (free.trans nullFree)
    rw [← settled,same] at parsed
    exact ⟨short,decide_eq_true parsed,nullFree⟩
  · rintro ⟨short,lossless,free⟩
    have faithful : text.FaithfulLine message.toFields :=
      ⟨of_decide_eq_true lossless,speaks.opening message member⟩
    refine ⟨message.settled,JsonText.readLine_line _ speaks.same (speaks.built message member)
      faithful (of_decide_eq_true short),(toJson_settled_iff message).mpr free⟩

/-- Nothing is asked about what the daemon says. -/
theorem hear_untransformed (memory : σ) (reads : List (Except McpError JsonRpcMessage)) :
    hear none memory reads = reads.map (hearOne none memory) := by
  induction reads with
  | nil => rfl
  | cons read rest ih =>
    rw [hear_cons,pump_none,ih]
    rfl

variable {text : JsonText} {messages : List JsonRpcMessage} {labels : List BridgeLabel}

theorem heard_daemon (writes : DaemonWrites text labels messages) (memory : σ) :
    ∃ hangsUp : Bool, setup.heard .down memory labels =
      messages.map (fun message => hearOne none memory (readBack setup text message)) ++
        if hangsUp then [.unreadable .transportClosed] else [] := by
  obtain ⟨hangsUp,events⟩ := writes
  refine ⟨hangsUp,?_⟩
  have reads : setup.reads .down labels = messages.map (readBack setup text) ++
      if hangsUp then [.error .transportClosed] else [] := by
    have asEvents : setup.reads .down labels = ((labels.filter fun label =>
        label.direction = .down).map BridgeLabel.event).map (setup.read .down) := by
      rw [List.map_map]
      refine List.map_congr_left fun label member => ?_
      have reading : label.direction = .down := of_decide_eq_true (List.mem_filter.mp member).2
      rfl
    rw [asEvents,events,List.map_append,List.map_map]
    congr 1
    cases hangsUp <;> rfl
  have untouched : setup.transformOf .down = none := rfl
  rw [BridgeSetup.heard,untouched,hear_untransformed,reads,List.map_append,List.map_map]
  congr 1
  cases hangsUp <;> rfl

/-- A message is passed on as it was read, and what could not be read is answered. -/
theorem hearOne_accepted (memory : σ) (read : Except McpError JsonRpcMessage) :
    (hearOne none memory read).accepted = read.toOption := by
  cases read <;> rfl

theorem hearOne_due (memory : σ) (message : JsonRpcMessage) :
    (hearOne none memory (readBack setup text message)).due = none ↔
      ∃ read, readBack setup text message = .ok read := by
  cases taken : readBack setup text message with
  | ok read => exact ⟨fun _ => ⟨read,rfl⟩,fun _ => by cases read <;> rfl⟩
  | error e => simp [hearOne,Heard.due,readBack_malformed taken]

/-- What of the daemon's messages goes on. -/
theorem accepted_daemon (writes : DaemonWrites text labels messages) (memory : σ) :
    (setup.heard .down memory labels).filterMap Heard.accepted =
      messages.filterMap fun message => (readBack setup text message).toOption := by
  obtain ⟨hangsUp,heard⟩ := heard_daemon writes memory
  have ending : (if hangsUp then [Heard.unreadable .transportClosed] else []).filterMap
      Heard.accepted = [] := by
    cases hangsUp <;> rfl
  rw [heard,List.filterMap_append,ending,List.append_nil,List.filterMap_map]
  exact List.filterMap_congr fun message _ => hearOne_accepted memory _

/-- The daemon is answered for every message that cannot be read. -/
theorem due_daemon (writes : DaemonWrites text labels messages) (memory : σ) :
    (setup.heard .down memory labels).filterMap Heard.due = [] ↔
      ∀ message ∈ messages, ∃ read, readBack setup text message = .ok read := by
  obtain ⟨hangsUp,heard⟩ := heard_daemon writes memory
  have ending : (if hangsUp then [Heard.unreadable .transportClosed] else []).filterMap
      Heard.due = [] := by
    cases hangsUp <;> rfl
  rw [heard,List.filterMap_append,ending,List.append_nil,List.filterMap_eq_nil_iff]
  simp only [List.mem_map,forall_exists_index,and_imp,forall_apply_eq_imp_iff₂,hearOne_due]

/-- Values arrive whole and in order when every message is read as one of its value. -/
theorem arrive_iff (read : JsonRpcMessage → Except McpError JsonRpcMessage)
    (messages : List JsonRpcMessage) :
    ((messages.filterMap fun message => (read message).toOption).map JsonRpcMessage.toJson =
        messages.map JsonRpcMessage.toJson ∧ ∀ message ∈ messages, ∃ other, read message = .ok other) ↔
      ∀ message ∈ messages, ∃ other, read message = .ok other ∧ other.toJson = message.toJson := by
  induction messages with
  | nil => simp
  | cons message rest ih =>
    rw [List.forall_mem_cons,List.forall_mem_cons,← ih]
    cases taken : read message with
    | error e => simp
    | ok other => simp [taken,Except.toOption,and_assoc]

/-! ## Transparency -/

/-- The client is handed the daemon's values, each as it was and in order; anything else
it is handed is an answer to its own input; and the daemon is told nothing about what it
said. -/
structure Transparent (setup : BridgeSetup σ) (memory : σ) (labels : List BridgeLabel)
    (messages : List JsonRpcMessage) (final : Bridge σ) : Prop where
  received : (final.sent .down).map JsonRpcMessage.toJson = messages.map JsonRpcMessage.toJson
  others : final.answered .up <+: (setup.heard .up memory labels).filterMap Heard.due
  untold : final.answered .down = []

theorem bridge_transparent_iff (setup : BridgeSetup σ) (memory : σ) (labels : List BridgeLabel)
    (final : Bridge σ) (text : JsonText) (messages : List JsonRpcMessage)
    (run : Runs.execute setup.step (.start memory) labels = some final)
    (speaks : Speaks setup text messages) (writes : DaemonWrites text labels messages)
    (succeed : WritesSucceed .down labels) :
    Transparent setup memory labels messages final ↔
      ∀ message ∈ messages, fits setup text message = true ∧ linesBack text message = true ∧
        message.nullFree = true := by
  obtain ⟨⟨sent,allSent,_,sentWhole⟩,⟨answers,allAnswered,_,answerWhole⟩,_⟩ := run_added run .down
  obtain ⟨_,⟨owed,allOwed,owedPart,_⟩,_⟩ := run_added run .up
  have forwarded : final.sent .down =
      messages.filterMap fun message => (readBack setup text message).toOption :=
    (allSent.trans (sentWhole succeed)).trans (accepted_daemon writes memory)
  have answered : final.answered .down = (setup.heard .down memory labels).filterMap Heard.due :=
    allAnswered.trans (answerWhole succeed)
  have others : final.answered .up <+: (setup.heard .up memory labels).filterMap Heard.due := by
    rw [show final.answered .up = owed from allOwed]
    exact owedPart
  have each : (∀ message ∈ messages, fits setup text message = true ∧
      linesBack text message = true ∧ message.nullFree = true) ↔
        ∀ message ∈ messages, ∃ read, readBack setup text message = .ok read ∧
          read.toJson = message.toJson :=
    forall₂_congr fun message member => (readBack_same_iff speaks member).symm
  rw [each,← arrive_iff,← due_daemon writes memory,← answered,← forwarded]
  exact ⟨fun transparent => ⟨transparent.received,transparent.untold⟩,
    fun ⟨received,untold⟩ => ⟨received,others,untold⟩⟩

/-! ### A null result on its way to the client -/

/-- A bridge without a transform whose parser knows one line. -/
def plainSetup (text : JsonText) : BridgeSetup Unit where
  format := ⟨text.fromStr,fun _ => "invalid utf-8"⟩
  transform := none
  clientLimit := 8 * 1024 * 1024
  upstreamLimit := 8 * 1024 * 1024

/-- A parser that takes the line with its newline, as the readers hand it over. -/
def JsonText.ofWholeLine (value : Json) (line : String) : JsonText where
  print printed := if printed = value then line else "null"
  fromStr read := if read = line ++ "\n" then .ok value
    else .error "expected value at line 1 column 1"

def pongLine : JsonText := .ofWholeLine pongAnswer.toJson
  "\x7b\"id\":1,\"result\":\"pong\",\"jsonrpc\":\"2.0\"\x7d"

def nullLine : JsonText := .ofWholeLine nullAnswer.toJson
  "\x7b\"id\":1,\"result\":null,\"jsonrpc\":\"2.0\"\x7d"

/-- The daemon says one thing and hangs up. -/
def oneAnswer (text : JsonText) (message : JsonRpcMessage) : List BridgeLabel :=
  [⟨.down,.line (text.line message),none⟩,⟨.down,.closed,none⟩]

theorem JsonText.ofWholeLine_reads {value read : Json} {line text : String}
    (taken : (JsonText.ofWholeLine value line).fromStr text = .ok read) : read = value := by
  simp only [ofWholeLine] at taken
  split at taken <;> cases taken
  rfl

theorem oneAnswer_speaks {text : JsonText} {message : JsonRpcMessage} (built : message.Built)
    (opening : (text.serialize message).toList.head? = some '\x7b')
    (reads : ∀ value, text.fromStr (text.serialize message ++ "\n") = .ok value →
      value = message.toJson) :
    Speaks (plainSetup text) text [message] ∧ DaemonWrites text (oneAnswer text message) [message] ∧
      WritesSucceed .down (oneAnswer text message) := by
  refine ⟨⟨rfl,?_,?_,?_⟩,⟨true,rfl⟩,?_⟩
  · simpa using built
  · simpa using opening
  · intro other member read taken
    obtain rfl := List.mem_singleton.mp member
    exact congrArg Json.skeleton (reads read taken)
  · intro label member _
    simp only [oneAnswer,List.mem_cons,List.not_mem_nil,or_false] at member
    rcases member with rfl | rfl <;> rfl

theorem pong_arrives : Transparent (plainSetup pongLine) () (oneAnswer pongLine pongAnswer)
    [pongAnswer] ⟨(),[],[(.down,pongAnswer)],none,some (.ok ())⟩ :=
  have ⟨speaks,writes,succeed⟩ := @oneAnswer_speaks pongLine pongAnswer
    (.response _ (by decide : (RequestId.number 1).InRange)) (by decide)
    fun _ => JsonText.ofWholeLine_reads
  (bridge_transparent_iff _ _ _ _ pongLine [pongAnswer] rfl speaks writes succeed).mpr (by decide)

/-- The daemon's success with a null result reaches the client with no result at all. -/
theorem null_result_dropped :
    Speaks (plainSetup nullLine) nullLine [nullAnswer] ∧
      Runs.execute (plainSetup nullLine).step (.start ()) (oneAnswer nullLine nullAnswer) =
        some ⟨(),[],[(.down,.response ⟨.number 1,none,none⟩)],none,some (.ok ())⟩ ∧
      ¬Transparent (plainSetup nullLine) () (oneAnswer nullLine nullAnswer) [nullAnswer]
        ⟨(),[],[(.down,.response ⟨.number 1,none,none⟩)],none,some (.ok ())⟩ := by
  obtain ⟨speaks,_,_⟩ := @oneAnswer_speaks nullLine nullAnswer
    (.response _ (by decide : (RequestId.number 1).InRange)) (by decide)
    fun _ => JsonText.ofWholeLine_reads
  refine ⟨speaks,rfl,?_⟩
  intro transparent
  exact absurd transparent.received (by decide)

end SmlMcps
