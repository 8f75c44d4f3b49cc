import SmlMcps.Library.SharedSink
import SmlMcps.Library.Utf8
import SmlMcps.BridgeDownstream
import SmlMcps.LineFraming

/-! From one end of a line transport to the other. The loop and the task workers of a server,
or the two pumps of a bridge, write to one connection, each message under one lock and in
however many writes; what the reader at the other end makes of it are the messages, whole. -/
namespace SmlMcps

namespace JsonText

/-- The bytes a transport writes for a message. -/
def lineBytes (text : JsonText) (message : JsonRpcMessage) : List UInt8 :=
  (text.line message).data.toList

/-- A message that is written as a line and read as it was. -/
structure Lined (text : JsonText) (message : JsonRpcMessage) : Prop where
  built : message.Built
  faithful : text.FaithfulLine message.toFields
  /-- The printer escapes the newlines there are. -/
  single : '\n' ∉ (text.serialize message).toList

/-- What a reader makes of the line of a message. -/
def heard (text : JsonText) (maxBytes : Nat) (message : JsonRpcMessage) :
    Except McpError JsonRpcMessage :=
  if (text.line message).size ≤ max maxBytes 1 then .ok message.settled
  else .error (.invalidMessage
    ("message exceeds the " ++ toString (max maxBytes 1) ++ " byte limit"))

variable {text : JsonText} {message : JsonRpcMessage}

theorem lineBytes_eq (text : JsonText) (message : JsonRpcMessage) :
    text.lineBytes message = (text.serialize message).toByteArray.data.toList ++ [newline] := by
  rw [lineBytes,line,String.toUTF8,Utf8.bytes_eq,String.toList_append,List.flatMap_append,
    ← Utf8.bytes_eq]
  rfl

/-- A line ends where its one newline is. -/
theorem Lined.front (lined : text.Lined message) :
    newline ∉ (text.serialize message).toByteArray.data.toList := by
  intro member
  obtain ⟨c,inside,same⟩ := Utf8.char_of_mem member (by decide)
  have code : c = '\n' := Char.toNat_inj.mp same
  exact lined.single (code ▸ inside)

theorem Lined.readLine {format : WireFormat} (lined : text.Lined message)
    (same : format.fromStr = text.fromStr) (maxBytes : Nat) :
    format.readLine maxBytes ⟨(text.lineBytes message).toArray⟩ = text.heard maxBytes message := by
  have bytes : (⟨(text.lineBytes message).toArray⟩ : ByteArray) = text.line message := rfl
  rw [bytes,heard]
  by_cases short : (text.line message).size ≤ max maxBytes 1
  · rw [if_pos short]
    exact readLine_line _ same lined.built lined.faithful short
  · rw [if_neg short]
    exact readLine_long (Nat.lt_of_not_le short)

end JsonText

/-! ## Lines of which not all has arrived -/

variable {text : JsonText} {messages : List JsonRpcMessage} {stream : List UInt8}

/-- Of the lines of some messages, cut off anywhere, the whole ones are those of the first. -/
theorem wholeLines_lines (lined : ∀ message ∈ messages, text.Lined message)
    (arrived : stream <+: messages.flatMap text.lineBytes) : ∃ k ≤ messages.length,
      wholeLines [] stream = (messages.take k).map text.lineBytes ∧
        (stream = messages.flatMap text.lineBytes → k = messages.length) := by
  induction messages generalizing stream with
  | nil =>
    obtain rfl := List.prefix_nil.mp arrived
    exact ⟨0,Nat.le_refl 0,rfl,fun _ => rfl⟩
  | cons message rest ih =>
    have absent := (lined message List.mem_cons_self).front
    have bytes := text.lineBytes_eq message
    generalize (text.serialize message).toByteArray.data.toList = front at absent bytes
    rw [List.flatMap_cons] at arrived ⊢
    by_cases reached : text.lineBytes message <+: stream
    · obtain ⟨more,rfl⟩ := reached
      rw [List.prefix_append_right_inj] at arrived
      obtain ⟨k,bound,lines,complete⟩ :=
        ih (fun other member => lined other (List.mem_cons_of_mem _ member)) arrived
      refine ⟨k + 1,by simpa using bound,?_,fun same => ?_⟩
      · rw [bytes,List.append_assoc,List.singleton_append,wholeLines_line absent,lines,
          List.take_succ_cons,List.map_cons,bytes]
        rfl
      · rw [complete (List.append_cancel_left same)]
        rfl
    · -- The first line has not arrived as a whole.
      have short : stream <+: front := by
        rcases List.prefix_or_prefix_of_prefix arrived (List.prefix_append _ _) with short | whole
        · rw [bytes,List.prefix_concat_iff] at short
          rcases short with same | short
          · rw [same,bytes] at reached
            exact absurd (List.prefix_refl _) reached
          · exact short
        · exact absurd whole reached
      have unended : newline ∉ stream := fun member => absent (short.subset member)
      refine ⟨0,Nat.zero_le _,?_,fun same => ?_⟩
      · have opened := @wholeLines_open [] stream unended []
        rw [List.append_nil] at opened
        rw [opened]
        rfl
      · rw [same,bytes] at unended
        simp at unended

theorem wholeLines_all (lined : ∀ message ∈ messages, text.Lined message) (more : List UInt8) :
    wholeLines [] (messages.flatMap text.lineBytes ++ more) =
      messages.map text.lineBytes ++ wholeLines [] more := by
  induction messages with
  | nil => rfl
  | cons message rest ih =>
    have absent := (lined message List.mem_cons_self).front
    rw [List.flatMap_cons,text.lineBytes_eq message,List.append_assoc,List.append_assoc,
      List.singleton_append,wholeLines_line absent,
      ih fun other member => lined other (List.mem_cons_of_mem _ member),List.map_cons,
      text.lineBytes_eq message]
    rfl

/-! ## The whole way -/

/-- The answers that are due for the lines of some messages, and for what comes behind them. -/
theorem due_lines {format : LineFormat} (same : format.fromStr = text.fromStr)
    (lined : ∀ message ∈ messages, text.Lined message) (maxBytes count : Nat)
    (more : List (List UInt8)) :
    (List.range count).map (format.due maxBytes (messages.map text.lineBytes ++ more)) =
      (messages.take count).map (text.heard maxBytes) ++
        (List.range (count - messages.length)).map (format.due maxBytes more) := by
  induction messages generalizing count with
  | nil => simp
  | cons message rest ih =>
    cases count with
    | zero => simp
    | succ count =>
      rw [List.map_cons,List.cons_append,due_cons,
        ih fun other member => lined other (List.mem_cons_of_mem _ member),
        (lined message List.mem_cons_self).readLine same]
      simp

/-- The answers a reader has given, timeouts left out: to some of the messages, the first ones,
and then others. -/
structure Relayed (text : JsonText) (maxBytes : Nat) (messages : List JsonRpcMessage)
    (answers : List (Except McpError JsonRpcMessage)) (count : Nat)
    (others : List (Except McpError JsonRpcMessage)) : Prop where
  answers : answers = (messages.take count).map (text.heard maxBytes) ++ others
  count : count ≤ messages.length

/-- Where no more than the lines of some messages arrives, the other answers are that the
stream has ended. -/
theorem relayed_part {format : LineFormat} (same : format.fromStr = text.fromStr)
    (lined : ∀ message ∈ messages, text.Lined message)
    (arrived : stream <+: messages.flatMap text.lineBytes) (maxBytes due : Nat) :
    ∃ count others, Relayed text maxBytes messages
        ((List.range due).map (format.due maxBytes (wholeLines [] stream))) count others ∧
      count + others.length = due ∧ (∀ answer ∈ others, answer = .error .transportClosed) ∧
      (stream = messages.flatMap text.lineBytes → others ≠ [] → count = messages.length) := by
  obtain ⟨whole,bound,lines,complete⟩ := wholeLines_lines lined arrived
  have first : ∀ message ∈ messages.take whole, text.Lined message :=
    fun message member => lined message (List.mem_of_mem_take member)
  have said := due_lines same first maxBytes due []
  rw [List.append_nil,← lines,List.take_take,List.length_take_of_le bound] at said
  refine ⟨min due whole,_,⟨said,by omega⟩,?_,?_,?_⟩
  · rw [List.length_map,List.length_range]
    omega
  · intro answer member
    obtain ⟨index,-,rfl⟩ := List.mem_map.mp member
    rfl
  · intro all more
    have reached := complete all
    have positive := List.length_pos_iff.mpr more
    rw [List.length_map,List.length_range] at positive
    omega

/-- Where more than the lines of some messages arrives, all of them are answered first. -/
theorem relayed_whole {format : LineFormat} (same : format.fromStr = text.fromStr)
    (lined : ∀ message ∈ messages, text.Lined message)
    (arrived : messages.flatMap text.lineBytes <+: stream) (maxBytes due : Nat) :
    ∃ count others, Relayed text maxBytes messages
        ((List.range due).map (format.due maxBytes (wholeLines [] stream))) count others ∧
      count + others.length = due ∧ (others ≠ [] → count = messages.length) := by
  obtain ⟨more,rfl⟩ := arrived
  have said := due_lines same lined maxBytes due (wholeLines [] more)
  rw [← wholeLines_all lined more,List.take_eq_take_min] at said
  refine ⟨min due messages.length,_,⟨said,Nat.min_le_right _ _⟩,?_,?_⟩
  · rw [List.length_map,List.length_range]
    omega
  · intro others
    have positive := List.length_pos_iff.mpr others
    rw [List.length_map,List.length_range] at positive
    omega

/-- However many threads write to a connection, whatever the writes are cut into and however the
reads are: the reader's answers are the messages, each whole and once, in the order the lock
was taken, which is each thread's own order, up to the last that has arrived; and it gets to
all of them if all has arrived. Where writes fail, that is so of the messages before the first
whose write failed: nothing else is answered before all of them are. -/
theorem wire_intact {ι : Type} [DecidableEq ι] (text : JsonText) (format : LineFormat)
    (maxBytes : Nat) (programs : ι → List JsonRpcMessage) (labels : List (SharedSink.Label ι))
    (sink : SharedSink.Sink ι JsonRpcMessage UInt8) (source : LineSource)
    (calls : List (Option Nat)) (same : format.fromStr = text.fromStr)
    (lined : ∀ thread, ∀ message ∈ programs thread, text.Lined message)
    (run : Runs.execute (SharedSink.step text.lineBytes) (.start programs) labels = some sink)
    (calm : source.Undisturbed) (arrived : source.stream <+: sink.stream) :
    (∀ thread, SharedSink.of thread sink.begun <+: programs thread) ∧
    sink.unfailed <+: sink.begun ∧ (sink.failed = none → sink.unfailed = sink.begun) ∧
    ∃ count others, Relayed text maxBytes (sink.unfailed.map Prod.snd)
        (((LineReader.withLimit source maxBytes).answers format calls).filter (!isTimedOut ·))
        count others ∧
      calls.countP Option.isNone ≤ count + others.length + source.timeouts ∧
      (sink.failed = none → ∀ answer ∈ others, answer = .error .transportClosed) ∧
      ((∀ answer ∈ others, answer = .error .transportClosed) ∨ count = sink.unfailed.length) ∧
      (source.stream = sink.stream → sink.holder = none → sink.failed = none → others ≠ [] →
        count = sink.begun.length) := by
  have intact := SharedSink.run_intact run
  refine ⟨intact.program,sink.unfailed_prefix,SharedSink.Sink.unfailed_none,?_⟩
  have lines : sink.unfailed.flatMap (fun entry => text.lineBytes entry.2) =
      (sink.unfailed.map Prod.snd).flatMap text.lineBytes := by rw [List.flatMap_map]
  have known : ∀ message ∈ sink.unfailed.map Prod.snd, text.Lined message := by
    intro message member
    obtain ⟨⟨thread,message⟩,unfailed,rfl⟩ := List.mem_map.mp member
    have begun := sink.unfailed_prefix.subset unfailed
    apply lined thread
    apply (intact.program thread).subset
    exact List.mem_map_of_mem (List.mem_filter.mpr ⟨begun,decide_eq_true rfl⟩)
  have fresh : LineReader.Holds (LineReader.withLimit source maxBytes).maxBytes []
      (LineReader.withLimit source maxBytes) := .fresh rfl rfl
  obtain ⟨due,said,progress⟩ := fresh.answers format rfl calm calls
  have waits : calls.countP Option.isNone ≤ due + source.timeouts := progress
  have stream : (LineReader.withLimit source maxBytes).inner.stream = source.stream := rfl
  rw [stream] at said
  rw [said]
  have length : (sink.unfailed.map Prod.snd).length = sink.unfailed.length := List.length_map ..
  have part (short : source.stream <+: (sink.unfailed.map Prod.snd).flatMap text.lineBytes) :=
    relayed_part same known short maxBytes due
  rcases intact.begins with ⟨unfailed,begins⟩ | ⟨failed,begins⟩
  · obtain ⟨count,others,relayed,total,closed,complete⟩ := part (lines ▸ arrived.trans begins)
    refine ⟨count,others,relayed,by omega,fun _ => closed,.inl closed,?_⟩
    intro all free unbroken ended
    have whole : source.stream = (sink.unfailed.map Prod.snd).flatMap text.lineBytes := by
      rw [all,intact.complete free unbroken,lines]
    rw [complete whole ended,length,SharedSink.Sink.unfailed_none unbroken]
  · have broken : ¬sink.failed = none := by
      intro none_
      rw [none_] at failed
      cases failed
    rcases List.prefix_or_prefix_of_prefix arrived begins with short | long
    · obtain ⟨count,others,relayed,total,closed,-⟩ := part (lines ▸ short)
      exact ⟨count,others,relayed,by omega,fun _ => closed,.inl closed,
        fun _ _ unbroken => absurd unbroken broken⟩
    · obtain ⟨count,others,relayed,total,first⟩ := relayed_whole same known (lines ▸ long)
        maxBytes due
      refine ⟨count,others,relayed,by omega,fun unbroken => absurd unbroken broken,?_,
        fun _ _ unbroken => absurd unbroken broken⟩
      by_cases none_ : others = []
      · exact .inl (by simp [none_])
      · exact .inr ((first none_).trans length)

/-! ### Two threads, of which the second fails -/

/-- One answers in two pieces; the other gets nine bytes out; the first answers again. -/
def twoWriters : List (SharedSink.Label Bool) :=
  [.take true,.put 10,.put 31,.release,.take false,.put 9,.fail,.take true,.put 41,.release]

def twoPrograms : Bool → List JsonRpcMessage
  | true => [pongAnswer,pongAnswer]
  | false => [pongAnswer]

def twoPongs : SharedSink.Sink Bool JsonRpcMessage UInt8 where
  due _ := []
  stream := pongLine.lineBytes pongAnswer ++ (pongLine.lineBytes pongAnswer).take 9 ++
    pongLine.lineBytes pongAnswer
  begun := [(true,pongAnswer),(false,pongAnswer),(true,pongAnswer)]
  failed := some 1

/-- All of it arrives, with a timeout in the middle of the line that is whole. -/
def twoReads : LineSource where
  buffer := []
  reads := [.ok (twoPongs.stream.take 17),.error ⟨.wouldBlock,""⟩,.ok (twoPongs.stream.drop 17)]
  now := 0
  lapses := []
  settings := []

theorem twoPongs_lined (thread : Bool) : ∀ message ∈ twoPrograms thread,
    pongLine.Lined message := by
  intro message member
  have same : message = pongAnswer := by
    cases thread <;> simpa [twoPrograms] using member
  subst same
  exact ⟨.response _ (by decide : (RequestId.number 1).InRange),⟨by decide,by decide⟩,by decide⟩

theorem twoWriters_run : Runs.execute (SharedSink.step pongLine.lineBytes)
    (.start twoPrograms) twoWriters = some twoPongs := by
  have due : Function.update (Function.update (Function.update twoPrograms true [pongAnswer])
      false []) true [] = fun _ => [] := by
    funext thread
    cases thread <;> rfl
  have length : (pongLine.lineBytes pongAnswer).length = 41 := by decide +kernel
  have all : (pongLine.lineBytes pongAnswer).drop 41 = [] := by
    rw [List.drop_eq_nil_iff,length]
  have whole : (pongLine.lineBytes pongAnswer).take 41 = pongLine.lineBytes pongAnswer :=
    List.take_of_length_le (Nat.le_of_eq length)
  have short : ((pongLine.lineBytes pongAnswer).drop 10).length ≤ 31 := by
    rw [List.length_drop,length]
  have pieces : ((pongLine.lineBytes pongAnswer).drop 10).take 31 =
      (pongLine.lineBytes pongAnswer).drop 10 := List.take_of_length_le short
  have first : twoPrograms true = [pongAnswer,pongAnswer] := rfl
  have second : twoPrograms false = [pongAnswer] := rfl
  simp [twoWriters,Runs.execute,SharedSink.step,SharedSink.Sink.start,length,all,whole,due,twoPongs,
    pieces,first,second,-List.append_assoc]

theorem wire_intact_pongs :
    (∀ thread, SharedSink.of thread twoPongs.begun <+: twoPrograms thread) ∧
    ∃ count others, Relayed pongLine 64 [pongAnswer]
        (((LineReader.withLimit twoReads 64).answers ⟨⟨pongLine.fromStr,fun _ => ""⟩,
          fun _ => "1s"⟩ [none,some 1,none]).filter (!isTimedOut ·)) count others ∧
      2 ≤ count + others.length + twoReads.timeouts ∧
      ((∀ answer ∈ others, answer = .error .transportClosed) ∨ count = 1) := by
  obtain ⟨programs,_,_,count,others,relayed,waits,_,first,_⟩ :=
    wire_intact pongLine ⟨⟨pongLine.fromStr,fun _ => ""⟩,fun _ => "1s"⟩ 64 twoPrograms
      twoWriters twoPongs twoReads [none,some 1,none] rfl twoPongs_lined twoWriters_run
      ⟨by decide +kernel,nofun⟩ (by decide +kernel)
  exact ⟨programs,count,others,relayed,waits,first⟩

end SmlMcps
