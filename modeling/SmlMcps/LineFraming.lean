import SmlMcps.LineReader

/-! What a reader makes of a stream depends on the stream and the limit alone. What it
keeps between two passes is a function of the bytes of the unfinished line, so neither the
cutting of the stream into reads nor a timeout in the middle of a line leaves a trace in
it, and its answers are those of the whole lines, one by one. -/
namespace SmlMcps

/-- What becomes of a whole line under the limit it is judged by. A refusal states the
limit of its own time. -/
def LineFormat.judged (format : LineFormat) (judge stated : Nat) (line : List UInt8) :
    Except McpError JsonRpcMessage :=
  if judge < line.length then .error (exceeds stated) else format.decode line

/-- A reader whose limit is fixed reads lines as the server loop takes them to be read. -/
theorem readLine_judged (format : LineFormat) (maxBytes : Nat) (line : List UInt8) :
    format.readLine maxBytes ⟨line.toArray⟩ =
      format.judged (max maxBytes 1) (max maxBytes 1) line := rfl

namespace LineReader

/-- The reader holds `seen` of a line that has not ended, to be judged by `judge`: all of
it, or only that it was too long. A limit set since then agrees with `judge` on every line
that begins so. -/
structure Holds (judge : Nat) (seen : List UInt8) (reader : LineReader) : Prop where
  unended : newline ∉ seen
  overflowed : reader.overflowed = decide (judge < seen.length)
  unfinished : reader.unfinished = if judge < seen.length then [] else seen
  limit : seen.length ≤ judge → max judge seen.length = max reader.maxBytes seen.length

section
variable {format : LineFormat} {timeout deadline : Option Nat} {judge : Nat}
  {seen available front rest : List UInt8} {reader next : LineReader}

theorem Holds.congr (held : Holds judge seen reader) (unfinished : next.unfinished = reader.unfinished)
    (maxBytes : next.maxBytes = reader.maxBytes) (overflowed : next.overflowed = reader.overflowed) :
    Holds judge seen next :=
  ⟨held.unended,overflowed.trans held.overflowed,unfinished.trans held.unfinished,
    by rw [maxBytes]; exact held.limit⟩

theorem Holds.fresh (unfinished : reader.unfinished = []) (overflowed : reader.overflowed = false) :
    Holds reader.maxBytes [] reader :=
  ⟨by simp,by simpa using overflowed,by simpa using unfinished,fun _ => rfl⟩

theorem Holds.accumulate (held : Holds judge seen reader) (present : available ≠ [])
    (absent : newline ∉ available) :
    Holds judge (seen ++ available) (accumulate available reader).2.2 := by
  have some := List.length_pos_iff.mpr present
  have none := List.idxOf?_eq_none_iff.mpr absent
  have limit := held.limit
  have unended : newline ∉ seen ++ available := by simp [held.unended,absent]
  by_cases exceeded : judge < seen.length
  · have still : judge < (seen ++ available).length := by
      rw [List.length_append]
      omega
    have flagged : reader.overflowed = true := by simp [held.overflowed,exceeded]
    refine ⟨unended,?_,?_,fun small => absurd small (by omega)⟩
    · simpa [LineReader.accumulate,none,flagged] using by simpa using still
    · rw [if_pos still]
      simpa [LineReader.accumulate,none,flagged,exceeded] using held.unfinished
  · have flagged : reader.overflowed = false := by simp [held.overflowed,exceeded]
    have kept : reader.unfinished = seen := by rw [held.unfinished,if_neg exceeded]
    by_cases large : judge < (seen ++ available).length
    · have large' : reader.maxBytes < seen.length + available.length := by
        rw [List.length_append] at large
        omega
      refine ⟨unended,?_,?_,fun small => absurd small (by omega)⟩
      · simpa [LineReader.accumulate,none,flagged,kept,large'] using by simpa using large
      · rw [if_pos large]
        simp [LineReader.accumulate,none,flagged,kept,large']
    · have small' : ¬reader.maxBytes < seen.length + available.length := by
        rw [List.length_append] at large
        omega
      refine ⟨unended,?_,?_,?_⟩
      · simpa [LineReader.accumulate,none,flagged,kept,small'] using by simpa using large
      · rw [if_neg large]
        simp [LineReader.accumulate,none,flagged,kept,small']
      · simp only [LineReader.accumulate,none,flagged,kept,small',Bool.false_eq_true,if_false,
          List.length_append] at large ⊢
        omega

/-- The pass that brings the newline ends the line as a whole line is judged. -/
theorem Holds.finish (format : LineFormat) (held : Holds judge seen reader)
    (absent : newline ∉ front) :
    ((LineReader.accumulate (front ++ newline :: rest) reader).2.2.finishLine format).1 =
      format.judged judge reader.maxBytes (seen ++ front ++ [newline]) := by
  have found : (front ++ newline :: rest).idxOf? newline = some front.length :=
    Marks.idxOf?_first absent
  have limit := held.limit
  have taken : (front ++ newline :: rest).take (front.length + 1) = front ++ [newline] := by
    simp [List.take_append,List.take_of_length_le]
  simp only [LineFormat.judged,List.length_append,List.length_singleton]
  by_cases exceeded : judge < seen.length
  · have flagged : reader.overflowed = true := by simp [held.overflowed,exceeded]
    rw [if_pos (by omega)]
    simp [LineReader.accumulate,found,flagged,finishLine]
  · have flagged : reader.overflowed = false := by simp [held.overflowed,exceeded]
    have kept : reader.unfinished = seen := by rw [held.unfinished,if_neg exceeded]
    by_cases large : judge < seen.length + front.length + 1
    · have large' : reader.maxBytes < seen.length + front.length + 1 := by omega
      rw [if_pos large]
      simp [LineReader.accumulate,found,flagged,kept,large',finishLine]
    · have small' : ¬reader.maxBytes < seen.length + front.length + 1 := by omega
      rw [if_neg large]
      simp [LineReader.accumulate,found,flagged,kept,small',finishLine,taken]

theorem finishLine_fresh (format : LineFormat) (reader : LineReader) :
    (reader.finishLine format).2.unfinished = [] ∧
      (reader.finishLine format).2.overflowed = false ∧
      (reader.finishLine format).2.maxBytes = reader.maxBytes ∧
      (reader.finishLine format).2.inner = reader.inner := by
  cases flagged : reader.overflowed with
  | true => simp [finishLine,flagged]
  | false => simp [finishLine,flagged]

theorem finishLine_consume (format : LineFormat) (count : Nat) (reader : LineReader) :
    ((LineReader.consume count reader).finishLine format).1 = (reader.finishLine format).1 := by
  cases flagged : reader.overflowed with
  | true => simp [finishLine,LineReader.consume,flagged]
  | false => simp [finishLine,LineReader.consume,flagged]

/-- Why a call answers without a line: its time was up, the stream has ended, or the source
failed. -/
inductive Why (format : LineFormat) (timeout : Option Nat) (source next : LineSource) :
    Except McpError JsonRpcMessage → Prop where
  | late (untimed : timeout = none → next.timeouts < source.timeouts) :
      Why format timeout source next (.error (format.timedOut timeout))
  | closed (ended : source.Undisturbed → next.stream = []) :
      Why format timeout source next (.error .transportClosed)
  | failed {text : String} (disturbed : ¬source.Undisturbed) :
      Why format timeout source next (.error (.io text))

/-- What a pass, or a call, does with the stream in front of it: it cuts a line off, or it
takes a part of one and answers for another reason. -/
inductive Told (format : LineFormat) (timeout : Option Nat) (judge : Nat) (seen : List UInt8)
    (reader : LineReader) :
    Except McpError JsonRpcMessage → LineReader → Prop where
  | line {front : List UInt8} {next : LineReader}
      (begins : reader.inner.stream = front ++ newline :: next.inner.stream)
      (absent : newline ∉ front) (unfinished : next.unfinished = [])
      (overflowed : next.overflowed = false) :
      Told format timeout judge seen reader
        (format.judged judge reader.maxBytes (seen ++ front ++ [newline])) next
  | cut {taken : List UInt8} {next : LineReader} {result : Except McpError JsonRpcMessage}
      (begins : reader.inner.stream = taken ++ next.inner.stream)
      (held : Holds judge (seen ++ taken) next)
      (why : Why format timeout reader.inner next.inner result) :
      Told format timeout judge seen reader result next

/-- What the passes before took belongs to the same line. -/
theorem Told.after {taken : List UInt8} {middle : LineReader}
    {result : Except McpError JsonRpcMessage}
    (told : Told format timeout judge (seen ++ taken) middle result next)
    (begins : reader.inner.stream = taken ++ middle.inner.stream) (absent : newline ∉ taken)
    (maxBytes : middle.maxBytes = reader.maxBytes)
    (later : LineSource.Later reader.inner middle.inner) :
    Told format timeout judge seen reader result next := by
  cases told with
  | @line front next begins' absent' unfinished overflowed =>
    have whole : seen ++ taken ++ front ++ [newline] = seen ++ (taken ++ front) ++ [newline] := by
      simp
    rw [maxBytes,whole]
    exact .line (by rw [begins,begins',List.append_assoc]) (by simp [absent,absent']) unfinished
      overflowed
  | @cut more next result begins' held why =>
    rw [List.append_assoc] at held
    refine .cut (by rw [begins,begins',List.append_assoc]) held ?_
    cases why with
    | late untimed => exact .late fun none => Nat.lt_of_lt_of_le (untimed none) later.timeouts
    | closed ended => exact .closed fun calm => ended (later.undisturbed calm)
    | failed disturbed => exact .failed fun calm => disturbed (later.undisturbed calm)

structure Goes (judge : Nat) (seen : List UInt8) (reader next : LineReader) : Prop where
  maxBytes : next.maxBytes = reader.maxBytes
  later : LineSource.Later reader.inner next.inner
  takes : ∃ taken, reader.inner.stream = taken ++ next.inner.stream ∧ newline ∉ taken ∧
    Holds judge (seen ++ taken) next

/-- The step: a pass that goes on has taken a part of the line, and one that answers cut
the line off or took nothing. -/
theorem Holds.turn (format : LineFormat) (held : Holds judge seen reader)
    (timed : timeout = none → deadline = none) :
    match reader.turn format timeout deadline with
    | .again next => Goes judge seen reader next
    | .answer result next => Told format timeout judge seen reader result next ∧
        next.maxBytes = reader.maxBytes ∧ LineSource.Later reader.inner next.inner := by
  have begun := begin_begun format timeout deadline reader
  rcases started : reader.begin format timeout deadline with ⟨e | _,ready⟩
  · rw [started] at begun
    obtain ⟨present,why⟩ := begin_error started
    simp only [LineReader.turn,started]
    have kept : reader.inner.stream = [] ++ ready.inner.stream := begun.stream.symm
    refine ⟨.cut kept ?_ ?_,begun.maxBytes,begun.later⟩
    · rw [List.append_nil]
      exact held.congr begun.unfinished begun.maxBytes begun.overflowed
    · obtain rfl | ⟨text,rfl,disturbed⟩ := why
      · exact .late fun none => absurd (timed none) present
      · exact .failed disturbed
  rw [started] at begun
  have held : Holds judge seen ready :=
    held.congr begun.unfinished begun.maxBytes begun.overflowed
  have stream := ready.inner.fillBuf_stream
  have later := ready.inner.fillBuf_later
  rcases filled : ready.inner.fillBuf with ⟨e | available,inner⟩
  · rw [filled] at stream later
    have kept : reader.inner.stream = [] ++ inner.stream := begun.stream.symm.trans stream.symm
    have same : Holds judge (seen ++ []) { ready with inner } := by
      rw [List.append_nil]
      exact held.congr rfl rfl rfl
    have next := LineSource.fillBuf_error filled
    have member : .error e ∈ reader.inner.reads := by
      rw [← begun.reads,next]
      exact List.mem_cons_self
    simp only [LineReader.turn,started,filled]
    by_cases late : e.isTimeout
    · simp only [late,if_true]
      refine ⟨.cut kept same (.late fun _ => ?_),begun.maxBytes,begun.later.trans later⟩
      rw [LineSource.timeouts,LineSource.timeouts,← begun.reads,next]
      simp [late]
    by_cases signal : e.isInterrupt
    · simp only [late,signal,if_true,Bool.false_eq_true,if_false]
      exact ⟨begun.maxBytes,begun.later.trans later,[],kept,by simp,same⟩
    have disturbed : ¬reader.inner.Undisturbed := by
      intro calm
      simpa [LineSource.quiet,late,signal] using calm.1 _ member
    by_cases gone : e.isDisconnect
    · simp only [late,signal,gone,if_true,Bool.false_eq_true,if_false]
      exact ⟨.cut kept same (.closed fun calm => absurd calm disturbed),begun.maxBytes,
        begun.later.trans later⟩
    · simp only [late,signal,gone,Bool.false_eq_true,if_false]
      exact ⟨.cut kept same (.failed disturbed),begun.maxBytes,begun.later.trans later⟩
  by_cases nothing : available = []
  · subst nothing
    rw [filled] at stream later
    have kept : reader.inner.stream = [] ++ inner.stream := begun.stream.symm.trans stream.symm
    have same : Holds judge (seen ++ []) { ready with inner } := by
      rw [List.append_nil]
      exact held.congr rfl rfl rfl
    simp only [LineReader.turn,started,filled,if_true]
    refine ⟨.cut kept same (.closed fun calm => ?_),begun.maxBytes,begun.later.trans later⟩
    exact LineSource.fillBuf_empty filled (begun.later.undisturbed calm)
  rw [filled] at later
  have front := LineSource.fill_front filled
  have same : Holds judge seen { ready with inner } := held.congr rfl rfl rfl
  simp only [LineReader.turn,started,filled,nothing,if_false]
  obtain ⟨absent,ended,count⟩ | ⟨before,rest,rfl,absent,ended,count⟩ :=
    accumulate_cases available { ready with inner }
  · simp only [ended,count,Bool.false_eq_true,if_false]
    refine ⟨?_,?_,available,?_,absent,?_⟩
    · exact (accumulate_maxBytes _ _).trans begun.maxBytes
    · simp only [LineReader.consume,accumulate_inner]
      exact begun.later.trans ⟨later.reads,later.settings⟩
    · simp only [LineReader.consume,accumulate_inner]
      rw [← begun.stream,front available.length,List.take_length]
    · exact (same.accumulate nothing absent).congr rfl rfl rfl
  · simp only [ended,count,if_true]
    have fresh := finishLine_fresh format (LineReader.consume (before.length + 1)
      (LineReader.accumulate (before ++ newline :: rest) { ready with inner }).2.2)
    refine ⟨?_,?_,?_⟩
    · have begins : reader.inner.stream =
          before ++ newline :: (inner.consume (before.length + 1)).stream := by
        rw [← begun.stream,front (before.length + 1)]
        simp [List.take_append,List.take_of_length_le]
      have line : Told format timeout judge seen reader
          (format.judged judge reader.maxBytes (seen ++ before ++ [newline])) _ :=
        .line (by rw [fresh.2.2.2]; simpa [LineReader.consume] using begins) absent fresh.1
          fresh.2.1
      rw [← begun.maxBytes] at line
      rw [finishLine_consume,same.finish format absent]
      exact line
    · rw [fresh.2.2.1]
      exact (accumulate_maxBytes _ _).trans begun.maxBytes
    · rw [fresh.2.2.2]
      simp only [LineReader.consume,accumulate_inner]
      exact begun.later.trans ⟨later.reads,later.settings⟩

/-- The run: the passes of one call, up to the one that answers. -/
theorem Holds.passes (format : LineFormat) (timeout deadline : Option Nat)
    (held : Holds judge seen reader) (timed : timeout = none → deadline = none) :
    Told format timeout judge seen reader
        (reader.passes format timeout deadline).1 (reader.passes format timeout deadline).2 ∧
      (reader.passes format timeout deadline).2.maxBytes = reader.maxBytes ∧
      LineSource.Later reader.inner (reader.passes format timeout deadline).2.inner := by
  fun_induction LineReader.passes format timeout deadline reader generalizing seen with
  | case1 reader result next answers =>
    have step := held.turn format timed
    rw [answers] at step
    exact step
  | case2 reader next goes again =>
    have step := held.turn format timed
    rw [goes] at step
    obtain ⟨taken,begins,absent,rest⟩ := step.takes
    obtain ⟨told,maxBytes,later⟩ := again rest
    exact ⟨told.after begins absent step.maxBytes step.later,maxBytes.trans step.maxBytes,
      step.later.trans later⟩

theorem Holds.readMessage (format : LineFormat) (timeout : Option Nat)
    (held : Holds judge seen reader) :
    Told format timeout judge seen reader
        (reader.readMessage format timeout).1 (reader.readMessage format timeout).2 ∧
      (reader.readMessage format timeout).2.maxBytes = reader.maxBytes ∧
      LineSource.Later reader.inner (reader.readMessage format timeout).2.inner := by
  cases timeout with
  | none => exact held.passes format none none fun _ => rfl
  | some t =>
    have looked : LineSource.Later reader.inner reader.inner.instantNow.2 :=
      ⟨by simp,by simp⟩
    have same : Holds judge (seen ++ []) { reader with inner := reader.inner.instantNow.2 } := by
      rw [List.append_nil]
      exact held.congr rfl rfl rfl
    obtain ⟨told,maxBytes,later⟩ :=
      same.passes format (some t) (some (reader.inner.instantNow.1 + t)) (by simp)
    refine ⟨told.after ?_ (by simp) rfl looked,maxBytes,looked.trans later⟩
    rw [LineSource.stream,LineSource.stream]
    simp

end

/-! ## The states of a reader -/

/-- The states a reader goes through, the ones between two passes of a call included. -/
inductive Reached (format : LineFormat) (start : LineReader) : LineReader → Prop where
  | start : Reached format start start
  | look {reader : LineReader} (before : Reached format start reader) :
      Reached format start { reader with inner := reader.inner.instantNow.2 }
  | turn {reader : LineReader} {timeout deadline : Option Nat}
      (before : Reached format start reader) (timed : timeout = none → deadline = none) :
      Reached format start (reader.turn format timeout deadline).reader

section
variable {format : LineFormat} {start reader : LineReader}

theorem Reached.passes {timeout deadline : Option Nat} (before : Reached format start reader)
    (timed : timeout = none → deadline = none) :
    Reached format start (reader.passes format timeout deadline).2 := by
  fun_induction LineReader.passes format timeout deadline reader with
  | case1 reader result next answers =>
    have after := before.turn timed
    rwa [answers] at after
  | case2 reader next goes again =>
    have after := before.turn timed
    rw [goes] at after
    exact again after

theorem Reached.readMessage (before : Reached format start reader) (timeout : Option Nat) :
    Reached format start (reader.readMessage format timeout).2 := by
  cases timeout with
  | none => exact before.passes fun _ => rfl
  | some t => exact before.look.passes (by simp)

theorem Reached.holds (reached : Reached format start reader)
    (fresh : Holds start.maxBytes [] start) :
    reader.maxBytes = start.maxBytes ∧ ∃ seen, Holds start.maxBytes seen reader := by
  induction reached with
  | start => exact ⟨rfl,[],fresh⟩
  | look before ih =>
    obtain ⟨maxBytes,seen,held⟩ := ih
    exact ⟨maxBytes,seen,held.congr rfl rfl rfl⟩
  | @turn reader timeout deadline before timed ih =>
    obtain ⟨maxBytes,seen,held⟩ := ih
    have step := held.turn format timed
    rcases turned : reader.turn format timeout deadline with next | ⟨result,next⟩
    · rw [turned] at step
      obtain ⟨taken,-,-,rest⟩ := step.takes
      exact ⟨step.maxBytes.trans maxBytes,_,rest⟩
    · rw [turned] at step
      obtain ⟨told,kept,-⟩ := step
      refine ⟨kept.trans maxBytes,?_⟩
      cases told with
      | line begins absent unfinished overflowed =>
        have afresh := Holds.fresh unfinished overflowed
        rw [kept,maxBytes] at afresh
        exact ⟨[],afresh⟩
      | cut begins rest why => exact ⟨_,rest⟩

theorem Holds.bound {judge : Nat} {seen : List UInt8} (held : Holds judge seen reader) :
    reader.unfinished.length ≤ judge := by
  rw [held.unfinished]
  split
  · exact Nat.zero_le _
  · omega

end

/-! ## The answers of a reader -/

def answers (format : LineFormat) :
    (timeouts : List (Option Nat)) → LineReader → List (Except McpError JsonRpcMessage)
  | [], _ => []
  | timeout :: later, reader => (reader.readMessage format timeout).1 ::
      answers format later (reader.readMessage format timeout).2

end LineReader

/-- An answer that only says the time was up. -/
def isTimedOut : Except McpError JsonRpcMessage → Bool
  | .error (.timeout _) => true
  | _ => false

/-- The whole lines of a stream, newlines included, when `seen` of the first was taken. -/
def wholeLines (seen : List UInt8) : List UInt8 → List (List UInt8)
  | [] => []
  | b :: rest =>
    if b = newline then (seen ++ [b]) :: wholeLines [] rest else wholeLines (seen ++ [b]) rest

/-- The answers that are due for these lines: one for each, and then that the stream has
ended. -/
def LineFormat.due (format : LineFormat) (maxBytes : Nat) (lines : List (List UInt8)) (n : Nat) :
    Except McpError JsonRpcMessage :=
  match lines[n]? with
  | some line => format.readLine maxBytes ⟨line.toArray⟩
  | none => .error .transportClosed

theorem wholeLines_open {seen taken : List UInt8} (absent : newline ∉ taken)
    (rest : List UInt8) : wholeLines seen (taken ++ rest) = wholeLines (seen ++ taken) rest := by
  induction taken generalizing seen with
  | nil => simp
  | cons b taken ih =>
    have other : b ≠ newline := fun same => absent (by simp [same])
    simp only [List.cons_append,wholeLines,other,if_false]
    rw [ih fun member => absent (by simp [member])]
    simp

theorem wholeLines_line {seen front : List UInt8} (absent : newline ∉ front)
    (rest : List UInt8) : wholeLines seen (front ++ newline :: rest) =
      (seen ++ front ++ [newline]) :: wholeLines [] rest := by
  rw [wholeLines_open absent]
  simp [wholeLines]

theorem due_cons (format : LineFormat) (maxBytes : Nat) (line : List UInt8)
    (lines : List (List UInt8)) (count : Nat) :
    (List.range (count + 1)).map (format.due maxBytes (line :: lines)) =
      format.readLine maxBytes ⟨line.toArray⟩ ::
        (List.range count).map (format.due maxBytes lines) := by
  rw [List.range_succ_eq_map,List.map_cons,List.map_map]
  rfl

theorem due_nil (format : LineFormat) (maxBytes count : Nat) :
    (List.range (count + 1)).map (format.due maxBytes []) =
      .error .transportClosed :: (List.range count).map (format.due maxBytes []) := by
  rw [List.range_succ_eq_map,List.map_cons,List.map_map]
  rfl

theorem readLine_answers (format : LineFormat) (maxBytes : Nat) (line : ByteArray) :
    isTimedOut (format.readLine maxBytes line) = false := by
  cases said : format.readLine maxBytes line with
  | ok message => rfl
  | error e =>
    have malformed := (readLine_malformed said).1
    cases e with
    | timeout => cases malformed
    | _ => rfl

namespace LineReader

/-- The answers of a reader that holds `seen` of a line, timeouts left out, are those that
are due for the lines to come. -/
theorem Holds.answers {maxBytes : Nat} {seen : List UInt8} {reader : LineReader}
    (format : LineFormat) (held : Holds reader.maxBytes seen reader)
    (limit : reader.maxBytes = max maxBytes 1) (calm : reader.inner.Undisturbed)
    (calls : List (Option Nat)) :
    ∃ count, (reader.answers format calls).filter (!isTimedOut ·) =
        (List.range count).map (format.due maxBytes (wholeLines seen reader.inner.stream)) ∧
      calls.countP Option.isNone ≤ count + reader.inner.timeouts := by
  induction calls generalizing seen reader with
  | nil => exact ⟨0,rfl,Nat.zero_le _⟩
  | cons timeout calls ih =>
    obtain ⟨told,kept,later⟩ := held.readMessage format timeout
    simp only [LineReader.answers]
    generalize reader.readMessage format timeout = called at told kept later
    obtain ⟨result,next⟩ := called
    simp only at told kept later
    have fewer := later.timeouts
    have asked : (timeout :: calls).countP Option.isNone ≤ calls.countP Option.isNone + 1 := by
      rw [List.countP_cons]
      split <;> omega
    cases told with
    | @line front next begins absent unfinished overflowed =>
      have afresh := Holds.fresh unfinished overflowed
      obtain ⟨count,said,progress⟩ := ih afresh (kept.trans limit) (later.undisturbed calm)
      refine ⟨count + 1,?_,by omega⟩
      rw [begins,wholeLines_line absent,due_cons,← said,limit,← readLine_judged]
      simp [readLine_answers]
    | @cut taken next result begins held why =>
      have absent : newline ∉ taken := fun member => held.unended (by simp [member])
      rw [← kept] at held
      obtain ⟨count,said,progress⟩ := ih held (kept.trans limit) (later.undisturbed calm)
      rw [begins,wholeLines_open absent]
      cases why with
      | late untimed =>
        refine ⟨count,?_,?_⟩
        · rw [← said]
          cases timeout <;> rfl
        · cases timeout with
          | none =>
            have less := untimed rfl
            omega
          | some t => simpa using Nat.le_trans progress (by omega)
      | closed ended =>
        rw [ended calm] at said ⊢
        exact ⟨count + 1,by rw [wholeLines,due_nil,← wholeLines,← said]; rfl,by omega⟩
      | failed disturbed => exact absurd calm disturbed

/-- Line framing depends on the stream and the limit alone. However the stream is cut into
reads and however timeouts and signals interrupt them, the answers, timeouts left out, are
one for each whole line of the stream, in order, each what the line says if it is within
the limit and text, and then that the stream has ended; and a call that waits without limit
is answered so unless a read times out. In no state does the unfinished line exceed the
limit. -/
theorem line_framing_exact (format : LineFormat) (maxBytes : Nat) (source : LineSource) :
    (source.Undisturbed → ∀ calls : List (Option Nat), ∃ count,
      ((withLimit source maxBytes).answers format calls).filter (!isTimedOut ·) =
        (List.range count).map (format.due maxBytes (wholeLines [] source.stream)) ∧
      calls.countP Option.isNone ≤ count + source.timeouts) ∧
    ∀ reader, Reached format (withLimit source maxBytes) reader →
      reader.unfinished.length ≤ max maxBytes 1 := by
  have fresh : Holds (withLimit source maxBytes).maxBytes [] (withLimit source maxBytes) :=
    .fresh rfl rfl
  refine ⟨fun calm calls => fresh.answers format rfl calm calls,fun reader reached => ?_⟩
  obtain ⟨-,seen,held⟩ := reached.holds fresh
  exact held.bound

/-- A line of nine bytes and one of two, cut by a timeout inside each. -/
def interruptedLines : LineSource :=
  { buffer := [],
    reads := [.ok [97,97,97,97],.error ⟨.wouldBlock,""⟩,.ok [97,97,97,97],.ok [10,97],
      .error ⟨.timedOut,""⟩,.error ⟨.interrupted,""⟩,.ok [10,97]],
    now := 0, lapses := [], settings := [] }

theorem interruptedLines_undisturbed : interruptedLines.Undisturbed :=
  ⟨by decide,by simp [interruptedLines]⟩

theorem line_framing_exact_interrupted : ∃ count,
    ((withLimit interruptedLines 8).answers ⟨garbageFormat,fun _ => "1s"⟩
        [none,some 1,none,some 1,none]).filter (!isTimedOut ·) =
      (List.range count).map (LineFormat.due ⟨garbageFormat,fun _ => "1s"⟩ 8
        (wholeLines [] interruptedLines.stream)) ∧
    3 ≤ count + interruptedLines.timeouts :=
  (line_framing_exact ⟨garbageFormat,fun _ => "1s"⟩ 8 interruptedLines).1
    interruptedLines_undisturbed [none,some 1,none,some 1,none]

end LineReader

end SmlMcps
