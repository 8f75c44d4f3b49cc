import SmlMcps.Http1Chunked

/-! How a connection is cut into reads decides nothing about a head. Where the parser
answers about a prefix as it does about the whole, a run that meets no error, no deadline
and no early end accepts a head exactly when the head fits the limits, and leaves the
stream at the first byte of the body. -/
namespace SmlMcps.Http1

open Incremental (scan scan_settled scan_waits)

/-- Bytes that hold empty lines only, the last of which may still be open. -/
def onlyBlankLines : List UInt8 → Bool
  | [] | [13] => true
  | 13 :: 10 :: rest => onlyBlankLines rest
  | 10 :: rest => onlyBlankLines rest
  | _ => false

/-- What is assumed of the crate beside its grammar: a proper prefix of a head is partial,
and a head holds a request line, the empty lines before which are skipped. -/
structure Httparse.PrefixStable (crate : Httparse) : Prop where
  documented : crate.Documented
  waits {room length shorter : Nat} {bytes : List UInt8} {raw : RawRequest} :
    crate.parse room bytes = .complete length raw → shorter < length →
    crate.parse room (bytes.take shorter) = .incomplete
  requestLine {room length : Nat} {bytes : List UInt8} {raw : RawRequest} :
    crate.parse room bytes = .complete length raw → onlyBlankLines (bytes.take length) = false

/-! ## Empty lines before a request line -/

/-- Empty lines that have been counted are there whatever follows. -/
theorem blankLines_append (left : Nat) (bytes more : List UInt8) :
    blankLinesBeforeARequest left bytes ≤ blankLinesBeforeARequest left (bytes ++ more) := by
  fun_induction blankLinesBeforeARequest left bytes with
  | case1 => exact Nat.zero_le _
  | case2 left rest ih =>
    simp only [List.cons_append,blankLinesBeforeARequest]
    omega
  | case3 left rest ih =>
    simp only [List.cons_append,blankLinesBeforeARequest]
    omega
  | case4 => exact Nat.zero_le _

theorem blankLines_none {bytes : List UInt8} (ends : ∀ rest, bytes ≠ 13 :: 10 :: rest)
    (bare : ∀ rest, bytes ≠ 10 :: rest) (left : Nat) : blankLinesBeforeARequest left bytes = 0 := by
  fun_induction blankLinesBeforeARequest left bytes with
  | case1 | case4 => rfl
  | case2 left rest => exact absurd rfl (ends rest)
  | case3 left rest => exact absurd rfl (bare rest)

theorem blankLines_settled {bytes : List UInt8} (begun : onlyBlankLines bytes = false)
    (left : Nat) (more : List UInt8) :
    blankLinesBeforeARequest left (bytes ++ more) = blankLinesBeforeARequest left bytes := by
  fun_induction onlyBlankLines bytes generalizing left with
  | case1 => cases begun
  | case2 => cases begun
  | case3 rest ih =>
    cases left with
    | zero => rfl
    | succ left => simp only [List.cons_append,blankLinesBeforeARequest,ih begun]
  | case4 rest ih =>
    cases left with
    | zero => rfl
    | succ left => simp only [List.cons_append,blankLinesBeforeARequest,ih begun]
  | case5 bytes empty open' ends bare =>
    rw [blankLines_none ends bare]
    cases bytes with
    | nil => exact absurd rfl empty
    | cons first rest =>
      apply blankLines_none
      · rintro others same
        cases rest with
        | nil =>
          simp only [List.cons_append,List.cons.injEq] at same
          exact open' (by rw [same.1])
        | cons second rest =>
          simp only [List.cons_append,List.cons.injEq] at same
          exact ends rest (by rw [same.1,same.2.1])
      · rintro others same
        simp only [List.cons_append,List.cons.injEq] at same
        exact bare rest (by rw [same.1])

/-! ## A calm run -/

section
variable {crate : Httparse} {limits : Limits} {clock : Option Deadline} {wire : Wire}

theorem headPass_calm {armedAt : Nat} {retried : Bool}
    (calm : (headPass clock armedAt retried wire).calm = true) :
    (overdue clock wire).1 = false := by
  rw [← headPass_spent clock armedAt retried wire]
  exact Pass.calm_spent calm

theorem headPass_calm_empty {armedAt : Nat} {retried : Bool}
    (calm : (headPass clock armedAt retried wire).calm = true) {next : Wire}
    (filled : (overdue clock wire).2.fillBuf = (.ok [],next)) : wire.stream = [] := by
  rw [← Pass.calm_empty calm filled]
  exact Wire.stream_congr overdue_buffer.symm overdue_arriving.symm

/-- What a run must answer when `bytes` are a head that says `head`. -/
def Verdict (limits : Limits) (bytes rest : List UInt8) (head : Head)
    (result : Except Response (Option (Head × Deadline)) × Wire) : Prop :=
  if maxLeadingBlankLines < blankLinesBeforeARequest (maxLeadingBlankLines + 1) bytes then
    ∃ response, result.1 = .error response
  else if limits.maxHeadBytes < bytes.length then result.1 = .error tooLong
  else ∃ deadline, result.1 = .ok (some (head,deadline)) ∧ result.2.stream = rest

/-- The parser says nothing of a prefix of a head but that it is one. -/
theorem IsHead.prefix_incomplete (stable : crate.PrefixStable) {gathered more : List UInt8}
    {head : Head} (parsed : IsHead crate limits (gathered ++ more) head) (some : more ≠ []) :
    crate.parse limits.maxHeaders gathered = .incomplete := by
  obtain ⟨raw,complete,-⟩ := parsed
  have shorter : gathered.length < (gathered ++ more).length := by
    have positive := List.length_pos_iff.mpr some
    rw [List.length_append]
    omega
  simpa using stable.waits complete shorter

theorem IsHead.waits (stable : crate.PrefixStable) {taken gathered more : List UInt8}
    {head : Head} (parsed : IsHead crate limits (gathered ++ more) head) (some : more ≠ []) :
    askParser crate limits taken gathered = .incomplete := by
  rw [askParser,parsed.prefix_incomplete stable some,ite_self]

/-- Neither does it change its mind over what follows one. -/
theorem IsHead.settled (stable : crate.PrefixStable) {bytes : List UInt8} {head : Head}
    (parsed : IsHead crate limits bytes head) (more : List UInt8) :
    ∃ raw, crate.parse limits.maxHeaders (bytes ++ more) = .complete bytes.length raw ∧
      headFrom raw = .ok head := by
  obtain ⟨raw,complete,made⟩ := parsed
  exact ⟨raw,(stable.documented.settled _).append complete,made⟩

theorem IsHead.blankLines (stable : crate.PrefixStable) {bytes : List UInt8} {head : Head}
    (parsed : IsHead crate limits bytes head) (left : Nat) (more : List UInt8) :
    blankLinesBeforeARequest left (bytes ++ more) = blankLinesBeforeARequest left bytes := by
  obtain ⟨raw,complete,-⟩ := parsed
  have begun := stable.requestLine complete
  rw [List.take_length] at begun
  exact blankLines_settled begun left more

/-- A head ends with a newline, so the round that brings its last byte asks. -/
theorem IsHead.asked (stable : crate.PrefixStable) {raw taken more bytes : List UInt8}
    {head : Head} (parsed : IsHead crate limits bytes head) (unread : raw.length < bytes.length)
    (gathered : raw ++ taken = bytes ++ more) :
    ∃ said, askParser crate limits taken (raw ++ taken) = .complete bytes.length said ∧
      headFrom said = .ok head := by
  obtain ⟨said,complete,made⟩ := parsed.settled stable more
  have last := stable.documented.endsLine complete
  rw [← gathered,List.getElem?_append_right (by omega)] at last
  have ended : taken.contains lf = true := by
    rw [List.contains_iff_mem]
    exact List.mem_of_getElem? last
  refine ⟨said,?_,made⟩
  simp only [askParser,ended,if_true]
  rw [gathered]
  exact complete

/-- What has been gathered of a stream that begins with a head is a prefix of the head, or
the head and more. -/
theorem gathered_cases {gathered after bytes rest : List UInt8}
    (front : gathered ++ after = bytes ++ rest) :
    (gathered.length < bytes.length ∧ ∃ more, bytes = gathered ++ more ∧ more ≠ []) ∨
    (bytes.length ≤ gathered.length ∧ ∃ more, gathered = bytes ++ more) := by
  obtain ⟨more,longer,-⟩ | ⟨more,longer,-⟩ := List.append_eq_append_iff.mp front
  · cases more with
    | nil => exact .inr ⟨by simp [longer],[],by simpa using longer.symm⟩
    | cons byte others => exact .inl ⟨by simp [longer],byte :: others,longer,by simp⟩
  · exact .inr ⟨by simp [longer],more,longer⟩

/-- A calm run answers what the stream says. The bytes gathered so far are a proper prefix
of the head, so no round before the one that completes it is told more than to go on. -/
theorem readHead_calm (stable : crate.PrefixStable) {raw bytes rest : List UInt8}
    {consumed armedAt : Nat} {retried : Bool} {head : Head}
    (calm : (headPasses crate limits raw consumed clock armedAt retried wire).all Pass.calm = true)
    (counted : consumed = raw.length) (parsed : IsHead crate limits bytes head)
    (unread : raw.length < bytes.length) (begins : raw ++ wire.stream = bytes ++ rest) :
    Verdict limits bytes rest head (readHead crate limits raw consumed clock wire) := by
  fun_induction readHead crate limits raw consumed clock wire generalizing armedAt retried with
  | case1 raw consumed clock wire full =>
    have large : limits.maxHeadBytes < bytes.length := by omega
    simp only [Verdict,large,if_true]
    split
    · exact ⟨_,rfl⟩
    · trivial
  | case2 raw consumed clock wire full late =>
    rw [headPasses_cons (by omega),List.all_cons,Bool.and_eq_true] at calm
    rw [headPass_calm calm.1] at late
    cases late
  | case3 raw consumed clock wire full late middle filled again =>
    have moved := (overdue clock wire).2.fillBuf_stream
    rw [filled,Wire.stream_congr overdue_buffer overdue_arriving] at moved
    rw [headPasses_cons (by omega),if_neg late,filled,List.all_cons,Bool.and_eq_true] at calm
    exact again calm.2 counted unread (by rw [moved]; exact begins)
  | case4 raw consumed clock wire full late kind middle stops filled =>
    rw [headPasses_cons (by omega),List.all_cons,Bool.and_eq_true] at calm
    exact absurd (Pass.calm_error calm.1 filled) stops
  | case5 raw consumed clock wire full late middle filled =>
    rw [headPasses_cons (by omega),List.all_cons,Bool.and_eq_true] at calm
    rw [headPass_calm_empty calm.1 filled] at begins
    have length := congrArg List.length begins
    simp only [List.length_append,List.length_nil] at length
    omega
  | case6 raw consumed clock wire full late available middle filled present take gathered =>
    rename_i started blank
    have front : wire.stream = _ ++ (started.2.consume take).stream := round_front filled take
    rw [front,← List.append_assoc] at begins
    have counted := blankLines_append (maxLeadingBlankLines + 1) gathered
      (started.2.consume take).stream
    rw [begins,parsed.blankLines stable] at counted
    have many : maxLeadingBlankLines <
        blankLinesBeforeARequest (maxLeadingBlankLines + 1) bytes := by omega
    simp only [Verdict,many,if_true]
    exact ⟨_,rfl⟩
  | case7 raw consumed clock wire full late available middle filled present take gathered started
      blank length =>
    rename_i said asked
    subst counted
    have left := begins
    have front : wire.stream = _ ++ (started.2.consume take).stream := round_front filled take
    rw [front,← List.append_assoc] at begins
    obtain ⟨-,more,rfl,some⟩ | ⟨reached,more,whole⟩ := gathered_cases begins
    · rw [parsed.waits stable some] at asked
      cases asked
    obtain ⟨other,complete,made⟩ := parsed.asked stable unread whole
    cases asked.symm.trans complete
    simp only [List.length_append,List.length_take] at reached
    have few : ¬maxLeadingBlankLines <
        blankLinesBeforeARequest (maxLeadingBlankLines + 1) bytes := by
      rwa [← parsed.blankLines stable _ more,← whole]
    have small : ¬limits.maxHeadBytes < bytes.length := by omega
    simp only [Verdict,few,small,if_false,made]
    -- What is consumed of this round is what the head still lacked.
    refine ⟨started.1,rfl,?_⟩
    have front : wire.stream = _ ++ (started.2.consume (bytes.length - raw.length)).stream :=
      round_front filled _
    rw [front,← List.append_assoc] at left
    apply (List.append_inj left _).2
    simp only [List.length_append,List.length_take]
    omega
  | case8 raw consumed clock wire full late available middle filled present take gathered started
      blank =>
    rename_i e asked
    have front : wire.stream = _ ++ (started.2.consume take).stream := round_front filled take
    rw [front,← List.append_assoc] at begins
    obtain ⟨-,more,rfl,some⟩ | ⟨reached,more,whole⟩ := gathered_cases begins
    · rw [parsed.waits stable some] at asked
      cases asked
    · obtain ⟨other,complete,-⟩ := parsed.asked stable unread whole
      cases asked.symm.trans complete
  | case9 raw consumed clock wire full late available middle filled present take gathered started
      blank =>
    rename_i asked again
    have front : wire.stream = _ ++ (started.2.consume take).stream := round_front filled take
    rw [front,← List.append_assoc] at begins
    rw [headPasses_cons (by omega),if_neg late,filled,List.all_cons,Bool.and_eq_true] at calm
    simp only [present,if_false] at calm
    rw [if_neg blank,asked] at calm
    obtain ⟨unread,-⟩ | ⟨-,more,whole⟩ := gathered_cases begins
    · apply again calm.2 _ unread begins
      simp only [gathered,List.length_append,List.length_take,counted]
      omega
    · obtain ⟨other,complete,-⟩ := parsed.asked stable unread whole
      cases asked.symm.trans complete

/-- The head that reading a connection accepts, and what it leaves on the stream. -/
def Accepts (crate : Httparse) (limits : Limits) (wire : Wire) (head : Head)
    (rest : List UInt8) : Prop :=
  ∃ deadline next, readHead crate limits [] 0 none wire = (.ok (some (head,deadline)),next) ∧
    next.stream = rest

/-- No pass over the head meets an error, a deadline or an early end. -/
def CalmHead (crate : Httparse) (limits : Limits) (wire : Wire) : Prop :=
  (headPasses crate limits [] 0 none wire.now false wire).all Pass.calm = true

instance (crate : Httparse) (limits : Limits) (wire : Wire) :
    Decidable (CalmHead crate limits wire) := inferInstanceAs (Decidable (_ = true))

theorem calmHead_verdict (stable : crate.PrefixStable) (calm : CalmHead crate limits wire)
    {bytes rest : List UInt8} {head : Head} (begins : wire.stream = bytes ++ rest)
    (parsed : IsHead crate limits bytes head) :
    Verdict limits bytes rest head (readHead crate limits [] 0 none wire) := by
  have some := List.length_pos_iff.mpr (parsed.ne_nil stable.documented)
  exact readHead_calm stable calm rfl parsed some begins

/-- A calm run accepts the head its stream begins with, if that fits the limits. -/
theorem accepts_iff (stable : crate.PrefixStable) (calm : CalmHead crate limits wire)
    {head : Head} {rest : List UInt8} : Accepts crate limits wire head rest ↔
      ∃ bytes, wire.stream = bytes ++ rest ∧ IsHead crate limits bytes head ∧
        bytes.length ≤ limits.maxHeadBytes ∧
        blankLinesBeforeARequest (maxLeadingBlankLines + 1) bytes ≤ maxLeadingBlankLines := by
  constructor
  · rintro ⟨deadline,next,read,rfl⟩
    have begun := readHead_begun stable.documented limits wire
    rw [read] at begun
    cases begun with
    | accepted begins parsed =>
      rename_i bytes
      have verdict := calmHead_verdict stable calm begins parsed
      rw [read,Verdict] at verdict
      refine ⟨bytes,begins,parsed,?_⟩
      by_cases many : maxLeadingBlankLines <
          blankLinesBeforeARequest (maxLeadingBlankLines + 1) bytes
      · rw [if_pos many] at verdict
        obtain ⟨response,refused⟩ := verdict
        cases refused
      by_cases large : limits.maxHeadBytes < bytes.length
      · rw [if_neg many,if_pos large] at verdict
        cases verdict
      exact ⟨by omega,by omega⟩
  · rintro ⟨bytes,begins,parsed,small,few⟩
    have verdict := calmHead_verdict stable calm begins parsed
    rw [Verdict,if_neg (by omega),if_neg (by omega)] at verdict
    obtain ⟨deadline,accepted,after⟩ := verdict
    exact ⟨deadline,_,Prod.ext accepted rfl,after⟩

/-- Two connections that carry the same bytes, cut into reads in any two ways: neither
accepts a head that the other does not, and an accepted head leaves both streams at the
same byte. A head that is otherwise acceptable is accepted up to the limit and refused
beyond it. -/
theorem head_cuts_decide_nothing (stable : crate.PrefixStable) (limits : Limits)
    {left right : Wire} (same : left.stream = right.stream) (calm : CalmHead crate limits left)
    (calm' : CalmHead crate limits right) :
    (∀ head rest, Accepts crate limits left head rest ↔ Accepts crate limits right head rest) ∧
    ∀ bytes rest head, left.stream = bytes ++ rest → IsHead crate limits bytes head →
      blankLinesBeforeARequest (maxLeadingBlankLines + 1) bytes ≤ maxLeadingBlankLines →
      (bytes.length ≤ limits.maxHeadBytes → Accepts crate limits left head rest) ∧
      (limits.maxHeadBytes < bytes.length →
        (readHead crate limits [] 0 none left).1 = .error tooLong) := by
  refine ⟨fun head rest => ?_,fun bytes rest head begins parsed few => ⟨fun small => ?_,?_⟩⟩
  · rw [accepts_iff stable calm,accepts_iff stable calm',same]
  · exact (accepts_iff stable calm).mpr ⟨bytes,begins,parsed,small,few⟩
  · intro large
    have verdict := calmHead_verdict stable calm begins parsed
    rwa [Verdict,if_neg (by omega),if_pos large] at verdict

end

/-! ## The plain parser is prefix-stable -/

theorem scan_onlyBlankLines {bytes : List UInt8} (blank : onlyBlankLines bytes = true) :
    scan HeadScan.next .blank bytes = none := by
  fun_induction onlyBlankLines bytes with
  | case1 => rfl
  | case2 => rfl
  | case3 rest ih =>
    simpa [scan,HeadScan.next,cr,lf] using ih blank
  | case4 rest ih =>
    simpa [scan,HeadScan.next,lf] using ih blank
  | case5 => cases blank

theorem plain_prefixStable : plain.PrefixStable where
  documented := plain_documented
  waits parsed early := by
    simp only [plain,plainParse,scan_waits (plainParse_complete parsed).1 early]
  requestLine {room length bytes raw} parsed := by
    have found : scan HeadScan.next .blank (bytes.take length) = some length :=
      scan_settled (plainParse_complete parsed).1 (by rw [List.take_take,Nat.min_self])
    by_contra blank
    rw [Bool.not_eq_false] at blank
    rw [scan_onlyBlankLines blank] at found
    cases found

def afterBlankLine : List UInt8 := asBytes "\r\nGET / HTTP/1.1\r\nHost: a\r\n\r\nGET"

def cutAs (reads : List (List UInt8)) : Wire :=
  { buffer := [], arriving := reads.map fun bytes => ⟨0,.ok bytes⟩, armed := 0, writeArmed := 0,
    now := 0, lapses := [], latest := 2^63, deliveries := [], sent := [] }

theorem head_cuts_decide_nothing_pipelined :
    Accepts plain { maxHeadBytes := 29 } (cutAs [afterBlankLine])
        ⟨.get,"/",.http11,[("Host","a")],.empty,false,false⟩ (asBytes "GET") ↔
      Accepts plain { maxHeadBytes := 29 }
        (cutAs [afterBlankLine.take 1,(afterBlankLine.drop 1).take 26,afterBlankLine.drop 27])
        ⟨.get,"/",.http11,[("Host","a")],.empty,false,false⟩ (asBytes "GET") :=
  (head_cuts_decide_nothing plain_prefixStable _ (by decide +kernel)
    (by decide +kernel) (by decide +kernel)).1 _ _

end SmlMcps.Http1
