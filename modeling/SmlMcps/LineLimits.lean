import SmlMcps.LineFraming

/-! The limit of a reader changed between its calls. A new limit takes effect at once: a
line that is half read when it comes is judged by it, not by the limit its first bytes
were read under. -/
namespace SmlMcps.LineReader

inductive Call where
  | readMessage (timeout : Option Nat)
  | setLimit (maxBytes : Nat)
  deriving DecidableEq, Repr

/-- A whole line, the limit that was in force when its first byte was taken, and what the
reader answered for it. -/
structure Judgement where
  line : List UInt8
  limit : Nat
  result : Except McpError JsonRpcMessage
  deriving DecidableEq

def Judgement.Fair (format : LineFormat) (judgement : Judgement) : Prop :=
  ∃ stated, judgement.result = format.judged judgement.limit stated judgement.line

section
variable (format : LineFormat)

def takenBy (timeout : Option Nat) (reader : LineReader) : List UInt8 :=
  reader.inner.stream.take (reader.inner.stream.length -
    (reader.readMessage format timeout).2.inner.stream.length)

/-- What becomes of each line in a run. `seen` is what was taken of a line in progress, and
`judge` the limit that was in force when its first byte was. -/
def judgements : List Call → (seen : List UInt8) → (judge : Nat) → LineReader → List Judgement
  | [], _, _, _ => []
  | .setLimit maxBytes :: calls, seen, judge, reader =>
    judgements calls seen judge (reader.setLimit maxBytes)
  | .readMessage timeout :: calls, seen, judge, reader =>
    let judge := if seen = [] then reader.maxBytes else judge
    let seen := seen ++ takenBy format timeout reader
    let (result,next) := reader.readMessage format timeout
    if seen.getLast? = some newline then
      ⟨seen,judge,result⟩ :: judgements calls [] judge next
    else judgements calls seen judge next

/-- Nothing of a line is kept, or the two limits agree on every line that goes on from what
is: they are the same, or neither allows another byte. -/
def Harmless (maxBytes : Nat) (reader : LineReader) : Prop :=
  reader.unfinished = [] ∨
    max reader.maxBytes reader.unfinished.length = max (max maxBytes 1) reader.unfinished.length

def Careful : List Call → LineReader → Prop
  | [], _ => True
  | .setLimit maxBytes :: calls, reader =>
    reader.Harmless maxBytes ∧ Careful calls (reader.setLimit maxBytes)
  | .readMessage timeout :: calls, reader => Careful calls (reader.readMessage format timeout).2

end

section
variable {format : LineFormat} {judge maxBytes : Nat} {seen : List UInt8} {reader : LineReader}

/-- A harmless change leaves a line in progress to the judgement it was under. -/
theorem Holds.setLimit (held : Holds judge seen reader) (present : seen ≠ [])
    (harmless : reader.Harmless maxBytes) : Holds judge seen (reader.setLimit maxBytes) := by
  refine ⟨held.unended,held.overflowed,held.unfinished,fun small => ?_⟩
  have kept : reader.unfinished = seen := by rw [held.unfinished,if_neg (by omega)]
  have before := held.limit small
  rcases harmless with none | agrees
  · exact absurd (kept.symm.trans none) present
  · rw [kept] at agrees
    exact before.trans agrees

def Watched (judge : Nat) (seen : List UInt8) (reader : LineReader) : Prop :=
  Holds (if seen = [] then reader.maxBytes else judge) seen reader

theorem Watched.setLimit (held : Watched judge seen reader)
    (harmless : reader.Harmless maxBytes) : Watched judge seen (reader.setLimit maxBytes) := by
  by_cases none : seen = []
  · subst none
    simp only [Watched,if_true] at held ⊢
    refine .fresh ?_ ?_
    · simpa [LineReader.setLimit] using held.unfinished
    · simpa [LineReader.setLimit] using held.overflowed
  · simp only [Watched,none,if_false] at held ⊢
    exact held.setLimit none harmless

theorem takenBy_eq {timeout : Option Nat} {taken : List UInt8}
    (begins : reader.inner.stream =
      taken ++ (reader.readMessage format timeout).2.inner.stream) :
    takenBy format timeout reader = taken := by
  rw [takenBy,begins]
  simp

theorem Watched.fair (format : LineFormat) (calls : List Call) (held : Watched judge seen reader)
    (careful : Careful format calls reader) :
    ∀ judgement ∈ judgements format calls seen judge reader, judgement.Fair format := by
  induction calls generalizing judge seen reader with
  | nil => simp [judgements]
  | cons call calls ih =>
    cases call with
    | setLimit maxBytes => exact ih (held.setLimit careful.1) careful.2
    | readMessage timeout =>
      obtain ⟨told,kept,-⟩ := Holds.readMessage format timeout held
      rcases called : reader.readMessage format timeout with ⟨result,next⟩
      simp only [Careful,called] at told kept careful
      simp only [judgements,called]
      cases told with
      | @line front next begins absent unfinished overflowed =>
        have taken : takenBy format timeout reader = front ++ [newline] :=
          takenBy_eq (by rw [called,begins]; simp)
        have afresh : Watched (if seen = [] then reader.maxBytes else judge) [] next := by
          simpa [Watched] using Holds.fresh unfinished overflowed
        rw [taken,← List.append_assoc,List.getLast?_concat,if_pos rfl]
        intro judgement member
        rcases List.mem_cons.mp member with rfl | later
        · exact ⟨_,rfl⟩
        · exact ih afresh careful judgement later
      | @cut taken next result begins rest why =>
        have same : takenBy format timeout reader = taken := takenBy_eq (by rw [called,begins])
        have open' : (seen ++ taken).getLast? ≠ some newline :=
          fun last => rest.unended (List.mem_of_getLast? last)
        rw [same,if_neg open']
        refine ih ?_ careful
        by_cases none : seen ++ taken = []
        · simp only [Watched,none,if_true]
          simp only [List.append_eq_nil_iff] at none
          simpa [none.1,none.2,kept] using rest
        · simpa only [Watched,none,if_false] using rest

/-- A line that is half read when the limit is changed is judged by the new limit, whatever
it began under. -/
theorem harmful_limit_misjudges (format : LineFormat) (held : Holds judge seen reader)
    (small : seen.length ≤ judge) (harmful : ¬reader.Harmless maxBytes) :
    ∃ more inner, newline ∉ more ∧ inner.stream = more ++ [newline] ∧
      (({ reader.setLimit maxBytes with inner } : LineReader).readMessage format none).1 =
        format.judged (max maxBytes 1) (max maxBytes 1) (seen ++ more ++ [newline]) ∧
      ((seen ++ more ++ [newline]).length ≤ judge ↔
        ¬(seen ++ more ++ [newline]).length ≤ max maxBytes 1) := by
  have limit := held.limit small
  have kept : reader.unfinished = seen := by rw [held.unfinished,if_neg (by omega)]
  have apart : max judge seen.length ≠ max (max maxBytes 1) seen.length := by
    rw [limit,← kept]
    exact fun agrees => harmful (.inr agrees)
  -- The shortest line that goes on from `seen` and that only one of the limits allows.
  let more := List.replicate
    (min (max judge seen.length) (max (max maxBytes 1) seen.length) - seen.length) (97 : UInt8)
  have absent : newline ∉ more := fun member => by
    have other := List.eq_of_mem_replicate member
    cases other
  have length : (seen ++ more ++ [newline]).length =
      min (max judge seen.length) (max (max maxBytes 1) seen.length) + 1 := by
    simp only [List.length_append,List.length_singleton,more,List.length_replicate]
    omega
  let inner : LineSource :=
    { buffer := more ++ [newline], reads := [], now := 0, lapses := [], settings := [] }
  have calm : inner.Undisturbed := ⟨by simp [inner],by simp [inner]⟩
  have stream : inner.stream = more ++ [newline] := by simp [inner,LineSource.stream]
  have now : Holds (max (max maxBytes 1) seen.length) seen
      { reader.setLimit maxBytes with inner } := by
    refine ⟨held.unended,?_,?_,fun _ => ?_⟩
    · rw [show decide (max (max maxBytes 1) seen.length < seen.length) = false by
        simp]
      exact held.overflowed.trans (by simpa using small)
    · rw [if_neg (by omega)]
      exact kept
    · simp [LineReader.setLimit]
  refine ⟨more,inner,absent,stream,?_,by omega⟩
  obtain ⟨told,-⟩ := now.readMessage format none
  generalize LineReader.readMessage format none _ = called at told
  obtain ⟨result,next⟩ := called
  simp only at told ⊢
  cases told with
  | @line front next begins absent' unfinished overflowed =>
    simp only [stream] at begins
    obtain ⟨rfl,-⟩ := Marks.unique absent absent' begins
    have same : max (max maxBytes 1) seen.length < (seen ++ more ++ [newline]).length ↔
        max maxBytes 1 < (seen ++ more ++ [newline]).length := by
      simp only [List.length_append,List.length_singleton]
      omega
    simp only [LineFormat.judged,same]
    rfl
  | @cut taken next result begins rest why =>
    have open' : newline ∉ taken := fun member => rest.unended (by simp [member])
    cases why with
    | late untimed =>
      have less := untimed rfl
      simp [inner,LineSource.timeouts] at less
    | closed ended =>
      simp only [stream,ended calm,List.append_nil] at begins
      exact absurd (by rw [← begins]; simp) open'
    | failed disturbed => exact absurd calm disturbed

/-- In every run on every source: if no change of the limit is made while a part of a line
is kept, or it is one that agrees with the limit before it on every line that goes on from
that part, each line is accepted or refused by the limit that was in force when its first
byte was taken. -/
theorem judged_by_first_limit (format : LineFormat) (maxBytes : Nat) (source : LineSource)
    (calls : List Call) (careful : Careful format calls (withLimit source maxBytes)) :
    ∀ judgement ∈ judgements format calls [] 0 (withLimit source maxBytes),
      judgement.Fair format := by
  have fresh : Holds (withLimit source maxBytes).maxBytes [] (withLimit source maxBytes) :=
    .fresh rfl rfl
  have watched : Watched 0 [] (withLimit source maxBytes) := by simpa [Watched] using fresh
  exact watched.fair format calls careful

def halfRead : LineSource :=
  { buffer := [], reads := [.ok [97,97,97,97],.error ⟨.wouldBlock,""⟩,.ok [97,10,98,98,10]],
    now := 0, lapses := [], settings := [] }

/-- Lowered within a line that has no room left, and between two lines. -/
theorem judged_by_first_limit_between :
    Judgement.Fair ⟨garbageFormat,fun _ => "1s"⟩ ⟨[97,97,97,97,97,10],4,.error (exceeds 3)⟩ :=
  judged_by_first_limit ⟨garbageFormat,fun _ => "1s"⟩ 4 halfRead
    [.readMessage none,.setLimit 3,.readMessage none,.setLimit 2,.readMessage none]
    (by simp only [Careful,Harmless]; decide +kernel) _ (by decide +kernel)

/-- A line of six bytes begun under a limit of a hundred is refused when the limit is
lowered to four in the middle of it. -/
theorem half_read_line_rejudged : ∃ judgement ∈
    judgements ⟨garbageFormat,fun _ => "1s"⟩
      [.readMessage none,.setLimit 4,.readMessage none] [] 0 (withLimit halfRead 100),
    ¬judgement.Fair ⟨garbageFormat,fun _ => "1s"⟩ := by
  refine ⟨⟨[97,97,97,97,97,10],100,.error (exceeds 4)⟩,by decide +kernel,?_⟩
  rintro ⟨stated,fair⟩
  rw [LineFormat.judged,if_neg (by decide)] at fair
  exact absurd fair (by decide +kernel)

end

end SmlMcps.LineReader
