import SmlMcps.Http1Passes
import SmlMcps.Http1Plain
import SmlMcps.Library.Marks

/-! What a chunked body is, byte by byte, and that the decoder takes exactly that: over
every cutting of the stream into reads it succeeds on the streams that begin with such a
body, it returns the payload, and it stops at the byte after the body. What it takes of
any other stream is bounded by the limit alone. -/
namespace SmlMcps.Http1

/-! ## The grammar -/

/-- A byte that framing may hold: no control character but the tab. -/
def permittedByte (b : UInt8) : Bool := b == 9 || (0x20 ≤ b && b < 0x7f) || 0x80 ≤ b

/-- A line of framing, without its CRLF: short, and permitted text. -/
structure FramingLine (line : List UInt8) : Prop where
  short : line.length + crlf.length ≤ chunkLineBytes
  permitted : line.all permittedByte = true
  text : ∃ text, asBytes text = line

/-- A size line: it opens with a hex digit, and the crate reads `size` from it. The crate
answers with a 64-bit integer. -/
structure SizeLine (crate : Httparse) (line : List UInt8) (size : Nat) : Prop where
  framing : FramingLine line
  opens : line.head?.any isHexDigit = true
  accepted : ∃ read, crate.parseChunkSize (line ++ crlf) = .complete read size
  range : size < 2^64

/-- A chunk is its size line and its data. -/
def chunkBytes (chunk : List UInt8 × List UInt8) : List UInt8 :=
  chunk.1 ++ crlf ++ chunk.2 ++ crlf

/-- `bytes` are a chunked body of at most `limit` bytes of payload. -/
def WellChunked (crate : Httparse) (limit : Nat) (bytes payload : List UInt8) : Prop :=
  ∃ (chunks : List (List UInt8 × List UInt8)) (last : List UInt8) (fields : List (List UInt8)),
    bytes = chunks.flatMap chunkBytes ++ (last ++ crlf) ++ fields.flatMap (· ++ crlf) ++ crlf ∧
    payload = chunks.flatMap Prod.snd ∧ payload.length ≤ limit ∧
    (∀ chunk ∈ chunks, chunk.2 ≠ [] ∧ SizeLine crate chunk.1 chunk.2.length) ∧
    SizeLine crate last 0 ∧
    fields.length ≤ maxTrailers ∧ ∀ field ∈ fields, field ≠ [] ∧ FramingLine field

/-- A pass that met no error, no deadline, and no end of input but that of the stream. -/
def Pass.calm (pass : Pass) : Bool :=
  !pass.spent && match pass.outcome with
    | .error kind => kind == .interrupted
    | .ok bytes => !bytes.isEmpty || pass.wire.stream.isEmpty

/-! ## Text -/

theorem fromUtf8_asBytes (text : String) : fromUtf8 (asBytes text) = some text := by
  have bytes : (⟨(asBytes text).toArray⟩ : ByteArray) = text.toByteArray := by
    simp [asBytes]
  rw [fromUtf8,bytes,String.fromUTF8?,dif_pos text.isValidUTF8]
  rfl

theorem Unbroken.of_permitted {line : List UInt8} (permitted : line.all permittedByte = true) :
    Unbroken line := by
  have absent : ∀ {b : UInt8}, permittedByte b = false → b ∉ line := by
    intro b refused member
    have allowed := List.all_eq_true.mp permitted b member
    rw [refused] at allowed
    cases allowed
  exact ⟨absent (by decide),absent (by decide)⟩

/-- A permitted line with its CRLF says its text. -/
theorem lineOf_permitted {text : String} (permitted : (asBytes text).all permittedByte = true) :
    lineOf (asBytes text ++ crlf) true = .text text true := by
  have ends : (asBytes text ++ crlf).dropLast = asBytes text ++ [cr] := by
    simp [crlf]
  have present : asBytes text ++ crlf ≠ [] := by simp [crlf]
  simp only [lineOf,present,if_false,Bool.not_true,Bool.false_eq_true,ends,
    List.dropLast_concat,List.getLast?_concat,beq_self_eq_true,if_true,fromUtf8_asBytes]
  exact if_pos permitted

/-- What a line that was accepted holds. -/
theorem lineOf_framing {raw : List UInt8} {terminated : Bool} {text : String}
    (line : lineOf raw terminated = .text text true) :
    (asBytes text).all permittedByte = true := by
  obtain ⟨rfl,body,-⟩ := lineOf_text line
  have present : raw ≠ [] := by
    rintro rfl
    simp at body
  simp only [lineOf,present,if_false,Bool.not_true,Bool.false_eq_true,body,
    List.dropLast_concat,List.getLast?_concat,beq_self_eq_true,if_true,fromUtf8_asBytes] at line
  by_contra refused
  have other := line.symm.trans (if_neg refused)
  cases other

/-! ## A calm run -/

namespace Pass

variable {pass : Pass} {next : Wire}

theorem calm_spent (calm : pass.calm = true) : pass.spent = false := by
  simp only [Pass.calm,Bool.and_eq_true,Bool.not_eq_true'] at calm
  exact calm.1

/-- The only error of a calm pass is a signal. -/
theorem calm_error (calm : pass.calm = true) {kind : ErrorKind}
    (filled : pass.wire.fillBuf = (.error kind,next)) : kind = .interrupted := by
  simp only [Pass.calm,Pass.outcome,filled,Bool.and_eq_true,beq_iff_eq] at calm
  exact calm.2

/-- It meets no end but that of the stream. -/
theorem calm_empty (calm : pass.calm = true) (filled : pass.wire.fillBuf = (.ok [],next)) :
    pass.wire.stream = [] := by
  simp only [Pass.calm,Pass.outcome,filled,Bool.and_eq_true,List.isEmpty_nil,Bool.not_true,
    Bool.false_or,List.isEmpty_iff] at calm
  exact calm.2

end Pass

section
variable {deadline : Deadline} {wire next : Wire}

theorem fill_of_calm (calm : (deadline.pass wire).calm = true) :
    deadline.fill wire = (deadline.pass wire).wire.fillBuf := by
  rw [deadline.fill_pass wire,Pass.calm_spent calm,if_neg Bool.false_ne_true]

theorem fill_calm_error (calm : (deadline.pass wire).calm = true) {kind : ErrorKind}
    (filled : deadline.fill wire = (.error kind,next)) : kind = .interrupted := by
  rw [fill_of_calm calm] at filled
  exact Pass.calm_error calm filled

theorem fill_calm_empty (calm : (deadline.pass wire).calm = true)
    (filled : deadline.fill wire = (.ok [],next)) : wire.stream = [] := by
  rw [fill_of_calm calm] at filled
  rw [← Pass.calm_empty calm filled]
  exact Wire.stream_congr (by simp [Deadline.pass]) (by simp [Deadline.pass])

end

/-! ## How much is taken -/

/-- At most `bound` bytes were taken off the stream. -/
def Wire.Takes (bound : Nat) (wire next : Wire) : Prop :=
  ∃ taken, wire.stream = taken ++ next.stream ∧ taken.length ≤ bound

namespace Wire.Takes

variable {wire middle next : Wire} {bound more : Nat}

theorem none (same : wire.stream = next.stream) : Wire.Takes bound wire next :=
  ⟨[],same,Nat.zero_le _⟩

theorem trans (first : Wire.Takes bound wire middle) (second : Wire.Takes more middle next) :
    Wire.Takes (bound + more) wire next := by
  obtain ⟨taken,front,short⟩ := first
  obtain ⟨others,rest,short'⟩ := second
  refine ⟨taken ++ others,by rw [front,rest,List.append_assoc],?_⟩
  rw [List.length_append]
  omega

theorem mono (takes : Wire.Takes bound wire next) (larger : bound ≤ more) :
    Wire.Takes more wire next := by
  obtain ⟨taken,front,short⟩ := takes
  exact ⟨taken,front,Nat.le_trans short larger⟩

end Wire.Takes

section
variable {deadline : Deadline}

theorem fill_takes (deadline : Deadline) (wire : Wire) :
    Wire.Takes 0 wire (deadline.fill wire).2 := .none (deadline.fill_stream wire).symm

theorem consume_takes {wire next : Wire} {available : List UInt8}
    (filled : deadline.fill wire = (.ok available,next)) (count : Nat) :
    Wire.Takes count wire (next.consume count) :=
  ⟨available.take count,Deadline.fill_front filled count,List.length_take_le _ _⟩

theorem readExactly_takes (outstanding : Nat) (into : List UInt8) (deadline : Deadline)
    (wire : Wire) : Wire.Takes outstanding wire (readExactly outstanding into deadline wire).2 := by
  fun_induction readExactly outstanding into deadline wire with
  | case1 => exact .none rfl
  | case2 outstanding into wire more middle filled again =>
    have waited := fill_takes deadline wire
    rw [filled] at waited
    exact (waited.trans again).mono (by omega)
  | case3 outstanding into wire more kind middle stops filled =>
    have waited := fill_takes deadline wire
    rw [filled] at waited
    exact waited.mono (Nat.zero_le _)
  | case4 outstanding into wire more middle filled =>
    have waited := fill_takes deadline wire
    rw [filled] at waited
    exact waited.mono (Nat.zero_le _)
  | case5 outstanding into wire more available middle filled present take again =>
    apply ((consume_takes filled take).trans again).mono
    omega

theorem readLineBytes_takes (budget : Nat) (raw : List UInt8) (deadline : Deadline)
    (wire : Wire) : Wire.Takes budget wire (readLineBytes budget raw deadline wire).2 := by
  fun_induction readLineBytes budget raw deadline wire with
  | case1 budget raw wire middle filled again =>
    have waited := fill_takes deadline wire
    rw [filled] at waited
    exact (waited.trans again).mono (by omega)
  | case2 budget raw wire kind middle stops filled =>
    have waited := fill_takes deadline wire
    rw [filled] at waited
    exact waited.mono (Nat.zero_le _)
  | case3 budget raw wire middle filled =>
    have waited := fill_takes deadline wire
    rw [filled] at waited
    exact waited.mono (Nat.zero_le _)
  | case4 budget raw wire available middle filled present take grown last =>
    apply (consume_takes filled take).mono
    exact Nat.le_trans (lineTake_cases available budget).1 (Nat.min_le_right _ _)
  | case5 budget raw wire available middle filled present take grown last full =>
    apply (consume_takes filled take).mono
    exact Nat.le_trans (lineTake_cases available budget).1 (Nat.min_le_right _ _)
  | case6 budget raw wire available middle filled present take grown last room again =>
    have some : take ≤ min available.length budget := (lineTake_cases available budget).1
    apply ((consume_takes filled take).trans again).mono
    omega

theorem readLine_takes (budget : Nat) (deadline : Deadline) (wire : Wire) :
    Wire.Takes budget wire (readLine budget deadline wire).2 := by
  have bytes := readLineBytes_takes budget [] deadline wire
  by_cases nothing : budget = 0
  · simp only [readLine,nothing,if_true]
    exact .none rfl
  · simp only [readLine,nothing,if_false]
    rcases read : readLineBytes budget [] deadline wire with ⟨_ | ⟨raw,terminated⟩,next⟩
    · rw [read] at bytes
      exact bytes
    · rw [read] at bytes
      exact bytes

theorem readTrailers_takes (left : Nat) (deadline : Deadline) (wire : Wire) :
    Wire.Takes (left * chunkLineBytes) wire (readTrailers left deadline wire).2 := by
  induction left generalizing wire with
  | zero => exact .none rfl
  | succ left ih =>
    have line := readLine_takes chunkLineBytes deadline wire
    rcases taken : readLine chunkLineBytes deadline wire with ⟨outcome,middle⟩
    rw [taken] at line
    rw [Nat.succ_mul,Nat.add_comm]
    rcases said : trailerLine outcome with e | _ | _
    · simp only [readTrailers,taken,said]
      exact line.mono (Nat.le_add_right _ _)
    · simp only [readTrailers,taken,said]
      exact line.trans (ih middle)
    · simp only [readTrailers,taken,said]
      exact line.mono (Nat.le_add_right _ _)

theorem readChunkSize_takes {crate : Httparse} {wire next : Wire} {outcome : Except BodyError Nat}
    (read : readChunkSize crate deadline wire = (outcome,next)) :
    Wire.Takes chunkLineBytes wire next := by
  have line : Wire.Takes _ _ (readChunkSize crate deadline wire).2 :=
    readLine_takes chunkLineBytes deadline wire
  rwa [read] at line

theorem readChunkEnd_takes {wire next : Wire} {outcome : Except BodyError Unit}
    (read : readChunkEnd deadline wire = (outcome,next)) : Wire.Takes 2 wire next := by
  have line : Wire.Takes _ _ (readChunkEnd deadline wire).2 := readLine_takes 2 deadline wire
  rwa [read] at line

/-- What a decoder with room for `room` more bytes may take: each chunk costs a size line
and two bytes beside its data, and at most a size line and the trailers end it. -/
def chunkedBound (room : Nat) : Nat :=
  room * (chunkLineBytes + 3) + chunkLineBytes + (maxTrailers + 1) * chunkLineBytes

/-- On every stream and in every run, the decoder stops after that much. -/
theorem readChunked_takes (crate : Httparse) (limit : Nat) (deadline : Deadline)
    (body : List UInt8) (wire : Wire) :
    Wire.Takes (chunkedBound (limit - body.length)) wire
      (readChunked crate limit deadline body wire).2 := by
  fun_induction readChunked crate limit deadline body wire with
  | case1 body wire e middle sized =>
    apply (readChunkSize_takes sized).mono
    simp only [chunkedBound]
    omega
  | case2 body wire afterSize e middle trailers sized =>
    have fields := readTrailers_takes (maxTrailers + 1) deadline afterSize
    rw [trailers] at fields
    apply ((readChunkSize_takes sized).trans fields).mono
    simp only [chunkedBound]
    omega
  | case3 body wire afterSize middle trailers sized =>
    have fields := readTrailers_takes (maxTrailers + 1) deadline afterSize
    rw [trailers] at fields
    apply ((readChunkSize_takes sized).trans fields).mono
    simp only [chunkedBound]
    omega
  | case4 body wire size afterSize sized present large =>
    apply (readChunkSize_takes sized).mono
    simp only [chunkedBound]
    omega
  | case5 body wire size afterSize sized present room e middle data =>
    have taken := readExactly_takes size body deadline afterSize
    rw [data] at taken
    apply ((readChunkSize_takes sized).trans taken).mono
    simp only [chunkedBound,chunkLineBytes]
    omega
  | case6 body wire size afterSize sized present room grown afterData data e middle ended =>
    have taken := readExactly_takes size body deadline afterSize
    rw [data] at taken
    apply (((readChunkSize_takes sized).trans taken).trans (readChunkEnd_takes ended)).mono
    simp only [chunkedBound,chunkLineBytes]
    omega
  | case7 body wire size afterSize sized present room grown afterData data middle ended again =>
    -- A chunk is not empty, so the room it leaves pays for its lines.
    have taken := readExactly_takes size body deadline afterSize
    obtain ⟨more,length,rfl,-⟩ := readExactly_ok data
    rw [data] at taken
    apply ((((readChunkSize_takes sized).trans taken).trans (readChunkEnd_takes ended)).trans
      again).mono
    simp only [chunkedBound,chunkLineBytes,List.length_append,length]
    omega

end

/-! ## What a line says -/

section
variable {deadline : Deadline} {wire next : Wire} {budget : Nat}

/-- A line of framing that was accepted is on the stream, short enough and permitted. -/
theorem readLine_framing {text : String}
    (read : readLine budget deadline wire = (.ok (.text text true),next)) :
    wire.stream = asBytes text ++ crlf ++ next.stream ∧
      (asBytes text).length + crlf.length ≤ budget ∧
      (asBytes text).all permittedByte = true := by
  obtain ⟨front,-⟩ := readLine_text read
  have bounded := readLine_takes budget deadline wire
  rw [read] at bounded
  obtain ⟨taken,begins,short⟩ := bounded
  refine ⟨front,?_,?_⟩
  · have whole : asBytes text ++ crlf = taken := List.append_cancel_right (front.symm.trans begins)
    rwa [← List.length_append,whole]
  · by_cases spent : budget = 0
    · simp [readLine,spent] at read
    · simp only [readLine,spent,if_false] at read
      rcases bytes : readLineBytes budget [] deadline wire with ⟨_ | ⟨raw,terminated⟩,after⟩
      · simp [bytes] at read
      · simp only [bytes,Prod.mk.injEq,Except.ok.injEq] at read
        exact lineOf_framing read.1

/-- In a calm run a line of at most `budget` bytes is found. -/
theorem readLineBytes_calm {raw line rest : List UInt8}
    (calm : (lineBytesPasses budget raw deadline wire).all Pass.calm = true) (unended : lf ∉ raw)
    (absent : lf ∉ line) (short : line.length + 1 ≤ budget)
    (begins : wire.stream = line ++ lf :: rest) :
    ∃ next, readLineBytes budget raw deadline wire = (.ok (raw ++ line ++ [lf],true),next) ∧
      next.stream = rest := by
  fun_induction readLineBytes budget raw deadline wire generalizing line with
  | case1 budget raw wire middle filled again =>
    have kept : middle.stream = wire.stream := by simpa [filled] using deadline.fill_stream wire
    rw [lineBytesPasses_cons,filled,List.all_cons,Bool.and_eq_true] at calm
    exact again calm.2 unended absent short (kept.trans begins)
  | case2 budget raw wire kind middle stops filled =>
    rw [lineBytesPasses_cons,List.all_cons,Bool.and_eq_true] at calm
    exact absurd (fill_calm_error calm.1 filled) stops
  | case3 budget raw wire middle filled =>
    rw [lineBytesPasses_cons,List.all_cons,Bool.and_eq_true] at calm
    rw [fill_calm_empty calm.1 filled] at begins
    simp at begins
  | case4 budget raw wire available middle filled present take grown =>
    rename_i last
    have front := Deadline.fill_front filled take
    obtain ⟨-,⟨before,ends,first⟩ | ⟨-,none⟩⟩ := lineTake_cases available budget
    · change available.take take = before ++ [lf] at ends
      rw [begins,ends,List.append_assoc] at front
      obtain ⟨rfl,rfl⟩ := Marks.unique absent first front
      exact ⟨middle.consume take,by simp [grown,ends],rfl⟩
    · have unmarked : lf ∉ grown := by simp [grown,take,unended,none]
      exact absurd (List.mem_of_getLast? last) unmarked
  | case5 budget raw wire available middle filled present take grown last =>
    have front := Deadline.fill_front filled take
    have none : lf ∉ grown := (grown_line available budget unended).2 last
    obtain ⟨more,rfl,-⟩ := Marks.later (fun member => none (by simp [grown,member]))
      (front.symm.trans begins)
    have bound := (lineTake_cases available budget).1
    simp only [List.length_append,List.length_take] at short
    omega
  | case6 budget raw wire available middle filled present take grown last room =>
    rename_i again
    have front := Deadline.fill_front filled take
    have none : lf ∉ grown := (grown_line available budget unended).2 last
    obtain ⟨more,rfl,tail⟩ := Marks.later (fun member => none (by simp [grown,member]))
      (front.symm.trans begins)
    rw [lineBytesPasses_cons,filled,List.all_cons,Bool.and_eq_true] at calm
    simp only [present,if_false] at calm
    rw [if_neg last,if_neg room] at calm
    have bound : take ≤ min available.length budget := (lineTake_cases available budget).1
    simp only [List.length_append,List.length_take] at short
    obtain ⟨next,found,after⟩ := again calm.2 none
      (fun member => absent (by simp [member])) (by omega) tail
    exact ⟨next,by simpa [grown] using found,after⟩

theorem readLine_calm {text : String} {rest : List UInt8}
    (calm : (linePasses budget deadline wire).all Pass.calm = true)
    (short : (asBytes text).length + crlf.length ≤ budget)
    (permitted : (asBytes text).all permittedByte = true)
    (begins : wire.stream = asBytes text ++ crlf ++ rest) :
    ∃ next, readLine budget deadline wire = (.ok (.text text true),next) ∧
      next.stream = rest := by
  have some : budget ≠ 0 := by
    simp only [crlf,List.length_cons] at short
    omega
  simp only [linePasses,some,if_false] at calm
  have absent : lf ∉ asBytes text ++ [cr] := by
    simpa [lf,cr] using (Unbroken.of_permitted permitted).2
  have front : wire.stream = (asBytes text ++ [cr]) ++ lf :: rest := by
    simpa [crlf] using begins
  have room : (asBytes text ++ [cr]).length < budget := by
    simp only [crlf,List.length_cons,List.length_nil] at short
    simp only [List.length_append,List.length_cons,List.length_nil]
    omega
  obtain ⟨next,found,after⟩ := readLineBytes_calm calm (by simp) absent room front
  refine ⟨next,?_,after⟩
  simp only [readLine,some,if_false,found]
  rw [← lineOf_permitted permitted]
  simp [crlf]

/-- In a calm run a read of as many bytes as there are does not fail. -/
theorem readExactly_calm {outstanding : Nat} (into : List UInt8) {data rest : List UInt8}
    (calm : (exactlyPasses outstanding deadline wire).all Pass.calm = true)
    (length : data.length = outstanding) (begins : wire.stream = data ++ rest) :
    ∃ next, readExactly outstanding into deadline wire = (.ok (into ++ data),next) ∧
      next.stream = rest := by
  fun_induction readExactly outstanding into deadline wire generalizing data with
  | case1 into wire =>
    rw [List.length_eq_zero_iff.mp length] at begins ⊢
    exact ⟨wire,by simp,by simpa using begins⟩
  | case2 outstanding into wire more middle filled again =>
    have kept : middle.stream = wire.stream := by simpa [filled] using deadline.fill_stream wire
    rw [exactlyPasses_cons more,filled,List.all_cons,Bool.and_eq_true] at calm
    exact again calm.2 length (kept.trans begins)
  | case3 outstanding into wire more kind middle stops filled =>
    rw [exactlyPasses_cons more,List.all_cons,Bool.and_eq_true] at calm
    exact absurd (fill_calm_error calm.1 filled) stops
  | case4 outstanding into wire more middle filled =>
    rw [exactlyPasses_cons more,List.all_cons,Bool.and_eq_true] at calm
    rw [fill_calm_empty calm.1 filled] at begins
    exact absurd (by simpa [List.nil_eq_append_iff.mp begins] using length.symm) more
  | case5 outstanding into wire more available middle filled present take =>
    rename_i again
    have front := Deadline.fill_front filled take
    rw [exactlyPasses_cons more,filled,List.all_cons,Bool.and_eq_true] at calm
    simp only [present,if_false] at calm
    have bound : (available.take take).length ≤ data.length := by
      rw [List.length_take,length]
      omega
    obtain ⟨left,rfl,tail⟩ : ∃ left, data = available.take take ++ left ∧
        (middle.consume take).stream = left ++ rest := by
      obtain ⟨left,same,tail⟩ | ⟨left,same,tail⟩ :=
        List.append_eq_append_iff.mp (front.symm.trans begins)
      · exact ⟨left,same,tail⟩
      · have none : left = [] := by
          rw [same,List.length_append] at bound
          exact List.length_eq_zero_iff.mp (by omega)
        subst none
        exact ⟨[],by simpa using same.symm,by simpa using tail.symm⟩
    obtain ⟨next,found,after⟩ := again calm.2
      (by simp only [List.length_append,List.length_take] at length; omega) tail
    exact ⟨next,by simpa using found,after⟩

end

/-! ## The decoder takes such a body -/

section
variable {crate : Httparse} {deadline : Deadline} {wire next : Wire} {limit : Nat}

theorem parseChunkSize_iff {text : String} {size : Nat} :
    parseChunkSize crate text = some size ↔ (asBytes text).head?.any isHexDigit = true ∧
      (∃ read, crate.parseChunkSize (asBytes text ++ crlf) = .complete read size) ∧
      size < 2^64 := by
  by_cases opens : (asBytes text).head?.any isHexDigit = true
  · rcases answered : crate.parseChunkSize (asBytes text ++ crlf) with ⟨read,found⟩ | _ | e
    · by_cases range : found < 2^64
      · simp only [parseChunkSize,opens,if_true,answered,range]
        grind
      · simp only [parseChunkSize,opens,if_true,answered,range]
        grind
    · simp [parseChunkSize,answered]
    · simp [parseChunkSize,answered]
  · simp [parseChunkSize,opens]

/-- The lines the decoder takes for a size line are those of the grammar. -/
theorem readChunkSize_well {size : Nat}
    (read : readChunkSize crate deadline wire = (.ok size,next)) :
    ∃ line, wire.stream = line ++ crlf ++ next.stream ∧ SizeLine crate line size := by
  simp only [readChunkSize,Prod.mk.injEq] at read
  obtain ⟨sized,rfl⟩ := read
  obtain ⟨text,line,parsed⟩ := chunkSize_ok sized
  obtain ⟨front,short,permitted⟩ := readLine_framing (Prod.ext line rfl)
  obtain ⟨opens,accepted,range⟩ := parseChunkSize_iff.mp parsed
  exact ⟨asBytes text,front,⟨short,permitted,text,rfl⟩,opens,accepted,range⟩

theorem readChunkSize_calm {line rest : List UInt8} {size : Nat}
    (calm : (linePasses chunkLineBytes deadline wire).all Pass.calm = true)
    (well : SizeLine crate line size) (begins : wire.stream = line ++ crlf ++ rest) :
    ∃ next, readChunkSize crate deadline wire = (.ok size,next) ∧ next.stream = rest := by
  obtain ⟨⟨short,permitted,text,rfl⟩,opens,accepted,range⟩ := well
  obtain ⟨next,read,after⟩ := readLine_calm calm short permitted begins
  have parsed : parseChunkSize crate text = some size :=
    parseChunkSize_iff.mpr ⟨opens,accepted,range⟩
  exact ⟨next,by simp only [readChunkSize,read,chunkSize,parsed],after⟩

theorem readChunkEnd_calm {rest : List UInt8}
    (calm : (linePasses 2 deadline wire).all Pass.calm = true)
    (begins : wire.stream = crlf ++ rest) :
    ∃ next, readChunkEnd deadline wire = (.ok (),next) ∧ next.stream = rest := by
  have empty : wire.stream = asBytes "" ++ crlf ++ rest := begins
  obtain ⟨next,read,after⟩ := readLine_calm calm (by decide) (by decide) empty
  exact ⟨next,by simp [readChunkEnd,read,chunkEnd],after⟩

/-- The lines taken as trailers are fields of the grammar, and the empty line. -/
theorem readTrailers_well {left : Nat} (read : readTrailers left deadline wire = (.ok (),next)) :
    ∃ fields : List (List UInt8), wire.stream = fields.flatMap (· ++ crlf) ++ crlf ++ next.stream ∧
      fields.length < left ∧ ∀ field ∈ fields, field ≠ [] ∧ FramingLine field := by
  induction left generalizing wire with
  | zero => cases read
  | succ left ih =>
    rcases taken : readLine chunkLineBytes deadline wire with ⟨line,middle⟩
    cases said : trailerLine line with
    | error e => simp [readTrailers,taken,said] at read
    | ok last =>
      obtain ⟨text,rfl,rfl⟩ := trailerLine_ok said
      obtain ⟨front,short,permitted⟩ := readLine_framing taken
      cases empty : text.isEmpty with
      | true =>
        rw [empty] at said
        simp only [readTrailers,taken,said,Prod.mk.injEq,true_and] at read
        rw [String.isEmpty_iff.mp empty] at taken
        exact ⟨[],by simp [readLine_empty taken,read],by simp,by simp⟩
      | false =>
        rw [empty] at said
        simp only [readTrailers,taken,said] at read
        obtain ⟨fields,rest,few,framed⟩ := ih read
        refine ⟨asBytes text :: fields,by simp [front,rest],by simpa using few,?_⟩
        intro field member
        rcases List.mem_cons.mp member with rfl | later
        · exact ⟨asBytes_ne_nil empty,short,permitted,text,rfl⟩
        · exact framed field later

theorem readTrailers_calm {left : Nat} {fields : List (List UInt8)} {rest : List UInt8}
    (calm : (trailersPasses left deadline wire).all Pass.calm = true) (few : fields.length < left)
    (framed : ∀ field ∈ fields, field ≠ [] ∧ FramingLine field)
    (begins : wire.stream = fields.flatMap (· ++ crlf) ++ crlf ++ rest) :
    ∃ next, readTrailers left deadline wire = (.ok (),next) ∧ next.stream = rest := by
  induction fields generalizing left wire with
  | nil =>
    obtain ⟨left,rfl⟩ : ∃ before, left = before + 1 := ⟨left - 1,by simp at few; omega⟩
    rw [trailersPasses,List.all_append,Bool.and_eq_true] at calm
    have empty : wire.stream = asBytes "" ++ crlf ++ rest := begins
    obtain ⟨next,read,after⟩ := readLine_calm calm.1 (by decide) (by decide) empty
    have said : trailerLine (.ok (.text "" true)) = .ok true := rfl
    exact ⟨next,by simp only [readTrailers,read,said],after⟩
  | cons field fields ih =>
    obtain ⟨left,rfl⟩ : ∃ before, left = before + 1 := ⟨left - 1,by simp at few; omega⟩
    rw [trailersPasses,List.all_append,Bool.and_eq_true] at calm
    obtain ⟨present,short,permitted,text,rfl⟩ := framed field (by simp)
    have some : text.isEmpty = false := by
      rw [← Bool.not_eq_true,String.isEmpty_iff]
      rintro rfl
      exact present rfl
    have front : wire.stream =
        asBytes text ++ crlf ++ (fields.flatMap (· ++ crlf) ++ crlf ++ rest) := by
      simpa using begins
    obtain ⟨middle,read,after⟩ := readLine_calm calm.1 short permitted front
    have said : trailerLine (.ok (.text text true)) = .ok false := by simp [trailerLine,some]
    simp only [read,said] at calm
    obtain ⟨next,others,rest⟩ := ih calm.2 (by simpa using few)
      (fun field member => framed field (by simp [member])) after
    exact ⟨next,by simp only [readTrailers,read,said,others],rest⟩

theorem readChunked_eq (crate : Httparse) (limit : Nat) (deadline : Deadline) (body : List UInt8)
    (wire : Wire) :
    readChunked crate limit deadline body wire =
      match readChunkSize crate deadline wire with
      | (.error e,next) => (.error e,next)
      | (.ok size,afterSize) =>
        if size = 0 then
          match readTrailers (maxTrailers + 1) deadline afterSize with
          | (.error e,next) => (.error e,next)
          | (.ok (),next) => (.ok body,next)
        else if limit - body.length < size then (.error .tooLarge,afterSize)
        else match readExactly size body deadline afterSize with
          | (.error e,next) => (.error e,next)
          | (.ok grown,afterData) =>
            match readChunkEnd deadline afterData with
            | (.error e,next) => (.error e,next)
            | (.ok (),next) => readChunked crate limit deadline grown next := by
  rw [readChunked]
  split <;> rename_i sized <;> simp only [sized]
  congr 2
  split <;> rename_i data <;> simp only [data]
  split <;> rename_i ended <;> simp only [ended]

/-- What the decoder accepts is a body of the grammar, within the room that was left, and
it has taken that body and no more. -/
theorem readChunked_well {body bytes : List UInt8}
    (read : readChunked crate limit deadline body wire = (.ok bytes,next)) :
    ∃ taken payload, wire.stream = taken ++ next.stream ∧ bytes = body ++ payload ∧
      WellChunked crate (limit - body.length) taken payload := by
  fun_induction readChunked crate limit deadline body wire with
  | case1 | case2 | case4 | case5 | case6 => cases read
  | case3 body wire afterSize middle trailers sized =>
    cases read
    obtain ⟨line,front,well⟩ := readChunkSize_well sized
    obtain ⟨fields,rest,few,framed⟩ := readTrailers_well trailers
    refine ⟨line ++ crlf ++ fields.flatMap (· ++ crlf) ++ crlf,[],by simp [front,rest],by simp,
      [],line,fields,by simp,by simp,by simp,by simp,well,?_,framed⟩
    exact Nat.lt_succ_iff.mp few
  | case7 body wire size afterSize sized present room grown afterData data middle ended again =>
    obtain ⟨line,front,well⟩ := readChunkSize_well sized
    obtain ⟨chunk,length,rfl,rest⟩ := readExactly_ok data
    obtain ⟨tail,payload,more,rfl,chunks,last,fields,rfl,rfl,small,all,closes,trailing⟩ :=
      again read
    have some : chunk ≠ [] := by
      rintro rfl
      exact present length.symm
    refine ⟨chunkBytes (line,chunk) ++ _,chunk ++ chunks.flatMap Prod.snd,?_,by simp,
      (line,chunk) :: chunks,last,fields,by simp; rfl,by simp,?_,?_,closes,trailing⟩
    · rw [front,rest,readChunkEnd_ok ended,more]
      simp [chunkBytes]
    · simp only [List.length_append] at small ⊢
      omega
    · intro each member
      rcases List.mem_cons.mp member with rfl | later
      · exact ⟨some,by rw [length]; exact well⟩
      · exact all each later

/-- In a calm run a body of the grammar is accepted, chunk by chunk. -/
theorem readChunked_calm {chunks : List (List UInt8 × List UInt8)} {last body rest : List UInt8}
    {fields : List (List UInt8)}
    (calm : (chunkedPasses crate limit deadline body wire).all Pass.calm = true)
    (all : ∀ chunk ∈ chunks, chunk.2 ≠ [] ∧ SizeLine crate chunk.1 chunk.2.length)
    (closes : SizeLine crate last 0) (few : fields.length ≤ maxTrailers)
    (framed : ∀ field ∈ fields, field ≠ [] ∧ FramingLine field)
    (small : (chunks.flatMap Prod.snd).length ≤ limit - body.length)
    (begins : wire.stream = chunks.flatMap chunkBytes ++ (last ++ crlf) ++
      fields.flatMap (· ++ crlf) ++ crlf ++ rest) :
    ∃ next, readChunked crate limit deadline body wire =
      (.ok (body ++ chunks.flatMap Prod.snd),next) ∧ next.stream = rest := by
  induction chunks generalizing body wire with
  | nil =>
    rw [chunkedPasses_eq,List.all_append,Bool.and_eq_true] at calm
    have front : wire.stream =
        last ++ crlf ++ (fields.flatMap (· ++ crlf) ++ crlf ++ rest) := by
      simpa using begins
    obtain ⟨afterSize,sized,later⟩ := readChunkSize_calm calm.1 closes front
    simp only [sized,if_true] at calm
    obtain ⟨next,trailers,after⟩ := readTrailers_calm calm.2 (Nat.lt_succ_iff.mpr few) framed later
    exact ⟨next,by rw [readChunked_eq,sized]; simp [trailers],after⟩
  | cons chunk chunks ih =>
    obtain ⟨line,data⟩ := chunk
    obtain ⟨present,well⟩ := all (line,data) (by simp)
    have some : data.length ≠ 0 := fun none => present (List.length_eq_zero_iff.mp none)
    simp only [List.flatMap_cons,List.length_append] at small
    have room : ¬limit - body.length < data.length := by omega
    rw [chunkedPasses_eq,List.all_append,Bool.and_eq_true] at calm
    have front : wire.stream = line ++ crlf ++ (data ++ (crlf ++
        (chunks.flatMap chunkBytes ++ (last ++ crlf) ++ fields.flatMap (· ++ crlf) ++ crlf ++
          rest))) := by
      simpa [chunkBytes] using begins
    obtain ⟨afterSize,sized,later⟩ := readChunkSize_calm calm.1 well front
    simp only [sized,some,room,if_false,List.all_append,Bool.and_eq_true] at calm
    obtain ⟨afterData,taken,later⟩ := readExactly_calm body calm.2.1 rfl later
    simp only [taken,List.all_append,Bool.and_eq_true] at calm
    obtain ⟨next,ended,later⟩ := readChunkEnd_calm calm.2.2.1 later
    simp only [ended] at calm
    obtain ⟨final,others,after⟩ := ih calm.2.2.2 (fun each member => all each (by simp [member]))
      (by rw [List.length_append]; omega) later
    refine ⟨final,?_,after⟩
    rw [readChunked_eq,sized]
    simp [some,room,taken,ended,others]

/-- For every stream and every way it is cut into reads, in a run that meets no error and
no deadline: the decoder succeeds exactly when the stream begins with a chunked body of at
most `limit` bytes of payload, answers with the payload, and leaves the stream at the byte
after the body. In every run it stops after a number of bytes that the limit bounds. -/
theorem chunked_body_exact (crate : Httparse) (limit : Nat) (deadline : Deadline) (wire : Wire) :
    Wire.Takes (chunkedBound limit) wire (readChunked crate limit deadline [] wire).2 ∧
    ((chunkedPasses crate limit deadline [] wire).all Pass.calm = true →
      ∀ payload rest, (∃ next, readChunked crate limit deadline [] wire = (.ok payload,next) ∧
        next.stream = rest) ↔
      ∃ bytes, wire.stream = bytes ++ rest ∧ WellChunked crate limit bytes payload) := by
  refine ⟨readChunked_takes crate limit deadline [] wire,fun calm payload rest => ⟨?_,?_⟩⟩
  · rintro ⟨next,read,rfl⟩
    obtain ⟨taken,carried,begins,rfl,well⟩ := readChunked_well read
    exact ⟨taken,begins,well⟩
  · rintro ⟨bytes,begins,chunks,last,fields,rfl,rfl,small,all,closes,few,framed⟩
    obtain ⟨next,read,after⟩ := readChunked_calm calm all closes few framed small begins
    exact ⟨next,by simpa using read,after⟩

/-- A body of two chunks, cut inside its lines and by a signal, with the next request
behind it. -/
def cutIntoReads : Wire :=
  { buffer := asBytes "3;x\r",
    arriving := [⟨0,.ok (asBytes "\nhel\r\n2\r")⟩,⟨1,.error .interrupted⟩,
      ⟨2,.ok (asBytes "\nlo\r\n0\r\nA: b\r\n\r\nGET")⟩],
    armed := 0, writeArmed := 0, now := 0, lapses := [], latest := 2^63, deliveries := [],
    sent := [] }

theorem chunked_body_exact_cut : ∃ bytes, cutIntoReads.stream = bytes ++ asBytes "GET" ∧
    WellChunked plain 5 bytes (asBytes "hello") :=
  ((chunked_body_exact plain 5 ⟨1000⟩ cutIntoReads).2 (by decide +kernel) _ _).mp
    ⟨(readChunked plain 5 ⟨1000⟩ [] cutIntoReads).2,Prod.ext (by decide +kernel) rfl,
      by decide +kernel⟩

end

end SmlMcps.Http1
