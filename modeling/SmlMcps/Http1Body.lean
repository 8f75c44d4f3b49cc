import SmlMcps.Http1Head

/-! Request bodies: read on demand and up to a limit, or drained when that is cheap. A
body is one attempt; after it the connection is framed where the next request starts
only if every byte the framing promised was taken, which `finished` records. -/
namespace SmlMcps.Http1

/-! ## What a framing promises -/

/-- A chunk-size line says its size in leading hex digits. -/
def Sizes (line : List UInt8) (size : Nat) : Prop :=
  line.takeWhile isHexDigit ≠ [] ∧ size = hexValue (line.takeWhile isHexDigit)

/-- A line without its CRLF holds neither of the two bytes. -/
def Unbroken (line : List UInt8) : Prop := cr ∉ line ∧ lf ∉ line

/-- Trailer fields, and the empty line that ends them. -/
inductive Trailers : List UInt8 → Prop where
  | done : Trailers crlf
  | field {line rest : List UInt8} (unbroken : Unbroken line) (present : line ≠ [])
      (more : Trailers rest) : Trailers (line ++ crlf ++ rest)

/-- A whole chunked body, and the payload its chunks carry. -/
inductive ChunkedBody : List UInt8 → List UInt8 → Prop where
  | last {line fields : List UInt8} (unbroken : Unbroken line) (sized : Sizes line 0)
      (trailers : Trailers fields) : ChunkedBody (line ++ crlf ++ fields) []
  | chunk {line data rest payload : List UInt8} (unbroken : Unbroken line)
      (sized : Sizes line data.length) (present : data ≠ []) (more : ChunkedBody rest payload) :
      ChunkedBody (line ++ crlf ++ data ++ crlf ++ rest) (data ++ payload)

/-- The bytes a framing promises, and the payload they carry. -/
def Framing.Frames : Framing → List UInt8 → List UInt8 → Prop
  | .empty, body, payload => body = [] ∧ payload = []
  | .length declared, body, payload => body.length = declared ∧ payload = body
  | .chunked, body, payload => ChunkedBody body payload

/-- The body that follows a head with these headers. -/
def MessageBody (headers : List (String × String)) (body payload : List UInt8) : Prop :=
  ∃ framing, Framing.CalledFor headers framing ∧ framing.Frames body payload

/-! ## Where a message ends is determined -/

/-- The first CRLF ends a line. -/
theorem line_ends {left right : List UInt8} {after other : List UInt8} (unbroken : Unbroken left)
    (unbroken' : Unbroken right) (same : left ++ crlf ++ after = right ++ crlf ++ other) :
    left = right ∧ after = other := by
  induction left generalizing right with
  | nil =>
    cases right with
    | nil => exact ⟨rfl,by simpa using same⟩
    | cons byte rest =>
      simp only [crlf,List.nil_append,List.cons_append,List.cons.injEq] at same
      exact absurd (by simp [same.1]) unbroken'.1
  | cons first line ih =>
    cases right with
    | nil =>
      simp only [crlf,List.nil_append,List.cons_append,List.cons.injEq] at same
      exact absurd (by simp [same.1]) unbroken.1
    | cons byte rest =>
      simp only [List.cons_append,List.cons.injEq] at same
      have shorter : Unbroken line :=
        ⟨fun member => unbroken.1 (by simp [member]),fun member => unbroken.2 (by simp [member])⟩
      have shorter' : Unbroken rest :=
        ⟨fun member => unbroken'.1 (by simp [member]),fun member => unbroken'.2 (by simp [member])⟩
      obtain ⟨rfl,rest⟩ := ih shorter shorter' same.2
      exact ⟨by rw [same.1],rest⟩

theorem Unbroken.nil : Unbroken [] := ⟨by simp,by simp⟩

theorem Trailers.unique {left right after other : List UInt8} (trailers : Trailers left)
    (trailers' : Trailers right) (same : left ++ after = right ++ other) : left = right := by
  induction trailers generalizing right with
  | done =>
    cases trailers' with
    | done => rfl
    | field unbroken present more =>
      rw [List.append_assoc] at same
      exact absurd (line_ends Unbroken.nil unbroken (by simpa using same)).1.symm present
  | field unbroken present more ih =>
    cases trailers' with
    | done =>
      rw [List.append_assoc] at same
      exact absurd (line_ends unbroken Unbroken.nil (by simpa using same)).1 present
    | field unbroken' present' more' =>
      rw [List.append_assoc,List.append_assoc (_ ++ crlf)] at same
      obtain ⟨rfl,tail⟩ := line_ends unbroken unbroken' same
      rw [ih more' tail]

theorem ChunkedBody.unique {left right after other payload payload' : List UInt8}
    (body : ChunkedBody left payload) (body' : ChunkedBody right payload')
    (same : left ++ after = right ++ other) : left = right ∧ payload = payload' := by
  induction body generalizing right payload' with
  | last unbroken sized trailers =>
    cases body' with
    | last unbroken' sized' trailers' =>
      rw [List.append_assoc,List.append_assoc (_ ++ crlf)] at same
      obtain ⟨rfl,tail⟩ := line_ends unbroken unbroken' same
      rw [trailers.unique trailers' tail]
      exact ⟨rfl,rfl⟩
    | chunk unbroken' sized' present' more' =>
      simp only [List.append_assoc] at same
      obtain ⟨rfl,-⟩ := line_ends unbroken unbroken' (by simpa using same)
      have size := sized.2.trans sized'.2.symm
      exact absurd (List.length_eq_zero_iff.mp size.symm) present'
  | chunk unbroken sized present more ih =>
    cases body' with
    | last unbroken' sized' trailers' =>
      simp only [List.append_assoc] at same
      obtain ⟨rfl,-⟩ := line_ends unbroken unbroken' (by simpa using same)
      have size := sized.2.trans sized'.2.symm
      exact absurd (List.length_eq_zero_iff.mp size) present
    | chunk unbroken' sized' present' more' =>
      simp only [List.append_assoc] at same
      obtain ⟨rfl,tail⟩ := line_ends unbroken unbroken' (by simpa using same)
      obtain ⟨rfl,closing⟩ := List.append_inj tail (sized.2.trans sized'.2.symm)
      obtain ⟨rfl,rfl⟩ := ih more' (List.append_cancel_left closing)
      exact ⟨rfl,rfl⟩

theorem Framing.Frames.unique {framing : Framing} {left right after other payload payload' :
    List UInt8} (body : framing.Frames left payload) (body' : framing.Frames right payload')
    (same : left ++ after = right ++ other) : left = right ∧ payload = payload' := by
  cases framing with
  | empty => exact ⟨body.1.trans body'.1.symm,body.2.trans body'.2.symm⟩
  | length declared =>
    have equal := (List.append_inj same (body.1.trans body'.1.symm)).1
    exact ⟨equal,by rw [body.2,body'.2,equal]⟩
  | chunked => exact ChunkedBody.unique body body' same

theorem Framing.CalledFor.unique {headers : List (String × String)} {left right : Framing}
    (called : Framing.CalledFor headers left) (called' : Framing.CalledFor headers right) :
    left = right := by
  cases called with
  | none coding length =>
    cases called' with
    | none => rfl
    | length _ stated => exact absurd length stated
    | chunked coded => simp [coding] at coded
  | length coding stated agreed present digits decimal =>
    cases called' with
    | none _ length => exact absurd length stated
    | length _ _ agreed' _ _ decimal' =>
      obtain ⟨value,member⟩ := List.exists_mem_of_ne_nil _ stated
      have same := (agreed value member).symm.trans (agreed' value member)
      rw [decimal,decimal',same]
    | chunked _ _ length => exact absurd length stated
  | chunked coded known length =>
    cases called' with
    | none coding => simp [coding] at coded
    | length coding => simp [coding] at coded
    | chunked => rfl

/-- What follows a head determines where its message ends and what it carries. -/
theorem MessageBody.unique {headers : List (String × String)}
    {left right after other payload payload' : List UInt8}
    (body : MessageBody headers left payload) (body' : MessageBody headers right payload')
    (same : left ++ after = right ++ other) : left = right ∧ payload = payload' := by
  obtain ⟨framing,called,frames⟩ := body
  obtain ⟨framing',called',frames'⟩ := body'
  cases called.unique called'
  exact frames.unique frames' same

/-! ## Reading a body -/

/-- The longest a chunk-size line or a trailer may be. -/
def chunkLineBytes : Nat := 128

/-- How many trailer fields a chunked body may carry. -/
def maxTrailers : Nat := 16

/-- The request body, still on the wire. -/
structure Body where
  framing : Framing
  mustSendContinue : Bool
  finished : Bool
  started : Bool
  deadline : Deadline
  writeTimeout : Nat
  deriving DecidableEq, Repr

/-- The size of the chunk that follows. The crate answers zero to three lines that are no
chunk size at all, so the first byte must be a hex digit. -/
def parseChunkSize (crate : Httparse) (line : String) : Option Nat :=
  if (asBytes line).head?.any isHexDigit then
    match crate.parseChunkSize (asBytes line ++ crlf) with
    | .complete _ size => if size < 2^64 then some size else none
    | .incomplete | .error _ => none
  else none

/-- What a chunk-size line says; its line ending must be a CRLF. -/
def chunkSize (crate : Httparse) : Except ErrorKind Line → Except BodyError Nat
  | .ok (.text text true) =>
    match parseChunkSize crate text with
    | some size => .ok size
    | none => .error .malformed
  | .ok (.text _ false) => .error .malformed
  | .ok .eof => .error .incomplete
  | .ok .tooLong | .ok .invalid => .error .malformed
  | .error kind => .error (.ofKind kind)

/-- What follows a chunk's data. -/
def chunkEnd : Except ErrorKind Line → Except BodyError Unit
  | .ok (.text text true) => if text.isEmpty then .ok () else .error .malformed
  | .ok .eof => .error .incomplete
  | .ok _ => .error .malformed
  | .error kind => .error (.ofKind kind)

/-- Whether a trailer line is the empty one that ends them. -/
def trailerLine : Except ErrorKind Line → Except BodyError Bool
  | .ok (.text text true) => .ok text.isEmpty
  | .ok (.text _ false) => .error .malformed
  | .ok .eof => .error .incomplete
  | .ok .tooLong | .ok .invalid => .error .malformed
  | .error kind => .error (.ofKind kind)

/-- `left` more lines may be read. -/
def readTrailers : (left : Nat) → Deadline → Wire → Except BodyError Unit × Wire
  | 0, _, wire => (.error .malformed,wire)
  | left + 1, deadline, wire =>
    match readLine chunkLineBytes deadline wire with
    | (line,next) =>
      match trailerLine line with
      | .error e => (.error e,next)
      | .ok true => (.ok (),next)
      | .ok false => readTrailers left deadline next

section
variable {crate : Httparse} {deadline : Deadline} {wire next : Wire} {budget : Nat}

theorem chunkSize_ok {line : Except ErrorKind Line} {size : Nat}
    (sized : chunkSize crate line = .ok size) :
    ∃ text, line = .ok (.text text true) ∧ parseChunkSize crate text = some size := by
  simp only [chunkSize] at sized
  split at sized <;> try cases sized
  rename_i text
  split at sized <;> cases sized
  rename_i parsed
  exact ⟨text,rfl,parsed⟩

theorem chunkEnd_ok {line : Except ErrorKind Line} (ended : chunkEnd line = .ok ()) :
    line = .ok (.text "" true) := by
  simp only [chunkEnd] at ended
  split at ended <;> try cases ended
  split at ended
  · rename_i empty
    rw [String.isEmpty_iff.mp empty]
  · cases ended

theorem trailerLine_ok {line : Except ErrorKind Line} {last : Bool}
    (said : trailerLine line = .ok last) :
    ∃ text, line = .ok (.text text true) ∧ last = text.isEmpty := by
  simp only [trailerLine] at said
  split at said <;> cases said
  exact ⟨_,rfl,rfl⟩

/-- A chunk size that is accepted is the one its line says. -/
theorem parseChunkSize_sizes (documented : crate.Documented) {text : String} {size : Nat}
    (parsed : parseChunkSize crate text = some size) : Sizes (asBytes text) size := by
  by_cases digit : (asBytes text).head?.any isHexDigit
  · have digits : (asBytes text).takeWhile isHexDigit ≠ [] := by
      cases bytes : asBytes text with
      | nil => simp [bytes] at digit
      | cons first rest =>
        simp only [bytes,List.head?_cons,Option.any_some] at digit
        simp [digit]
    simp only [parseChunkSize,digit,if_true] at parsed
    split at parsed
    · rename_i answered
      split at parsed
      · cases parsed
        exact ⟨digits,documented.sized answered digits⟩
      · cases parsed
    · cases parsed
    · cases parsed
  · simp [parseChunkSize,digit] at parsed

theorem readLine_empty (read : readLine budget deadline wire = (.ok (.text "" true),next)) :
    wire.stream = crlf ++ next.stream := (readLine_text read).1

theorem asBytes_ne_nil {text : String} (present : text.isEmpty = false) : asBytes text ≠ [] := by
  intro none
  have empty : text = "" := by
    rw [← String.toByteArray_inj]
    exact ByteArray.ext (Array.toList_inj.mp none)
  simp [empty] at present

theorem readTrailers_ok {left : Nat} (read : readTrailers left deadline wire = (.ok (),next)) :
    ∃ fields, wire.stream = fields ++ next.stream ∧ Trailers fields := by
  induction left generalizing wire with
  | zero => cases read
  | succ left ih =>
    rcases taken : readLine chunkLineBytes deadline wire with ⟨line,middle⟩
    cases said : trailerLine line with
    | error e => simp [readTrailers,taken,said] at read
    | ok last =>
      obtain ⟨text,rfl,rfl⟩ := trailerLine_ok said
      obtain ⟨front,unbroken⟩ := readLine_text taken
      cases empty : text.isEmpty with
      | true =>
        rw [empty] at said
        simp only [readTrailers,taken,said,Prod.mk.injEq,true_and] at read
        rw [String.isEmpty_iff.mp empty] at taken
        exact ⟨crlf,by rw [readLine_empty taken,read],.done⟩
      | false =>
        rw [empty] at said
        simp only [readTrailers,taken,said] at read
        obtain ⟨fields,rest,trailers⟩ := ih read
        exact ⟨asBytes text ++ crlf ++ fields,by rw [front,rest]; simp,
          .field unbroken (asBytes_ne_nil empty) trailers⟩

end

section
variable (crate : Httparse) (limit : Nat) (deadline : Deadline)

def readChunkSize (wire : Wire) : Except BodyError Nat × Wire :=
  let (line,next) := readLine chunkLineBytes deadline wire
  (chunkSize crate line,next)

def readChunkEnd (wire : Wire) : Except BodyError Unit × Wire :=
  let (line,next) := readLine 2 deadline wire
  (chunkEnd line,next)

end

section
variable {crate : Httparse} {deadline : Deadline} {wire next : Wire}

theorem readChunkSize_ok {size : Nat} (read : readChunkSize crate deadline wire = (.ok size,next)) :
    ∃ text, wire.stream = asBytes text ++ crlf ++ next.stream ∧ Unbroken (asBytes text) ∧
      parseChunkSize crate text = some size := by
  simp only [readChunkSize,Prod.mk.injEq] at read
  obtain ⟨sized,rfl⟩ := read
  obtain ⟨text,line,parsed⟩ := chunkSize_ok sized
  obtain ⟨front,unbroken⟩ := readLine_text (Prod.ext line rfl)
  exact ⟨text,front,unbroken,parsed⟩

theorem readChunkEnd_ok (read : readChunkEnd deadline wire = (.ok (),next)) :
    wire.stream = crlf ++ next.stream := by
  simp only [readChunkEnd,Prod.mk.injEq] at read
  obtain ⟨ended,rfl⟩ := read
  exact readLine_empty (Prod.ext (chunkEnd_ok ended) rfl)

end

section
variable (crate : Httparse) (limit : Nat) (deadline : Deadline)

/-- Decode a chunked body of at most `limit` bytes onto the end of `body`. -/
def readChunked (body : List UInt8) (wire : Wire) : Except BodyError (List UInt8) × Wire :=
  match _ : readChunkSize crate deadline wire with
  | (.error e,next) => (.error e,next)
  | (.ok size,afterSize) =>
    if size = 0 then
      match readTrailers (maxTrailers + 1) deadline afterSize with
      | (.error e,next) => (.error e,next)
      | (.ok (),next) => (.ok body,next)
    else if limit - body.length < size then (.error .tooLarge,afterSize)
    else match _ : readExactly size body deadline afterSize with
      | (.error e,next) => (.error e,next)
      | (.ok grown,afterData) =>
        match _ : readChunkEnd deadline afterData with
        | (.error e,next) => (.error e,next)
        | (.ok (),next) => readChunked grown next
termination_by wire.stream.length
decreasing_by
  rename_i sized present _ data ended
  obtain ⟨text,front,-⟩ := readChunkSize_ok sized
  obtain ⟨taken,length,-,rest⟩ := readExactly_ok data
  rw [front,rest,readChunkEnd_ok ended]
  simp only [List.length_append]
  omega

end

section
variable {crate : Httparse} {limit : Nat} {deadline : Deadline} {wire next : Wire}

/-- Success has taken one whole chunked body off the stream, trailers included, and its
payload is what was appended. -/
theorem readChunked_ok (documented : crate.Documented) {body bytes : List UInt8}
    (read : readChunked crate limit deadline body wire = (.ok bytes,next)) :
    ∃ taken payload, wire.stream = taken ++ next.stream ∧ bytes = body ++ payload ∧
      ChunkedBody taken payload := by
  fun_induction readChunked crate limit deadline body wire with
  | case1 | case2 | case4 | case5 | case6 => cases read
  | case3 body wire afterSize middle trailers sized =>
    cases read
    obtain ⟨text,front,unbroken,parsed⟩ := readChunkSize_ok sized
    obtain ⟨fields,rest,trailing⟩ := readTrailers_ok trailers
    exact ⟨asBytes text ++ crlf ++ fields,[],by rw [front,rest]; simp,by simp,
      .last unbroken (parseChunkSize_sizes documented parsed) trailing⟩
  | case7 body wire size afterSize sized present _ grown afterData data middle ended again =>
    obtain ⟨text,front,unbroken,parsed⟩ := readChunkSize_ok sized
    obtain ⟨taken,length,rfl,rest⟩ := readExactly_ok data
    obtain ⟨tail,payload,more,rfl,chunks⟩ := again read
    have some : taken ≠ [] := by
      rintro rfl
      exact present length.symm
    have sizes := parseChunkSize_sizes documented parsed
    rw [← length] at sizes
    exact ⟨asBytes text ++ crlf ++ taken ++ crlf ++ tail,taken ++ payload,
      by rw [front,rest,readChunkEnd_ok ended,more]; simp,by simp,
      .chunk unbroken sizes some chunks⟩

end

namespace Body

/-- Answer an `Expect: 100-continue` now that the body is actually wanted. -/
def sendContinue (body : Body) (wire : Wire) : Except BodyError Unit × Body × Wire :=
  if body.mustSendContinue then
    let sent := (wire.armWrite body.writeTimeout).writeAll
      (asBytes "HTTP/1.1 100 Continue\r\n\r\n")
    (if sent.1 then .ok () else .error .incomplete,
      { body with mustSendContinue := false },sent.2)
  else (.ok (),body,wire)

/-- Every promised byte is in `taken`, whether or not it is text. -/
def hand (body : Body) (taken : Except BodyError (List UInt8) × Wire) :
    Except BodyError String × Body × Wire :=
  match taken with
  | (.error e,next) => (.error e,body,next)
  | (.ok bytes,next) =>
    match fromUtf8 bytes with
    | some text => (.ok text,{ body with finished := true },next)
    | none => (.error .malformed,{ body with finished := true },next)

/-- Take the body off the connection, once the peer has been told to send it. -/
def whenSent (body : Body) (take : Deadline → Wire → Except BodyError (List UInt8) × Wire)
    (wire : Wire) : Except BodyError String × Body × Wire :=
  match body.sendContinue wire with
  | (.error e,body,next) => (.error e,body,next)
  | (.ok (),body,next) => body.hand (take body.deadline next)

/-- Read the whole body, or say why not. -/
def read (crate : Httparse) (limit : Nat) (body : Body) (wire : Wire) :
    Except BodyError String × Body × Wire :=
  if body.started then (.error .malformed,body,wire)
  else
    let body := { body with started := true }
    match body.framing with
    | .empty => (.ok "",{ body with finished := true },wire)
    | .length declared =>
      -- Refused without reading a byte, and without asking for one to be sent.
      if limit < declared then (.error .tooLarge,body,wire)
      else body.whenSent (readExactly declared []) wire
    | .chunked => body.whenSent (fun deadline => readChunked crate limit deadline []) wire

/-- Consume a body nobody asked for, when that is cheap: a length that would have been
accepted, from a peer that is not waiting to be told to send it. -/
def drainIfCheap (limit : Nat) (body : Body) (wire : Wire) : Body × Wire :=
  if body.started || body.finished then (body,wire)
  else if body.mustSendContinue then (body,wire)
  else match body.framing with
    | .empty | .chunked => (body,wire)
    | .length declared =>
      if limit < declared then (body,wire)
      else match readExactly declared [] body.deadline wire with
        | (.ok _,next) => ({ body with started := true, finished := true },next)
        | (.error _,next) => ({ body with started := true },next)

end Body

/-! ## A finished body took what its framing promised -/

/-- What holds of a body whose first byte is the first of `start`, after `reads`. -/
structure BodyInvariant (start : List UInt8) (framing : Framing) (body : Body) (wire : Wire)
    (reads : List (Except BodyError String)) : Prop where
  framed : body.framing = framing
  untouched : body.started = false → wire.stream = start ∧ reads = []
  promised : body.finished = true → ∃ taken payload, start = taken ++ wire.stream ∧
    framing.Frames taken payload ∧ ∀ text, .ok text ∈ reads → asBytes text = payload
  refused : body.finished = false → ∀ text, .ok text ∉ reads
  fresh : body.started = false → body.finished = true → framing = .empty

section
variable {crate : Httparse} {start : List UInt8} {framing : Framing} {body : Body} {wire : Wire}
  {reads : List (Except BodyError String)}

theorem sendContinue_stream (body : Body) (wire : Wire) :
    (body.sendContinue wire).2.2.stream = wire.stream := by
  by_cases waits : body.mustSendContinue
  · simp only [Body.sendContinue,waits,if_true]
    exact Wire.stream_congr (by simp) (by simp)
  · simp [Body.sendContinue,waits]

theorem sendContinue_body (body : Body) (wire : Wire) :
    (body.sendContinue wire).2.1.framing = body.framing ∧
      (body.sendContinue wire).2.1.finished = body.finished ∧
      (body.sendContinue wire).2.1.started = body.started := by
  by_cases waits : body.mustSendContinue
  · simp [Body.sendContinue,waits]
  · simp [Body.sendContinue,waits]

/-- An attempt that fails leaves a body that is neither fresh nor finished. -/
theorem BodyInvariant.failed {e : BodyError} (framed : body.framing = framing)
    (started : body.started = true) (unfinished : body.finished = false) :
    BodyInvariant start framing body wire [.error e] :=
  ⟨framed,fun no => by simp [started] at no,fun no => by simp [unfinished] at no,
    fun _ text => by simp,fun no => by simp [started] at no⟩

/-- Handing over what was taken, when taking succeeds only with the promised bytes. -/
theorem BodyInvariant.hand {taken : Except BodyError (List UInt8) × Wire}
    (framed : body.framing = framing) (started : body.started = true)
    (unfinished : body.finished = false)
    (promised : ∀ bytes, taken.1 = .ok bytes → ∃ promise,
      start = promise ++ taken.2.stream ∧ framing.Frames promise bytes) :
    BodyInvariant start framing (body.hand taken).2.1 (body.hand taken).2.2
      [(body.hand taken).1] := by
  obtain ⟨outcome,next⟩ := taken
  cases outcome with
  | error e => exact .failed framed started unfinished
  | ok bytes =>
    obtain ⟨promise,rest,frames⟩ := promised bytes rfl
    cases text : fromUtf8 bytes with
    | none =>
      simp only [Body.hand,text]
      refine ⟨framed,fun no => ?_,fun _ => ⟨promise,bytes,rest,frames,by simp⟩,by simp,
        fun no => ?_⟩ <;> simp [started] at no
    | some text' =>
      simp only [Body.hand,text]
      refine ⟨framed,fun no => ?_,fun _ => ⟨promise,bytes,rest,frames,fun said member => ?_⟩,
        by simp,fun no => ?_⟩
      · simp [started] at no
      · simp only [List.mem_singleton,Except.ok.injEq] at member
        rw [member,fromUtf8_some text]
      · simp [started] at no

/-- Asking for the body first changes neither the stream nor what taking it must bring. -/
theorem BodyInvariant.whenSent (framed : body.framing = framing) (started : body.started = true)
    (unfinished : body.finished = false) (begun : wire.stream = start)
    {take : Deadline → Wire → Except BodyError (List UInt8) × Wire}
    (promised : ∀ {deadline wire bytes next}, take deadline wire = (.ok bytes,next) →
      ∃ promise, wire.stream = promise ++ next.stream ∧ framing.Frames promise bytes) :
    BodyInvariant start framing (body.whenSent take wire).2.1 (body.whenSent take wire).2.2
      [(body.whenSent take wire).1] := by
  have stream := sendContinue_stream body wire
  have kept := sendContinue_body body wire
  rcases sent : body.sendContinue wire with ⟨outcome,after,next⟩
  simp only [sent] at stream kept
  cases outcome with
  | error e =>
    simp only [Body.whenSent,sent]
    exact .failed (kept.1.trans framed) (kept.2.2.trans started) (kept.2.1.trans unfinished)
  | ok =>
    simp only [Body.whenSent,sent]
    refine .hand (kept.1.trans framed) (kept.2.2.trans started) (kept.2.1.trans unfinished)
      fun bytes ok => ?_
    rw [← begun,← stream]
    exact promised (Prod.ext ok rfl)

theorem BodyInvariant.unfinished (holds : BodyInvariant start framing body wire reads)
    (started : body.started = false) (present : framing ≠ .empty) : body.finished = false := by
  by_contra finished
  simp only [Bool.not_eq_false] at finished
  exact present (holds.fresh started finished)

/-- However the handler reads, a finished body is the whole promise and an unfinished one
has delivered no text. -/
theorem read_invariant (documented : crate.Documented) (limit : Nat)
    (holds : BodyInvariant start framing body wire reads) :
    BodyInvariant start framing (body.read crate limit wire).2.1 (body.read crate limit wire).2.2
      (reads ++ [(body.read crate limit wire).1]) := by
  by_cases started : body.started
  · simp only [Body.read,started,if_true]
    refine ⟨holds.framed,fun no => by simp [started] at no,fun finished => ?_,
      fun unfinished text => ?_,holds.fresh⟩
    · obtain ⟨taken,payload,rest,frames,texts⟩ := holds.promised finished
      exact ⟨taken,payload,rest,frames,fun text member => texts text (by simpa using member)⟩
    · simpa using holds.refused unfinished text
  simp only [Bool.not_eq_true] at started
  obtain ⟨begun,rfl⟩ := holds.untouched started
  have framed := holds.framed
  simp only [List.nil_append,Body.read,started,Bool.false_eq_true,if_false]
  cases framing with
  | empty =>
    simp only [framed]
    refine ⟨rfl,fun no => by simp at no,
      fun _ => ⟨[],[],begun.symm,⟨rfl,rfl⟩,fun text member => ?_⟩,fun no => by simp at no,
      fun _ _ => rfl⟩
    simp only [List.mem_singleton,Except.ok.injEq] at member
    rw [member]
    rfl
  | length declared =>
    have unfinished := holds.unfinished started (by simp)
    by_cases large : limit < declared
    · simp only [framed,large,if_true]
      exact .failed rfl rfl unfinished
    · simp only [framed,large,if_false]
      refine .whenSent ?_ ?_ ?_ begun fun taken => ?_
      · rfl
      · rfl
      · exact unfinished
      · obtain ⟨promise,length,same,rest⟩ := readExactly_ok taken
        exact ⟨promise,rest,length,same⟩
  | chunked =>
    simp only [framed]
    refine .whenSent ?_ ?_ ?_ begun fun taken => ?_
    · rfl
    · rfl
    · exact holds.unfinished started (by simp)
    · obtain ⟨promise,payload,rest,same,chunks⟩ := readChunked_ok documented taken
      exact ⟨promise,rest,same ▸ chunks⟩

theorem drainIfCheap_invariant (limit : Nat)
    (holds : BodyInvariant start framing body wire reads) :
    BodyInvariant start framing (body.drainIfCheap limit wire).1
      (body.drainIfCheap limit wire).2 reads := by
  by_cases attempted : body.started || body.finished
  · simpa only [Body.drainIfCheap,attempted,if_true] using holds
  by_cases waits : body.mustSendContinue
  · simpa [Body.drainIfCheap,attempted,waits] using holds
  simp only [Body.drainIfCheap,attempted,waits,Bool.false_eq_true,if_false]
  simp only [Bool.or_eq_true,not_or,Bool.not_eq_true] at attempted
  obtain ⟨begun,rfl⟩ := holds.untouched attempted.1
  have framed := holds.framed
  cases framing with
  | empty => simpa only [framed] using holds
  | chunked => simpa only [framed] using holds
  | length declared =>
    by_cases large : limit < declared
    · simpa only [framed,large,if_true] using holds
    simp only [framed,large,if_false]
    split
    · rename_i bytes next taken
      obtain ⟨promise,length,-,rest⟩ := readExactly_ok taken
      exact ⟨rfl,fun no => by simp at no,
        fun _ => ⟨promise,promise,begun.symm.trans rest,⟨length,rfl⟩,by simp⟩,
        fun no => by simp at no,fun no => by simp at no⟩
    · exact ⟨rfl,fun no => by simp at no,fun no => by simp [attempted.2] at no,
        fun _ text => by simp,fun no => by simp at no⟩

end

end SmlMcps.Http1
