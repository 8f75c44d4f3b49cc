import SmlMcps.Http1Wire
import SmlMcps.Library.Incremental
import SmlMcps.Pagination

/-! Request heads. The grammar of a request line and a header block is `httparse`'s, a
parameter here; how the body is framed, how much a head may hold and when reading it gives
up are decided by this module. -/
namespace SmlMcps.Http1

open Incremental (Status Settled Waiting)

/-! ## The parser -/

/-- `httparse::Error`. -/
inductive ParseError where
  | headerName
  | headerValue
  | newLine
  | status
  | token
  | tooManyHeaders
  | version
  deriving DecidableEq, Repr

/-- What `httparse::Request` holds after a parse: a field's value is bytes. -/
structure RawRequest where
  method : Option String
  path : Option String
  version : Option Nat
  headers : List (String × List UInt8)
  deriving DecidableEq, Repr

/-- The two functions used of the crate. A parse of a head is given room for a number of
headers; a chunk size is answered with how much was read and the size. -/
structure Httparse where
  parse : Nat → List UInt8 → Status ParseError RawRequest
  parseChunkSize : List UInt8 → Status Unit Nat

def isHexDigit (b : UInt8) : Bool :=
  (0x30 ≤ b && b ≤ 0x39) || (0x41 ≤ b && b ≤ 0x46) || (0x61 ≤ b && b ≤ 0x66)

def hexDigitValue (b : UInt8) : Nat :=
  if b ≤ 0x39 then b.toNat - 0x30 else if b ≤ 0x46 then b.toNat - 0x37 else b.toNat - 0x57

def hexValue (digits : List UInt8) : Nat :=
  digits.foldl (fun total digit => total * 16 + hexDigitValue digit) 0

/-- The documented grammar, as far as the connection relies on it: where a head ends is
settled by the bytes of the head, a head ends with a newline, and a line that starts with
a hex digit is sized by its leading hex digits. -/
structure Httparse.Documented (crate : Httparse) : Prop where
  settled (room : Nat) : Settled (crate.parse room)
  endsLine {room : Nat} {bytes : List UInt8} {length : Nat} {raw : RawRequest} :
    crate.parse room bytes = .complete length raw → bytes[length - 1]? = some lf
  sized {line : List UInt8} {length size : Nat} :
    crate.parseChunkSize (line ++ crlf) = .complete length size →
    line.takeWhile isHexDigit ≠ [] → size = hexValue (line.takeWhile isHexDigit)

/-! ## Heads and responses -/

inductive Method where
  | get
  | head
  | post
  | delete
  | other (token : String)
  deriving DecidableEq, Repr

def Method.parse (token : String) : Method :=
  if token = "GET" then .get
  else if token = "HEAD" then .head
  else if token = "POST" then .post
  else if token = "DELETE" then .delete
  else .other token

inductive Version where
  | http10
  | http11
  deriving DecidableEq, Repr

inductive Framing where
  | empty
  | length (declared : Nat)
  | chunked
  deriving DecidableEq, Repr

structure Head where
  method : Method
  target : String
  version : Version
  headers : List (String × String)
  framing : Framing
  expectsContinue : Bool
  wantsClose : Bool
  deriving DecidableEq, Repr

structure Limits where
  maxHeadBytes : Nat := 32 * 1024
  maxHeaders : Nat := 100
  maxBodyBytes : Nat := 8 * 1024 * 1024
  readTimeout : Nat := 30 * 1000000000
  idleTimeout : Nat := 120 * 1000000000
  writeTimeout : Nat := 30 * 1000000000

structure Response where
  status : Nat
  headers : List (String × String)
  body : List UInt8
  close : Bool
  deriving DecidableEq, Repr

/-- A header field name or a method. -/
def isToken (text : String) : Bool :=
  !text.isEmpty && text.toList.all fun c =>
    c.isAlphanum || "!#$%&'*+-.^_`|~".toList.contains c

/-- Whether this can be a header value without forging the rest of the response. -/
def isFieldValue (text : String) : Bool := text.toList.all fun c => c == '\t' || 0x20 ≤ c.toNat

namespace Response

def new (status : Nat) : Response := ⟨status,[],[],false⟩

/-- Attach a header, unless the value could forge one. -/
def withHeader (response : Response) (name value : String) : Response :=
  if isFieldValue value && isToken name then
    { response with headers := response.headers ++ [(name,value)] }
  else response

def withBody (response : Response) (contentType : String) (body : List UInt8) : Response :=
  { response with body }.withHeader "Content-Type" contentType

def closing (response : Response) : Response := { response with close := true }

end Response

def badRequest (why : String) : Response :=
  ((Response.new 400).withBody "text/plain" (asBytes ("Bad Request: " ++ why ++ "\n"))).closing

def tooLong : Response :=
  ((Response.new 431).withBody "text/plain"
    (asBytes "Request Header Fields Too Large\n")).closing

/-- A request that ran out of its budget part-way through. -/
def timedOut : Response :=
  ((Response.new 408).withBody "text/plain" (asBytes "Request Timeout\n")).closing

def statusOnly (status : Nat) (reason : String) : Response :=
  (Response.new status).withBody "text/plain" (asBytes (reason ++ "\n"))

/-! ## What the headers ask for -/

/-- `str::eq_ignore_ascii_case`. -/
def eqIgnoreAsciiCase (left right : String) : Bool :=
  left.toList.map Char.toLower == right.toList.map Char.toLower

def headerOf (headers : List (String × String)) (name : String) : Option String :=
  (headers.find? fun field => eqIgnoreAsciiCase field.1 name).map (·.2)

/-- `str::trim`. -/
def trim (text : List Char) : List Char :=
  ((text.dropWhile JsonRpcMessage.isWhitespace).reverse.dropWhile
    JsonRpcMessage.isWhitespace).reverse

/-- Whether a comma-separated header value carries this token. -/
def hasToken (value token : String) : Bool :=
  (value.toList.splitOn ',').any fun part => eqIgnoreAsciiCase (String.ofList (trim part)) token

/-- The `Transfer-Encoding` and `Content-Length` seen so far, with one more field. A
repeated length is legal, two different ones are not. -/
def framingField (found : Option String × Option String) (field : String × String) :
    Except Response (Option String × Option String) :=
  if eqIgnoreAsciiCase field.1 "transfer-encoding" then
    if found.1.isSome then .error (badRequest "more than one `Transfer-Encoding`")
    else .ok (some field.2,found.2)
  else if eqIgnoreAsciiCase field.1 "content-length" then
    if found.2.any (· != field.2) then
      .error (badRequest "conflicting `Content-Length` headers")
    else .ok (found.1,some field.2)
  else .ok found

/-- Decide how the body is framed, refusing every shape two parsers could read
differently. -/
def framingOf (headers : List (String × String)) : Except Response Framing := do
  match ← headers.foldlM framingField (none,none) with
  | (some _,some _) => .error (badRequest "both `Transfer-Encoding` and `Content-Length`")
  | (some encoding,none) =>
    if eqIgnoreAsciiCase encoding "chunked" then .ok .chunked
    else .error (statusOnly 501 "Not Implemented").closing
  | (none,some length) =>
    -- The integer parser would take a leading `+`; the grammar has digits only.
    if length.isEmpty || !length.toList.all Char.isDigit then
      .error (badRequest "an unreadable `Content-Length`")
    else match parseUnsigned length.toList with
      | none => .error (badRequest "an unreadable `Content-Length`")
      | some declared => .ok (if declared = 0 then .empty else .length declared)
  | (none,none) => .ok .empty

/-- Header values that are not text are refused rather than repaired. -/
def textHeaders (headers : List (String × List UInt8)) :
    Except Response (List (String × String)) :=
  headers.mapM fun (name,value) =>
    match fromUtf8 value with
    | some text => .ok (name,text)
    | none => .error (badRequest "a header field value that is not text")

def versionOf : Nat → Except Response Version
  | 0 => .ok .http10
  | 1 => .ok .http11
  | _ => .error (statusOnly 505 "HTTP Version Not Supported").closing

/-- Whether the peer waits to be told to send its body; no other expectation is met. -/
def expectsContinue (headers : List (String × String)) (version : Version) :
    Except Response Bool :=
  match headerOf headers "expect" with
  | none => .ok false
  | some value =>
    if eqIgnoreAsciiCase value "100-continue" then .ok (version = .http11)
    else .error (statusOnly 417 "Expectation Failed").closing

/-- Connections of the older version persist only where that is asked for. -/
def wantsClose (headers : List (String × String)) : Version → Bool
  | .http11 => hasToken ((headerOf headers "connection").getD "") "close"
  | .http10 => !hasToken ((headerOf headers "connection").getD "") "keep-alive"

/-- Decide what `httparse` reports but does not adjudicate. -/
def headFrom (raw : RawRequest) : Except Response Head :=
  match raw.method, raw.path, raw.version with
  | some method, some target, some version => do
    let version ← versionOf version
    let headers ← textHeaders raw.headers
    let framing ← framingOf headers
    if framing = .chunked ∧ version = .http10 then
      .error (badRequest "`Transfer-Encoding: chunked` on an HTTP/1.0 request")
    else do
      let expectsContinue ← expectsContinue headers version
      .ok { method := .parse method, target, version, headers, framing, expectsContinue,
            wantsClose := wantsClose headers version }
  | _, _, _ => .error (badRequest "a malformed request line")

/-- What to answer a peer whose head the parser would not accept. -/
def rejection : ParseError → Response
  | .version => (statusOnly 505 "HTTP Version Not Supported").closing
  | .tooManyHeaders => tooLong
  | .headerName => badRequest "a header field name that is not a token"
  | .headerValue => badRequest "a header field value that is not text"
  | .token => badRequest "a malformed request line"
  | .newLine => badRequest "a stray carriage return"
  | .status => badRequest "a malformed request head"

/-! ## The framing rule -/

/-- Every value a header block gives a field, in order. -/
def valuesOf (headers : List (String × String)) (name : String) : List String :=
  (headers.filter fun field => eqIgnoreAsciiCase field.1 name).map (·.2)

/-- The framing a header block calls for: no body, one length that every
`Content-Length` repeats, or the chunked coding alone. -/
inductive Framing.CalledFor (headers : List (String × String)) : Framing → Prop where
  | none (coding : valuesOf headers "transfer-encoding" = [])
      (length : valuesOf headers "content-length" = []) : CalledFor headers .empty
  | length {length : String} (coding : valuesOf headers "transfer-encoding" = [])
      (stated : valuesOf headers "content-length" ≠ [])
      (agreed : ∀ value ∈ valuesOf headers "content-length", value = length)
      (present : length.toList ≠ []) (digits : length.toList.all Char.isDigit = true)
      {declared : Nat} (decimal : declared = Nat.ofDigitChars 10 length.toList 0) :
      CalledFor headers (if declared = 0 then .empty else .length declared)
  | chunked {coding : String} (coded : valuesOf headers "transfer-encoding" = [coding])
      (known : eqIgnoreAsciiCase coding "chunked" = true)
      (length : valuesOf headers "content-length" = []) : CalledFor headers .chunked

theorem not_both_fields {name : String}
    (coding : eqIgnoreAsciiCase name "transfer-encoding" = true) :
    eqIgnoreAsciiCase name "content-length" = false := by
  simp only [eqIgnoreAsciiCase,beq_iff_eq] at coding
  simp only [eqIgnoreAsciiCase,coding]
  decide +kernel

/-- What the scan of the headers holds: the only transfer coding, and what every content
length says. -/
structure FramingFields (codings lengths : List String)
    (found : Option String × Option String) : Prop where
  coding : codings = found.1.toList
  agreed : ∀ value ∈ lengths, found.2 = some value
  stated : found.2.isSome → lengths ≠ []

theorem FramingFields.unstated {codings lengths : List String} {coding : Option String}
    (holds : FramingFields codings lengths (coding,none)) : lengths = [] := by
  cases lengths with
  | nil => rfl
  | cons value rest =>
    have said := holds.agreed value (by simp)
    cases said

theorem framingField_holds {codings lengths : List String}
    {found next : Option String × Option String} {field : String × String}
    (holds : FramingFields codings lengths found)
    (scanned : framingField found field = .ok next) :
    FramingFields (codings ++ valuesOf [field] "transfer-encoding")
      (lengths ++ valuesOf [field] "content-length") next := by
  by_cases coding : eqIgnoreAsciiCase field.1 "transfer-encoding"
  · have other := not_both_fields coding
    cases before : found.1 with
    | some first => simp [framingField,coding,before] at scanned
    | none =>
      simp only [framingField,coding,before,if_true,Option.isSome_none,Bool.false_eq_true,
        if_false,Except.ok.injEq] at scanned
      subst scanned
      exact ⟨by simp [valuesOf,coding,holds.coding,before],
        by simpa [valuesOf,other] using holds.agreed,
        by simpa [valuesOf,other] using holds.stated⟩
  by_cases length : eqIgnoreAsciiCase field.1 "content-length"
  · by_cases conflict : found.2.any (· != field.2)
    · simp [framingField,coding,length,conflict] at scanned
    · simp only [framingField,coding,length,conflict,if_true,Bool.false_eq_true,if_false,
        Except.ok.injEq] at scanned
      subst scanned
      refine ⟨by simp [valuesOf,coding,holds.coding],?_,by simp [valuesOf,length]⟩
      intro value member
      simp only [valuesOf,length,List.filter_cons_of_pos,List.filter_nil,List.map_cons,
        List.map_nil,List.mem_append,List.mem_singleton] at member
      rcases member with earlier | rfl
      · have said := holds.agreed value earlier
        simp only [said,Option.any_some,bne_iff_ne,ne_eq,Decidable.not_not] at conflict
        rw [conflict]
      · rfl
  · simp only [framingField,coding,length,Bool.false_eq_true,if_false,Except.ok.injEq] at scanned
    subst scanned
    simpa [valuesOf,coding,length] using holds

theorem framingFields_hold {headers : List (String × String)} {codings lengths : List String}
    {found last : Option String × Option String} (holds : FramingFields codings lengths found)
    (scanned : headers.foldlM framingField found = .ok last) :
    FramingFields (codings ++ valuesOf headers "transfer-encoding")
      (lengths ++ valuesOf headers "content-length") last := by
  induction headers generalizing codings lengths found with
  | nil =>
    cases scanned
    simpa [valuesOf] using holds
  | cons field rest ih =>
    rw [List.foldlM_cons] at scanned
    cases step : framingField found field with
    | error response => simp [step,bind,Except.bind] at scanned
    | ok next =>
      simp only [step,bind,Except.bind] at scanned
      have after := ih (framingField_holds holds step) scanned
      simpa [valuesOf,← List.filter_append,← List.map_append] using after

/-- Digits alone read as their decimal value. -/
theorem parseUnsigned_digits {text : List Char} {value : Nat}
    (digits : text.all Char.isDigit = true) (read : parseUnsigned text = some value) :
    value = Nat.ofDigitChars 10 text 0 := by
  obtain ⟨rest,rfl | rfl,-,-,same⟩ := parseUnsigned_some read
  · exact same
  · simp at digits

/-- A framing that is decided is the one the headers call for. -/
theorem framingOf_calledFor {headers : List (String × String)} {framing : Framing}
    (framed : framingOf headers = .ok framing) : Framing.CalledFor headers framing := by
  cases scanned : headers.foldlM framingField (none,none) with
  | error response => simp [framingOf,scanned,bind,Except.bind] at framed
  | ok found =>
    have start : FramingFields [] [] (none,none) := ⟨rfl,by simp,by simp⟩
    have holds := framingFields_hold start scanned
    simp only [List.nil_append] at holds
    obtain ⟨coding,length⟩ := found
    cases coding with
    | some coding =>
      cases length with
      | some length => simp [framingOf,scanned,bind,Except.bind] at framed
      | none =>
        by_cases known : eqIgnoreAsciiCase coding "chunked"
        · simp only [framingOf,scanned,bind,Except.bind,known,if_true,Except.ok.injEq] at framed
          subst framed
          exact .chunked holds.coding known holds.unstated
        · simp [framingOf,scanned,bind,Except.bind,known] at framed
    | none =>
      cases length with
      | none =>
        simp only [framingOf,scanned,bind,Except.bind,Except.ok.injEq] at framed
        subst framed
        exact .none holds.coding holds.unstated
      | some length =>
        simp only [framingOf,scanned,bind,Except.bind] at framed
        split at framed
        · cases framed
        · rename_i readable
          simp only [Bool.or_eq_true,not_or,Bool.not_eq_true,Bool.not_eq_false'] at readable
          split at framed
          · cases framed
          · rename_i declared read
            cases framed
            refine .length holds.coding (holds.stated rfl) (fun value member => ?_) ?_
              readable.2 (parseUnsigned_digits readable.2 read)
            · exact (Option.some.inj (holds.agreed value member)).symm
            · simpa using readable.1

theorem bind_eq_ok {α β ε : Type} {first : Except ε α} {rest : α → Except ε β} {value : β}
    (ran : (first >>= rest) = .ok value) : ∃ middle, first = .ok middle ∧ rest middle = .ok value := by
  cases first with
  | error e => cases ran
  | ok middle => exact ⟨middle,rfl,ran⟩

/-- So an accepted head is framed as its own headers call for. -/
theorem headFrom_calledFor {raw : RawRequest} {head : Head} (made : headFrom raw = .ok head) :
    Framing.CalledFor head.headers head.framing := by
  simp only [headFrom] at made
  split at made
  · obtain ⟨version,-,made⟩ := bind_eq_ok made
    obtain ⟨headers,-,made⟩ := bind_eq_ok made
    obtain ⟨framing,framed,made⟩ := bind_eq_ok made
    split at made
    · cases made
    · obtain ⟨expects,-,made⟩ := bind_eq_ok made
      cases made
      exact framingOf_calledFor framed
  · cases made

/-! ## Reading a head -/

def maxLeadingBlankLines : Nat := 8

/-- The empty lines before the request line, counted no further than `left`. -/
def blankLinesBeforeARequest : (left : Nat) → List UInt8 → Nat
  | 0, _ => 0
  | left + 1, 13 :: 10 :: rest => blankLinesBeforeARequest left rest + 1
  | left + 1, 10 :: rest => blankLinesBeforeARequest left rest + 1
  | _ + 1, _ => 0

def tooManyBlankLines : Response :=
  badRequest "more empty lines before a request line than this server ignores"

/-- Whether a clock that is running has run out. -/
def overdue (clock : Option Deadline) (wire : Wire) : Bool × Wire :=
  match clock with
  | some deadline => deadline.expired wire
  | none => (false,wire)

/-- The clock of a request starts with its first byte; it is armed again after each read. -/
def running (clock : Option Deadline) (limits : Limits) (wire : Wire) : Deadline × Wire :=
  let (deadline,wire) := match clock with
    | some deadline => (deadline,wire)
    | none => Deadline.startingNow limits.readTimeout wire
  (deadline,deadline.arm wire)

section
variable {clock : Option Deadline} {limits : Limits} {wire : Wire}

@[simp] theorem overdue_buffer : (overdue clock wire).2.buffer = wire.buffer := by
  cases clock <;> simp [overdue]

@[simp] theorem overdue_arriving : (overdue clock wire).2.arriving = wire.arriving := by
  cases clock <;> simp [overdue]

@[simp] theorem running_buffer : (running clock limits wire).2.buffer = wire.buffer := by
  cases clock <;> simp [running,Deadline.startingNow_buffer]

@[simp] theorem running_arriving : (running clock limits wire).2.arriving = wire.arriving := by
  cases clock <;> simp [running,Deadline.startingNow_arriving]

end

section
variable (crate : Httparse) (limits : Limits)

/-- The parser is only asked in a round that ended a line. -/
def askParser (taken raw : List UInt8) : Status ParseError RawRequest :=
  if taken.contains lf then crate.parse limits.maxHeaders raw else .incomplete

/-- Read a request head, and start the clock the whole request runs on. `raw` is what was
gathered of it and `consumed` how much of that left the buffer. -/
def readHead (raw : List UInt8) (consumed : Nat) (clock : Option Deadline) (wire : Wire) :
    Except Response (Option (Head × Deadline)) × Wire :=
  if limits.maxHeadBytes ≤ raw.length then (.error tooLong,wire)
  else if (overdue clock wire).1 then (.error timedOut,(overdue clock wire).2)
  else match _ : (overdue clock wire).2.fillBuf with
    | (.error .interrupted,next) => readHead raw consumed clock next
    | (.error _,next) =>
      (if (overdue clock next).1 then .error timedOut else .ok none,(overdue clock next).2)
    | (.ok available,next) =>
      if available = [] then (.ok none,next)
      else
        let take := min available.length (limits.maxHeadBytes - raw.length)
        let gathered := raw ++ available.take take
        let started := running clock limits next
        if maxLeadingBlankLines <
            blankLinesBeforeARequest (maxLeadingBlankLines + 1) gathered then
          (.error tooManyBlankLines,started.2)
        else match askParser crate limits (available.take take) gathered with
          | .complete length parsed =>
            ((headFrom parsed).map fun head => some (head,started.1),
              started.2.consume (length - consumed))
          | .error e => (.error (rejection e),started.2)
          | .incomplete =>
            readHead gathered (consumed + take) (some started.1) (started.2.consume take)
termination_by wire.weight
decreasing_by
  · rename_i filled
    have used := Wire.fillBuf_interrupted filled
    rwa [Wire.weight_congr overdue_buffer overdue_arriving] at used
  · rename_i filled present _
    have some : 0 < available.length := List.length_pos_iff.mpr present
    have whole : started.2.buffer.length = available.length := by
      rw [running_buffer,Wire.fillBuf_ok filled]
    have room : take ≤ available.length := Nat.min_le_left _ _
    have smaller := started.2.consume_weight take (by omega)
    have kept := (overdue clock wire).2.fillBuf_weight.1
    rw [filled,Wire.weight_congr overdue_buffer overdue_arriving] at kept
    have same : started.2.weight = next.weight :=
      Wire.weight_congr running_buffer running_arriving
    change next.weight ≤ wire.weight at kept
    change (started.2.consume take).weight < wire.weight
    omega

end

section
variable {crate : Httparse} {limits : Limits} {clock : Option Deadline} {wire next : Wire}

/-- These bytes, all of them, are a head. -/
def IsHead (crate : Httparse) (limits : Limits) (bytes : List UInt8) (head : Head) : Prop :=
  ∃ parsed, crate.parse limits.maxHeaders bytes = .complete bytes.length parsed ∧
    headFrom parsed = .ok head

theorem IsHead.calledFor {bytes : List UInt8} {head : Head}
    (parsed : IsHead crate limits bytes head) : Framing.CalledFor head.headers head.framing := by
  obtain ⟨raw,-,made⟩ := parsed
  exact headFrom_calledFor made

theorem Httparse.Documented.waiting_nil (documented : crate.Documented) (room : Nat) :
    Waiting (crate.parse room) [] := by
  intro length parsed complete
  have last := documented.endsLine complete
  simp at last

theorem IsHead.ne_nil (documented : crate.Documented) {bytes : List UInt8} {head : Head}
    (parsed : IsHead crate limits bytes head) : bytes ≠ [] := by
  rintro rfl
  obtain ⟨raw,complete,-⟩ := parsed
  exact documented.waiting_nil _ _ _ complete

theorem askParser_complete (documented : crate.Documented) {raw taken : List UInt8}
    {length : Nat} {parsed : RawRequest}
    (asked : askParser crate limits taken (raw ++ taken) = .complete length parsed)
    (waiting : Waiting (crate.parse limits.maxHeaders) raw) :
    crate.parse limits.maxHeaders (raw ++ taken) = .complete length parsed ∧
      raw.length < length := by
  by_cases ended : taken.contains lf
  · simp only [askParser,ended,if_true] at asked
    exact ⟨asked,(documented.settled _).beyond waiting asked⟩
  · simp only [askParser,ended,Bool.false_eq_true,if_false] at asked
    cases asked

/-- A round that did not end a line has not completed a head either. -/
theorem askParser_incomplete (documented : crate.Documented) {raw taken : List UInt8}
    (asked : askParser crate limits taken (raw ++ taken) = .incomplete)
    (waiting : Waiting (crate.parse limits.maxHeaders) raw) :
    Waiting (crate.parse limits.maxHeaders) (raw ++ taken) := by
  by_cases ended : taken.contains lf
  · simp only [askParser,ended,if_true] at asked
    intro length parsed complete
    rw [asked] at complete
    cases complete
  · exact (documented.settled _).waiting_append waiting documented.endsLine (by simpa using ended)

theorem askParser_error {taken raw : List UInt8} {e : ParseError}
    (asked : askParser crate limits taken raw = .error e) :
    crate.parse limits.maxHeaders raw = .error e := by
  by_cases ended : taken.contains lf
  · simpa only [askParser,ended,if_true] using asked
  · simp only [askParser,ended,Bool.false_eq_true,if_false] at asked
    cases asked

/-- What a round takes was the front of the stream. -/
theorem round_front {available : List UInt8} {middle : Wire}
    (filled : (overdue clock wire).2.fillBuf = (.ok available,middle)) (count : Nat) :
    wire.stream = available.take count ++
      ((running clock limits middle).2.consume count).stream := by
  have whole : (running clock limits middle).2.buffer = available := by
    rw [running_buffer,Wire.fillBuf_ok filled]
  have moved := (overdue clock wire).2.fillBuf_stream
  rw [filled] at moved
  calc wire.stream
      = (overdue clock wire).2.stream := (Wire.stream_congr overdue_buffer overdue_arriving).symm
    _ = middle.stream := moved.symm
    _ = (running clock limits middle).2.stream :=
        (Wire.stream_congr running_buffer running_arriving).symm
    _ = _ := by rw [Wire.consume_stream _ count,whole]

/-- What came of asking for a head where `stream` starts: the verdict of the parser is
always on bytes from there, and an accepted head leaves `rest` after exactly its bytes. -/
inductive HeadRead (crate : Httparse) (limits : Limits) (stream rest : List UInt8) :
    Except Response (Option (Head × Deadline)) → Prop where
  | quiet : HeadRead crate limits stream rest (.ok none)
  | accepted {bytes : List UInt8} {head : Head} {deadline : Deadline}
      (front : stream = bytes ++ rest) (parsed : IsHead crate limits bytes head) :
      HeadRead crate limits stream rest (.ok (some (head,deadline)))
  | unfit {bytes : List UInt8} {parsed : RawRequest} {response : Response}
      (front : stream = bytes ++ rest)
      (complete : crate.parse limits.maxHeaders bytes = .complete bytes.length parsed)
      (refused : headFrom parsed = .error response) :
      HeadRead crate limits stream rest (.error response)
  | ungrammatical {bytes after : List UInt8} {e : ParseError} (front : stream = bytes ++ after)
      (refused : crate.parse limits.maxHeaders bytes = .error e) :
      HeadRead crate limits stream rest (.error (rejection e))
  | gaveUp {response : Response}
      (reason : response = tooLong ∨ response = timedOut ∨ response = tooManyBlankLines) :
      HeadRead crate limits stream rest (.error response)

/-- A head that a round completes ends in what that round brought. -/
theorem round_completes (documented : crate.Documented) {raw available : List UInt8}
    {length take : Nat} {parsed : RawRequest} (room : take ≤ available.length)
    (asked : askParser crate limits (available.take take) (raw ++ available.take take) =
      .complete length parsed)
    (waiting : Waiting (crate.parse limits.maxHeaders) raw) :
    crate.parse limits.maxHeaders (raw ++ available.take (length - raw.length)) =
      .complete (raw ++ available.take (length - raw.length)).length parsed := by
  obtain ⟨complete,late⟩ := askParser_complete documented asked waiting
  have within := (documented.settled _).within complete
  simp only [List.length_append,List.length_take] at within
  have size : (raw ++ available.take (length - raw.length)).length = length := by
    simp only [List.length_append,List.length_take]
    omega
  have inside : min (length - raw.length) take = length - raw.length := by omega
  rw [size]
  apply (documented.settled _).settled complete
  simp only [List.take_append,List.take_take,Nat.min_self,inside]

/-- Reading is resumed each round with what was gathered, over which no head has been
completed; so an accepted head is the front of the stream from where reading began, and
exactly its bytes are gone. -/
theorem readHead_read (documented : crate.Documented) {raw : List UInt8} {consumed : Nat}
    (waiting : Waiting (crate.parse limits.maxHeaders) raw) (counted : consumed = raw.length) :
    HeadRead crate limits (raw ++ wire.stream)
      (readHead crate limits raw consumed clock wire).2.stream
      (readHead crate limits raw consumed clock wire).1 := by
  fun_induction readHead crate limits raw consumed clock wire with
  | case1 => exact .gaveUp (.inl rfl)
  | case2 => exact .gaveUp (.inr (.inl rfl))
  | case3 raw consumed clock wire _ _ middle filled again =>
    have moved := (overdue clock wire).2.fillBuf_stream
    rw [filled,Wire.stream_congr overdue_buffer overdue_arriving] at moved
    rw [← moved]
    exact again waiting counted
  | case4 raw consumed clock wire _ _ kind middle _ filled =>
    split
    · exact .gaveUp (.inr (.inl rfl))
    · exact .quiet
  | case5 => exact .quiet
  | case6 => exact .gaveUp (.inr (.inr rfl))
  | case7 raw consumed clock wire _ _ available middle filled present take gathered started _
      length parsed asked =>
    subst counted
    have complete := round_completes documented (Nat.min_le_left _ _) asked waiting
    have whole : raw ++ wire.stream = raw ++ available.take (length - raw.length) ++
        (started.2.consume (length - raw.length)).stream := by
      rw [round_front filled (length - raw.length),List.append_assoc]
    cases made : headFrom parsed with
    | error response => exact .unfit whole complete made
    | ok head => exact .accepted whole ⟨parsed,complete,made⟩
  | case8 raw consumed clock wire _ _ available middle filled present take gathered started _
      e asked =>
    have whole : raw ++ wire.stream = gathered ++ (started.2.consume take).stream := by
      rw [round_front filled take,← List.append_assoc]
    exact .ungrammatical whole (askParser_error asked)
  | case9 raw consumed clock wire _ _ available middle filled present take gathered started _
      asked again =>
    have size : consumed + take = gathered.length := by
      simp only [gathered,List.length_append,List.length_take,counted]
      omega
    have whole := again (askParser_incomplete documented asked waiting) size
    have front : raw ++ wire.stream = gathered ++ (started.2.consume take).stream := by
      rw [round_front filled take,← List.append_assoc]
    rw [front]
    exact whole

/-- A request is read from where the connection stands. -/
theorem readHead_begun (documented : crate.Documented) (limits : Limits) (wire : Wire) :
    HeadRead crate limits wire.stream (readHead crate limits [] 0 none wire).2.stream
      (readHead crate limits [] 0 none wire).1 :=
  readHead_read documented (documented.waiting_nil limits.maxHeaders) rfl

end

end SmlMcps.Http1
