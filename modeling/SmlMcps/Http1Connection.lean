import SmlMcps.Http1Body
import SmlMcps.Http1Plain

/-! One connection, from the first request line to the last. A handler is whatever it
does with a request: it may read the body any number of times and with any limits, take
its time, answer or panic, and may depend on everything that went before. What a
connection does with its stream is a list of turns, one for each request head asked for. -/
namespace SmlMcps.Http1

/-! ## Responses on the wire -/

def Version.text : Version → String
  | .http10 => "HTTP/1.0"
  | .http11 => "HTTP/1.1"

def reasonPhrase : Nat → String
  | 200 => "OK"
  | 202 => "Accepted"
  | 204 => "No Content"
  | 400 => "Bad Request"
  | 401 => "Unauthorized"
  | 403 => "Forbidden"
  | 404 => "Not Found"
  | 405 => "Method Not Allowed"
  | 408 => "Request Timeout"
  | 413 => "Payload Too Large"
  | 417 => "Expectation Failed"
  | 431 => "Request Header Fields Too Large"
  | 500 => "Internal Server Error"
  | 501 => "Not Implemented"
  | 503 => "Service Unavailable"
  | 505 => "HTTP Version Not Supported"
  | _ => "Status"

/-- The bytes of one response. Two statuses define no body, and the answer to a `HEAD`
carries its headers without one. -/
def render (method : Method) (version : Version) (response : Response) (keepAlive : Bool) :
    List UInt8 :=
  let empty := response.status == 204 || response.status == 304
  let statusLine := version.text ++ " " ++ toString response.status ++ " " ++
    reasonPhrase response.status ++ "\r\n"
  let fields := response.headers.flatMap fun (name,value) => asBytes (name ++ ": " ++ value ++ "\r\n")
  let length := if empty then []
    else asBytes ("Content-Length: " ++ toString response.body.length ++ "\r\n")
  let connection := asBytes (if keepAlive then "Connection: keep-alive\r\n" else "Connection: close\r\n")
  let body := if empty || method = .head then [] else response.body
  asBytes statusLine ++ fields ++ length ++ connection ++ crlf ++ body

def writeResponse (method : Method) (version : Version) (response : Response) (limits : Limits)
    (wire : Wire) : Bool × Wire :=
  (wire.armWrite limits.writeTimeout).writeAll (render method version response !response.close)

/-! ## Handlers -/

inductive Handling where
  | readBody (limit : Nat) (next : Except BodyError String → Handling)
  | pause (took : Nat) (next : Handling)
  | respond (response : Response)
  | panic

structure Ran where
  reads : List (Except BodyError String)
  outcome : Option Response
  body : Body
  wire : Wire

def Handling.run (crate : Httparse) : Handling → Body → Wire → Ran
  | .readBody limit next, body, wire =>
    let read := body.read crate limit wire
    let ran := (next read.1).run crate read.2.1 read.2.2
    { ran with reads := read.1 :: ran.reads }
  | .pause took next, body, wire => next.run crate body { wire with now := wire.now + took }
  | .respond response, body, wire => ⟨[],some response,body,wire⟩
  | .panic, body, wire => ⟨[],none,body,wire⟩

/-- The backstop for a handler that does not contain its own panics. -/
def panicResponse : Response :=
  ((Response.new 500).withBody "text/plain" (asBytes "Internal Server Error\n")).closing

/-! ## The connection -/

/-- One request that was handed to the handler: what its reads answered, whether its body
was consumed whole, and what it was answered. -/
structure Exchange where
  head : Head
  reads : List (Except BodyError String)
  finished : Bool
  response : Response
  deriving DecidableEq

/-- What became of asking for a request head: the peer had gone quiet, it was refused, or
there was a request. -/
inductive Turn where
  | quiet
  | rejected (response : Response)
  | answered (exchange : Exchange)
  deriving DecidableEq

section
variable (crate : Httparse) (limits : Limits)

/-- Handle one request, answer it, and say whether the connection may carry another. -/
def serveRequest (handling : Handling) (head : Head) (deadline : Deadline) (wire : Wire) :
    Exchange × Bool × Wire :=
  let body : Body :=
    { framing := head.framing, mustSendContinue := head.expectsContinue,
      finished := head.framing = .empty, started := false, deadline,
      writeTimeout := limits.writeTimeout }
  let ran := handling.run crate body wire
  let response := ran.outcome.getD panicResponse
  let drained := ran.body.drainIfCheap limits.maxBodyBytes ran.wire
  -- The peer asked for it, the answer allows it, and the next request starts where the
  -- connection is.
  let reusable := head.version = .http11 && !head.wantsClose && !response.close &&
    drained.1.finished
  let response := if reusable then response else response.closing
  let sent := writeResponse head.method head.version response limits drained.2
  (⟨head,ran.reads,drained.1.finished,response⟩,reusable && sent.1,sent.2)

/-- The first `rounds` turns of a connection that has `served` requests. What a lingering
close still reads is thrown away. -/
def serveConnection (handle : Nat → Head → Handling) :
    (rounds : Nat) → (served : Nat) → Wire → List Turn × Wire
  | 0, _, wire => ([],wire)
  | rounds + 1, served, wire =>
    match readHead crate limits [] 0 none (wire.armRead limits.idleTimeout) with
    | (.ok none,next) => ([.quiet],next)
    | (.error rejection,next) =>
      ([.rejected rejection],(writeResponse .get .http11 rejection limits next).2)
    | (.ok (some (head,deadline)),next) =>
      match serveRequest crate limits (handle served head) head deadline next with
      | (exchange,false,next) => ([.answered exchange],next)
      | (exchange,true,next) =>
        let later := serveConnection handle rounds (served + 1) next
        (.answered exchange :: later.1,later.2)

end

/-! ## The turns of a connection lie end to end on its stream -/

/-- `turns` is what a connection may do with `stream`. Only a request whose whole message
was consumed is followed by another turn, and that one starts at the byte after it. -/
inductive Aligned (crate : Httparse) (limits : Limits) : List UInt8 → List Turn → Prop where
  | cut {stream : List UInt8} : Aligned crate limits stream []
  | quiet {stream : List UInt8} : Aligned crate limits stream [.quiet]
  | rejected {stream rest : List UInt8} {response : Response}
      (verdict : HeadRead crate limits stream rest (.error response)) :
      Aligned crate limits stream [.rejected response]
  | abandoned {head rest : List UInt8} {exchange : Exchange}
      (parsed : IsHead crate limits head exchange.head) (unfinished : exchange.finished = false)
      (refused : ∀ text, .ok text ∉ exchange.reads) :
      Aligned crate limits (head ++ rest) [.answered exchange]
  | message {head body payload rest : List UInt8} {exchange : Exchange} {turns : List Turn}
      (parsed : IsHead crate limits head exchange.head) (finished : exchange.finished = true)
      (promised : MessageBody exchange.head.headers body payload)
      (delivered : ∀ text, .ok text ∈ exchange.reads → asBytes text = payload)
      (next : Aligned crate limits rest turns) :
      Aligned crate limits (head ++ body ++ rest) (.answered exchange :: turns)

section
variable {crate : Httparse} {limits : Limits} {start : List UInt8} {framing : Framing}
  {body : Body} {wire : Wire} {reads : List (Except BodyError String)}

theorem run_invariant (documented : crate.Documented) (handling : Handling)
    (holds : BodyInvariant start framing body wire reads) :
    BodyInvariant start framing (handling.run crate body wire).body
      (handling.run crate body wire).wire (reads ++ (handling.run crate body wire).reads) := by
  induction handling generalizing body wire reads with
  | readBody limit next ih =>
    have after := ih (body.read crate limit wire).1 (read_invariant documented limit holds)
    simpa only [Handling.run,List.append_assoc,List.singleton_append] using after
  | pause took next ih =>
    refine ih ⟨holds.framed,fun fresh => ?_,holds.promised,holds.refused,holds.fresh⟩
    exact holds.untouched fresh
  | respond response => simpa only [Handling.run,List.append_nil] using holds
  | panic => simpa only [Handling.run,List.append_nil] using holds

theorem BodyInvariant.begun (body : Body)
    (finished : body.finished = decide (body.framing = .empty)) :
    BodyInvariant wire.stream body.framing body wire [] := by
  refine ⟨rfl,fun _ => ⟨rfl,rfl⟩,fun done => ⟨[],[],rfl,?_,by simp⟩,fun _ text => by simp,
    fun _ done => ?_⟩
  · rw [finished,decide_eq_true_eq] at done
    rw [done]
    exact ⟨rfl,rfl⟩
  · rwa [finished,decide_eq_true_eq] at done

theorem writeResponse_stream (method : Method) (version : Version) (response : Response)
    (limits : Limits) (wire : Wire) :
    (writeResponse method version response limits wire).2.stream = wire.stream :=
  Wire.stream_congr (by simp [writeResponse]) (by simp [writeResponse])

/-- Serving one request: the connection is only kept after a finished body, and a finished
body is the one the headers promise. -/
theorem serveRequest_step (documented : crate.Documented) {handling : Handling} {head : Head}
    {deadline : Deadline} {exchange : Exchange} {reused : Bool} {next : Wire}
    (called : Framing.CalledFor head.headers head.framing)
    (served : serveRequest crate limits handling head deadline wire = (exchange,reused,next)) :
    exchange.head = head ∧ (reused = true → exchange.finished = true) ∧
    (exchange.finished = false → ∀ text, .ok text ∉ exchange.reads) ∧
    (exchange.finished = true → ∃ taken payload, wire.stream = taken ++ next.stream ∧
      MessageBody head.headers taken payload ∧
      ∀ text, .ok text ∈ exchange.reads → asBytes text = payload) := by
  simp only [serveRequest,Prod.mk.injEq] at served
  obtain ⟨rfl,reuse,rfl⟩ := served
  let body : Body :=
    { framing := head.framing, mustSendContinue := head.expectsContinue,
      finished := head.framing = .empty, started := false, deadline,
      writeTimeout := limits.writeTimeout }
  have begun : BodyInvariant wire.stream head.framing body wire [] := .begun body rfl
  have ran := run_invariant documented handling begun
  have drained := drainIfCheap_invariant limits.maxBodyBytes ran
  refine ⟨rfl,fun kept => ?_,drained.refused,fun finished => ?_⟩
  · rw [kept] at reuse
    simp only [Bool.and_eq_true] at reuse
    exact reuse.1.2
  · obtain ⟨taken,payload,rest,frames,texts⟩ := drained.promised finished
    exact ⟨taken,payload,by rw [writeResponse_stream]; exact rest,⟨_,called,frames⟩,texts⟩

/-- A request whose head was read is aligned, and so is what a kept connection does
next. -/
theorem serveRequest_aligned (documented : crate.Documented) {handling : Handling} {head : Head}
    {deadline : Deadline} {exchange : Exchange} {reused : Bool} {next : Wire}
    {bytes : List UInt8} (parsed : IsHead crate limits bytes head)
    (served : serveRequest crate limits handling head deadline wire = (exchange,reused,next))
    {turns : List Turn} (later : Aligned crate limits next.stream turns) :
    Aligned crate limits (bytes ++ wire.stream)
      (.answered exchange :: if reused then turns else []) := by
  obtain ⟨rfl,kept,refused,promised⟩ := serveRequest_step documented parsed.calledFor served
  cases finished : exchange.finished with
  | false =>
    have closed : reused = false := by
      by_contra open'
      simp [kept (by simpa using open')] at finished
    rw [closed]
    exact .abandoned parsed finished (refused finished)
  | true =>
    obtain ⟨taken,payload,rest,message,texts⟩ := promised finished
    rw [rest,← List.append_assoc]
    cases reused with
    | false => exact .message parsed finished message texts .cut
    | true => exact .message parsed finished message texts later

/-- Whatever the peer sends, however it arrives, and whatever the handlers do, a kept
connection never loses its place: a head is only ever read at the byte after the previous
message, as its own head framed it, and a body is only ever delivered from the bytes of
its message. -/
theorem keep_alive_never_desynchronises (documented : crate.Documented)
    (handle : Nat → Head → Handling) (rounds served : Nat) (wire : Wire) :
    Aligned crate limits wire.stream (serveConnection crate limits handle rounds served wire).1 := by
  induction rounds generalizing served wire with
  | zero => exact .cut
  | succ rounds ih =>
    have armed : (wire.armRead limits.idleTimeout).stream = wire.stream := rfl
    have begun := readHead_begun documented limits (wire.armRead limits.idleTimeout)
    rw [armed] at begun
    rcases asked : readHead crate limits [] 0 none (wire.armRead limits.idleTimeout) with
      ⟨response | _ | ⟨head,deadline⟩,middle⟩
    · rw [asked] at begun
      simp only [serveConnection,asked]
      exact .rejected begun
    · simp only [serveConnection,asked]
      exact .quiet
    · rw [asked] at begun
      cases begun with
      | accepted front parsed =>
        rcases answered : serveRequest crate limits (handle served head) head deadline middle with
          ⟨exchange,reused,next⟩
        have aligned := serveRequest_aligned documented parsed answered (ih (served + 1) next)
        rw [front]
        cases reused with
        | false => simpa [serveConnection,asked,answered] using aligned
        | true => simpa [serveConnection,asked,answered] using aligned

/-- Three messages in three reads that end inside them: a body that looks like a head and
is only drained, a chunked one that is read, and a peer that waits to be told to send. -/
def pipelined : Wire :=
  let bytes := asBytes ("POST /mcp HTTP/1.1\r\nContent-Length: 8\r\n\r\nGET / HT" ++
    "POST /mcp HTTP/1.1\r\nTransfer-Encoding: chunked\r\n\r\n3\r\nabc\r\n0\r\n\r\n" ++
    "DELETE /mcp HTTP/1.1\r\nContent-Length: 18\r\nExpect: 100-continue\r\n\r\n" ++
    "GET / HTTP/1.1\r\n\r\n")
  { buffer := [],
    arriving := [⟨0,.ok (bytes.take 30)⟩,⟨5,.error .interrupted⟩,
      ⟨7,.ok ((bytes.drop 30).take 77)⟩,⟨9,.ok (bytes.drop 107)⟩],
    armed := 0, writeArmed := 0, now := 0, lapses := [1,0,2], latest := 2^63, deliveries := [],
    sent := [] }

def readsSecond : Nat → Head → Handling
  | 1, _ => .readBody 100 fun _ => .respond (.new 200)
  | _, _ => .respond (.new 204)

theorem pipelined_requests_aligned :
    ((serveConnection plain {} readsSecond 4 0 pipelined).1.map fun turn =>
      match turn with
      | .answered exchange => some (exchange.head.method,exchange.reads,exchange.finished)
      | _ => none) =
      [some (.post,[],true),some (.post,[.ok "abc"],true),some (.delete,[],false)] ∧
    Aligned plain {} pipelined.stream
      (serveConnection plain {} readsSecond 4 0 pipelined).1 :=
  ⟨by decide +kernel,keep_alive_never_desynchronises plain_documented readsSecond 4 0 pipelined⟩

/-- Every turn that is followed by another takes something off the stream, so a connection
comes to an end: more rounds than the stream has bytes are all its turns. -/
theorem serveConnection_ends (documented : crate.Documented) (handle : Nat → Head → Handling)
    {rounds : Nat} (served : Nat) {wire : Wire} (enough : wire.stream.length < rounds) :
    serveConnection crate limits handle (rounds + 1) served wire =
      serveConnection crate limits handle rounds served wire := by
  induction rounds generalizing served wire with
  | zero => omega
  | succ rounds ih =>
    have begun := readHead_begun documented limits (wire.armRead limits.idleTimeout)
    rcases asked : readHead crate limits [] 0 none (wire.armRead limits.idleTimeout) with
      ⟨response | _ | ⟨head,deadline⟩,middle⟩
    · simp only [serveConnection,asked]
    · simp only [serveConnection,asked]
    · rw [asked] at begun
      cases begun with
      | accepted front parsed =>
        rcases answered : serveRequest crate limits (handle served head) head deadline middle with
          ⟨exchange,reused,next⟩
        cases reused with
        | false => simp only [serveConnection,asked,answered]
        | true =>
          obtain ⟨-,kept,-,promised⟩ := serveRequest_step documented parsed.calledFor answered
          obtain ⟨taken,payload,rest,-⟩ := promised (kept rfl)
          have some := List.length_pos_iff.mpr (parsed.ne_nil documented)
          have size : wire.stream.length = _ := congrArg List.length front
          rw [rest] at size
          simp only [List.length_append] at size
          have again := ih (served + 1) (show next.stream.length < rounds by omega)
          rw [serveConnection]
          conv => rhs; rw [serveConnection]
          simp only [asked,answered,again]

end

end SmlMcps.Http1
