import SmlMcps.Library.EventStream
import SmlMcps.HttpAnswers

/-! The transport of one HTTP request. What the handler and the task workers write is
buffered under a lock; the response seals the buffer; and once the exchange is over what was
buffered decides between a JSON body, an event stream and no body at all. -/
namespace SmlMcps

def JsonRpcMessage.isResponse : JsonRpcMessage → Bool
  | .response _ => true
  | _ => false

/-- What one HTTP request has produced so far. -/
structure Buffered where
  /-- Notifications written before the response, in order. -/
  notifications : List String := []
  /-- The response, once one has been written. -/
  response : Option String := none
  deriving DecidableEq, Repr

/-- HTTP request/response transport. -/
structure HttpTransport where
  request : Option String
  messages : Buffered
  deriving DecidableEq, Repr

namespace HttpTransport

def new (requestBody : String) : HttpTransport := ⟨some requestBody,{}⟩

/-- The request body is read once. -/
def read (fromStr : String → Except String Json) (transport : HttpTransport) :
    Except McpError JsonRpcMessage × HttpTransport :=
  match transport.request with
  | none => (.error .transportClosed,transport)
  | some body => (JsonRpcMessage.parse fromStr body,{ transport with request := none })

/-- Buffer a message for the response body. Writing the response closes the transport. -/
def write (text : JsonText) (transport : HttpTransport) (message : JsonRpcMessage) :
    Except McpError Unit × HttpTransport :=
  let json := text.serialize message
  let buffered := transport.messages
  if buffered.response.isSome then (.error .transportClosed,transport)
  else match message with
    | .response _ => (.ok (),{ transport with messages := { buffered with response := some json } })
    | _ => (.ok (),{ transport with
        messages := { buffered with notifications := buffered.notifications ++ [json] } })

/-- A message formatted as an event. -/
def event (message : String) : String := "data: " ++ message ++ "\n\n"

/-- Take the response as an event stream. -/
def takeSseResponse (transport : HttpTransport) : String :=
  let buffered := transport.messages
  String.join ((buffered.notifications ++ buffered.response.toList).map event)

/-- Take the response as plain JSON. -/
def takeResponse (transport : HttpTransport) : Option String := transport.messages.response

/-- Whether anything besides the response needs an event stream to carry it. -/
def hasNotifications (transport : HttpTransport) : Bool :=
  !transport.messages.notifications.isEmpty

/-- What one request produced, from what its transport buffered. -/
def answerFrom (transport : HttpTransport) : Processed :=
  match transport.takeResponse with
  | none => .accepted
  | some response =>
    if transport.hasNotifications then .body transport.takeSseResponse "text/event-stream"
    else .body response "application/json"

/-- Writes one after another, as the lock orders those of the handler and of the workers,
with what each came to. -/
def writeAll (text : JsonText) (transport : HttpTransport) :
    List JsonRpcMessage → List (Except McpError Unit) × HttpTransport
  | [] => ([],transport)
  | message :: rest =>
    let (outcome,next) := transport.write text message
    let (outcomes,last) := next.writeAll text rest
    (outcome :: outcomes,last)

/-! ## What is accepted -/

/-- The messages up to the first response, which is the last one accepted. -/
def accepted : List JsonRpcMessage → List JsonRpcMessage
  | [] => []
  | message :: rest => message :: if message.isResponse then [] else accepted rest

/-- The messages after the first response. -/
def late : List JsonRpcMessage → List JsonRpcMessage
  | [] => []
  | message :: rest => if message.isResponse then rest else late rest

/-- The messages before the first response. -/
def told : List JsonRpcMessage → List JsonRpcMessage
  | [] => []
  | message :: rest => if message.isResponse then [] else message :: told rest

/-- The first response. -/
def answered (messages : List JsonRpcMessage) : Option JsonRpcMessage :=
  messages.find? (·.isResponse)

theorem accepted_late (messages : List JsonRpcMessage) :
    accepted messages ++ late messages = messages := by
  induction messages with
  | nil => rfl
  | cons message rest ih =>
    cases response : message.isResponse with
    | true => simp [accepted,late,response]
    | false => simp [accepted,late,response,ih]

theorem accepted_eq (messages : List JsonRpcMessage) :
    accepted messages = told messages ++ (answered messages).toList := by
  induction messages with
  | nil => rfl
  | cons message rest ih =>
    cases response : message.isResponse with
    | true => simp [accepted,told,answered,response]
    | false =>
      have same : answered (message :: rest) = answered rest := by simp [answered,response]
      simp [accepted,told,response,same,ih]

theorem told_accepted (messages : List JsonRpcMessage) :
    told (accepted messages) = told messages ∧ answered (accepted messages) = answered messages := by
  induction messages with
  | nil => exact ⟨rfl,rfl⟩
  | cons message rest ih =>
    cases response : message.isResponse with
    | true => simp [accepted,told,answered,response]
    | false => simpa [accepted,told,answered,response] using ih

theorem mem_accepted {messages : List JsonRpcMessage} {message : JsonRpcMessage}
    (member : message ∈ accepted messages) : message ∈ messages :=
  accepted_late messages ▸ List.mem_append_left _ member

theorem told_last {messages : List JsonRpcMessage} {response : JsonRpcMessage}
    (found : answered messages = some response) :
    accepted messages = told messages ++ [response] ∧ response.isResponse = true := by
  refine ⟨?_,List.find?_some found⟩
  rw [accepted_eq,found]
  rfl

theorem answered_eq_none {messages : List JsonRpcMessage} :
    answered messages = none ↔ ∀ message ∈ messages, message.isResponse = false := by
  simp [answered]

/-! ## What is buffered -/

variable {text : JsonText} {transport : HttpTransport}

/-- Nothing is written behind the response. -/
theorem writeAll_sealed (closed : transport.messages.response.isSome = true)
    (messages : List JsonRpcMessage) : transport.writeAll text messages =
      (messages.map fun _ => .error .transportClosed,transport) := by
  induction messages with
  | nil => rfl
  | cons message rest ih =>
    have refused : transport.write text message = (.error .transportClosed,transport) := if_pos closed
    rw [writeAll,refused]
    simp only [ih,List.map_cons]

theorem write_response {message : JsonRpcMessage} (unanswered : transport.messages.response = none)
    (response : message.isResponse = true) : transport.write text message =
      (.ok (),{ transport with
        messages := { transport.messages with response := some (text.serialize message) } }) := by
  cases message with
  | response given => simp [write,unanswered]
  | request asked => cases response
  | notification given => cases response

theorem write_told {message : JsonRpcMessage} (unanswered : transport.messages.response = none)
    (plain : message.isResponse = false) : transport.write text message =
      (.ok (),{ transport with messages := { transport.messages with
        notifications := transport.messages.notifications ++ [text.serialize message] } }) := by
  cases message with
  | response given => cases plain
  | request asked => simp [write,unanswered]
  | notification given => simp [write,unanswered]

/-- The buffer after any writes: what was told before the response, and the response. -/
theorem writeAll_open (unanswered : transport.messages.response = none)
    (messages : List JsonRpcMessage) : transport.writeAll text messages =
      ((accepted messages).map (fun _ => .ok ()) ++
          (late messages).map (fun _ => .error .transportClosed),
        { transport with messages := ⟨transport.messages.notifications ++
            (told messages).map text.serialize,(answered messages).map text.serialize⟩ }) := by
  induction messages generalizing transport with
  | nil =>
    obtain ⟨request,notifications,response⟩ := transport
    obtain rfl : response = none := unanswered
    simp [writeAll,accepted,late,told,answered]
  | cons message rest ih =>
    cases response : message.isResponse with
    | true =>
      have step := @write_response text transport message unanswered response
      have closed := @writeAll_sealed text { transport with
        messages := { transport.messages with response := some (text.serialize message) } } rfl rest
      rw [writeAll,step]
      simp only [closed]
      simp [accepted,late,told,answered,response]
    | false =>
      have step := @write_told text transport message unanswered response
      have later := @ih { transport with messages := { transport.messages with
        notifications := transport.messages.notifications ++ [text.serialize message] } } unanswered
      rw [writeAll,step]
      simp only [later]
      simp [accepted,late,told,answered,response]

theorem writeAll_new (text : JsonText) (requestBody : String) (messages : List JsonRpcMessage) :
    (new requestBody).writeAll text messages =
      ((accepted messages).map (fun _ => .ok ()) ++
          (late messages).map (fun _ => .error .transportClosed),
        ⟨some requestBody,(told messages).map text.serialize,
          (answered messages).map text.serialize⟩) :=
  writeAll_open rfl messages

/-! ## What the client reads -/

/-- The messages of a body: one of plain JSON, or one an event of a stream. -/
def readAnswer (fromStr : String → Except String Json) (contentType body : String) :
    Except String (List Json) :=
  if contentType = "text/event-stream" then
    (EventStream.decode body.toList).mapM fun event => fromStr (String.ofList event.data)
  else do
    let value ← fromStr body
    return [value]

/-- The message survives printing and parsing, and its text has no line end in it. -/
structure Compact (text : JsonText) (message : JsonRpcMessage) : Prop where
  lossless : text.fromStr (text.serialize message) = .ok message.toJson
  unbroken : EventStream.Unbroken (text.serialize message).toList

theorem event_toList (message : String) :
    (event message).toList = EventStream.encode message.toList := by
  delta event EventStream.encode
  rw [String.toList_append,String.toList_append]
  rfl

theorem join_event (messages : List String) :
    (String.join (messages.map event)).toList =
      (messages.map String.toList).flatMap EventStream.encode := by
  rw [String.toList_join,List.flatMap_map,List.flatMap_map]
  exact congrArg (List.flatMap · messages) (funext event_toList)

theorem mapM_fromStr {text : JsonText} {messages : List JsonRpcMessage}
    (compact : ∀ message ∈ messages, Compact text message) :
    (messages.map text.serialize).mapM text.fromStr = .ok (messages.map JsonRpcMessage.toJson) := by
  induction messages with
  | nil => rfl
  | cons message rest ih =>
    have first := (compact message (by simp)).lossless
    rw [List.map_cons,List.mapM_cons,first,ih fun other member => compact other (by simp [member])]
    rfl

theorem readAnswer_stream {text : JsonText} {messages : List JsonRpcMessage}
    (compact : ∀ message ∈ messages, Compact text message) :
    readAnswer text.fromStr "text/event-stream"
      (String.join ((messages.map text.serialize).map event)) =
      .ok (messages.map JsonRpcMessage.toJson) := by
  have lines : ∀ line ∈ (messages.map text.serialize).map String.toList,
      EventStream.Unbroken line := by
    simp only [List.map_map,List.mem_map]
    rintro _ ⟨message,member,rfl⟩
    exact (compact message member).unbroken
  have decoded := EventStream.decode_encode lines
  rw [← join_event] at decoded
  rw [readAnswer,if_pos rfl,decoded,← mapM_fromStr compact,List.map_map,List.mapM_map]
  simp only [Function.comp_def,String.ofList_toList]

theorem readAnswer_json {text : JsonText} {message : JsonRpcMessage}
    (compact : Compact text message) :
    readAnswer text.fromStr "application/json" (text.serialize message) = .ok [message.toJson] := by
  rw [readAnswer,if_neg (by decide),compact.lossless]
  rfl

/-- The transport of a request once these messages were written to it. -/
def exchange (text : JsonText) (requestBody : String) (messages : List JsonRpcMessage) :
    HttpTransport := ((new requestBody).writeAll text messages).2

theorem answerFrom_exchange (text : JsonText) (requestBody : String)
    (messages : List JsonRpcMessage) :
    (exchange text requestBody messages).answerFrom =
      match answered messages with
      | none => .accepted
      | some response =>
        if told messages = [] then .body (text.serialize response) "application/json"
        else .body (String.join (((accepted messages).map text.serialize).map event))
          "text/event-stream" := by
  have buffered := congrArg Prod.snd (writeAll_new text requestBody messages)
  simp only at buffered
  rw [exchange,buffered]
  cases found : answered messages with
  | none => rfl
  | some response =>
    obtain ⟨whole,-⟩ := told_last found
    cases quiet : told messages with
    | nil => rfl
    | cons first rest =>
      simp [answerFrom,takeResponse,hasNotifications,takeSseResponse,whole,quiet]

/-- What an exchange comes to, whatever was written and in whatever order. -/
structure Delivers (text : JsonText) (requestBody : String) (messages : List JsonRpcMessage) :
    Prop where
  /-- Every write up to the response is accepted and every one after it is refused. -/
  outcomes : ((new requestBody).writeAll text messages).1 =
    (accepted messages).map (fun _ => .ok ()) ++
      (late messages).map fun _ => .error .transportClosed
  /-- The refused ones leave the transport as it was. -/
  unchanged : exchange text requestBody messages = exchange text requestBody (accepted messages)
  /-- There is no body exactly when no response was written. -/
  empty : (exchange text requestBody messages).answerFrom = .accepted ↔
    ∀ message ∈ messages, message.isResponse = false
  status : (finish text.print (.ok (exchange text requestBody messages).answerFrom)).status = 202 ↔
    ∀ message ∈ messages, message.isResponse = false
  /-- A body is of the accepted messages, in their order. -/
  body : ∀ body contentType,
    (exchange text requestBody messages).answerFrom = .body body contentType →
      readAnswer text.fromStr contentType body =
        .ok ((accepted messages).map JsonRpcMessage.toJson)
  /-- It is plain JSON when only a response was written, and a stream otherwise. -/
  contentType : ∀ body contentType,
    (exchange text requestBody messages).answerFrom = .body body contentType →
      contentType = if told messages = [] then "application/json" else "text/event-stream"
  /-- The response is the last of them. -/
  last : ∀ response, answered messages = some response →
    accepted messages = told messages ++ [response]

/-- An exchange delivers exactly what was accepted. -/
theorem exchange_delivers {text : JsonText} (requestBody : String)
    {messages : List JsonRpcMessage} (compact : ∀ message ∈ messages, Compact text message) :
    Delivers text requestBody messages := by
  have answer := answerFrom_exchange text requestBody messages
  have delivered : ∀ message ∈ accepted messages, Compact text message :=
    fun message member => compact message (mem_accepted member)
  have both : ∀ body contentType,
      (exchange text requestBody messages).answerFrom = .body body contentType →
      readAnswer text.fromStr contentType body =
          .ok ((accepted messages).map JsonRpcMessage.toJson) ∧
        contentType = if told messages = [] then "application/json" else "text/event-stream" := by
    intro body contentType sent
    rw [answer] at sent
    cases found : answered messages with
    | none =>
      rw [found] at sent
      cases sent
    | some response =>
      obtain ⟨whole,-⟩ := told_last found
      rw [found] at sent
      by_cases quiet : told messages = []
      · simp only [quiet,if_true] at sent ⊢
        obtain ⟨rfl,rfl⟩ := Processed.body.inj sent
        rw [quiet,List.nil_append] at whole
        rw [whole] at delivered ⊢
        exact ⟨readAnswer_json (delivered response (by simp)),rfl⟩
      · simp only [quiet,if_false] at sent ⊢
        obtain ⟨rfl,rfl⟩ := Processed.body.inj sent
        exact ⟨readAnswer_stream delivered,rfl⟩
  have unanswered : (exchange text requestBody messages).answerFrom = .accepted ↔
      answered messages = none := by
    rw [answer]
    cases answered messages with
    | none => simp
    | some response =>
      simp only [reduceCtorEq,iff_false]
      split <;> exact fun same => by cases same
  constructor
  case outcomes => exact congrArg Prod.fst (writeAll_new text requestBody messages)
  case unchanged =>
    have before := congrArg Prod.snd (writeAll_new text requestBody messages)
    have after := congrArg Prod.snd (writeAll_new text requestBody (accepted messages))
    obtain ⟨same,same'⟩ := told_accepted messages
    rw [same,same'] at after
    exact before.trans after.symm
  case empty => exact unanswered.trans answered_eq_none
  case status =>
    rw [← answered_eq_none,← unanswered]
    cases (exchange text requestBody messages).answerFrom with
    | accepted => exact ⟨fun _ => rfl,fun _ => rfl⟩
    | body responseBody contentType =>
      have ok : (bodyResponse contentType responseBody).status = 200 := withBody_status _ _ _
      simp [finish,ok]
  case body => exact fun body contentType sent => (both body contentType sent).1
  case contentType => exact fun body contentType sent => (both body contentType sent).2
  case last => exact fun response found => (told_last found).1

/-- What a worker tells before the answer, and after it. -/
def progressed : JsonRpcMessage := .notification ⟨"notifications/progress",none⟩

def progressLine : String := "\x7b\"method\":\"notifications/progress\",\"jsonrpc\":\"2.0\"\x7d"

def pongLine : String := "\x7b\"id\":1,\"result\":\"pong\",\"jsonrpc\":\"2.0\"\x7d"

def progressText : JsonText where
  print value :=
    if value = pongAnswer.toJson then pongLine
    else if value = progressed.toJson then progressLine else "null"
  fromStr line :=
    if line = pongLine then .ok pongAnswer.toJson
    else if line = progressLine then .ok progressed.toJson
    else .error "expected value at line 1 column 1"

theorem exchange_delivers_progress :
    Delivers progressText "\x7b\x7d" [progressed,pongAnswer,progressed] := by
  have told : Compact progressText progressed := ⟨by decide,by decide,by decide⟩
  have answer : Compact progressText pongAnswer := ⟨by decide,by decide,by decide⟩
  apply exchange_delivers
  simp [told,answer]

end HttpTransport
end SmlMcps
