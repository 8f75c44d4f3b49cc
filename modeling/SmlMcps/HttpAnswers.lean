import SmlMcps.Http1Head
import SmlMcps.JsonRpcCodec
import SmlMcps.LoopMalformed

/-! Two answers to the same unreadable text. The server loop answers a malformed line with
the id the line named and the error's own object; the HTTP server puts the error through a
table of its own, into a body that has no id and words the error differently. -/
namespace SmlMcps

/-- `to_string` of an error. -/
def McpError.text : McpError → String
  | .io text => "IO error: " ++ text
  | .json text => "JSON error: " ++ text
  | .transportClosed => "Transport closed"
  | .timeout message => "Timed out: " ++ message
  | .invalidMessage message => "Invalid message: " ++ message
  | .invalidRequest _ message => "Invalid message: " ++ message
  | .methodNotFound method => "Method not found: " ++ method
  | .invalidParams message => "Invalid params: " ++ message
  | .internal message => "Internal error: " ++ message
  | .toolError message => "Tool error: " ++ message
  | .resourceNotFound uri => "Resource not found: " ++ uri
  | .promptNotFound name => "Prompt not found: " ++ name
  | .passthrough error => error.message
  | .auth message => "Auth error: " ++ message

/-! ## Over HTTP -/

/-- What a processed message comes to, when it is no error. -/
inductive Processed where
  | body (responseBody : String) (contentType : String)
  | accepted
  deriving DecidableEq, Repr

/-- The JSON of an error response: an error object, and no id. -/
def errorMembers (code : Int) (message : String) : List (String × Option Json) := [
  ("jsonrpc",some (.str "2.0")),
  ("error",some (.obj (JsonMap.ofMembers [
    ("code",some (.num (.int code))),
    ("message",some (.str message))])))]

def errorFields (code : Int) (message : String) : JsonMap :=
  JsonMap.ofMembers (errorMembers code message)

/-- The status and the code of an error. -/
def statusAndCode : McpError → Nat × Int
  | .json _ => (400,-32700)
  | .invalidMessage _ | .invalidRequest _ _ => (400,-32600)
  | _ => (500,-32603)

section
variable (print : Json → String)

def errorResponse (status : Nat) (code : Int) (message : String) : Http1.Response :=
  (Http1.Response.new status).withBody "application/json"
    (Http1.asBytes (print (.obj (errorFields code message))))

def bodyResponse (contentType body : String) : Http1.Response :=
  (Http1.Response.new 200).withBody contentType (Http1.asBytes body)

/-- Turn a processed result into the HTTP response to send. -/
def finish : Except McpError Processed → Http1.Response
  | .ok (.body responseBody contentType) => bodyResponse contentType responseBody
  | .ok .accepted => Http1.Response.new 202
  | .error e => errorResponse print (statusAndCode e).1 (statusAndCode e).2 e.text

end

/-! ## Beside the loop -/

/-- The id the request a text was meant to be gave: `null` where none could be read. -/
def readableIdOf (fromStr : String → Except String Json) (text : String) : RequestId :=
  let fields? : Option JsonMap := do
    let value ← if JsonRpcMessage.isBatch text then none else (fromStr text).toOption
    value.asObject
  (fields?.bind requestIdIn).getD .null

/-- A member of the error object of a message. -/
def errorMember (name : String) (fields : JsonMap) : Option Json :=
  ((JsonMap.lookup "error" fields).bind Json.asObject).bind (JsonMap.lookup name)

/-- The id a message is answered under: an absent one says as little as `null`. -/
def idMember (fields : JsonMap) : Json := (JsonMap.lookup "id" fields).getD .null

theorem parse_malformed {fromStr : String → Except String Json} {text : String} {e : McpError}
    (rejected : JsonRpcMessage.parse fromStr text = .error e) :
    isMalformed e = true ∧ errorId e = readableIdOf fromStr text := by
  by_cases batch : JsonRpcMessage.isBatch text
  · simp only [JsonRpcMessage.parse,batch,if_true,Except.error.injEq] at rejected
    subst rejected
    simp [isMalformed,errorId,readableIdOf,batch]
  · cases parsed : fromStr text with
    | error unparsed =>
      simp only [JsonRpcMessage.parse,batch,Bool.false_eq_true,if_false,parsed,
        Except.error.injEq] at rejected
      subst rejected
      simp [isMalformed,errorId,readableIdOf,batch,parsed,Except.toOption]
    | ok value =>
      simp only [JsonRpcMessage.parse,batch,Bool.false_eq_true,if_false,parsed] at rejected
      simpa [readableIdOf,batch,parsed,Except.toOption] using fromValue_malformed rejected

theorem malformed_cases {e : McpError} (malformed : isMalformed e = true) :
    (∃ text, e = .json text) ∨ (∃ message, e = .invalidMessage message) ∨
      ∃ id message, e = .invalidRequest id message := by
  cases e with
  | json text => exact .inl ⟨text,rfl⟩
  | invalidMessage message => exact .inr (.inl ⟨message,rfl⟩)
  | invalidRequest id message => exact .inr (.inr ⟨id,message,rfl⟩)
  | _ => cases malformed

theorem lookup_errorFields (code : Int) (message name : String) :
    JsonMap.lookup name (errorFields code message) =
      ((errorMembers code message).lookup name).join := by
  have distinct : ((errorMembers code message).map Prod.fst).Nodup :=
    (by decide : ["jsonrpc","error"].Nodup)
  exact JsonMap.lookup_ofMembers distinct name

/-- The error object of an HTTP answer is written as the loop's are. -/
theorem errorFields_error (code : Int) (message : String) :
    JsonMap.lookup "error" (errorFields code message) =
      some (JsonRpcError.new code message).toJson := by
  rw [lookup_errorFields]
  rfl

theorem errorFields_id (code : Int) (message : String) :
    JsonMap.lookup "id" (errorFields code message) = none := by
  rw [lookup_errorFields]
  rfl

theorem malformedAnswer_error (e : McpError) :
    JsonMap.lookup "error" (malformedAnswer e).toFields = some e.toJsonrpcError.toJson :=
  (JsonRpcResponse.lookup_toFields _ _).trans rfl

theorem malformedAnswer_id (e : McpError) :
    JsonMap.lookup "id" (malformedAnswer e).toFields = some (errorId e).toJson :=
  (JsonRpcResponse.lookup_toFields _ _).trans rfl

/-- The two tables give a malformed message the same code. -/
theorem statusAndCode_code {e : McpError} (malformed : isMalformed e = true) :
    (statusAndCode e).2 = e.toJsonrpcError.code := by
  obtain ⟨text,rfl⟩ | ⟨message,rfl⟩ | ⟨id,message,rfl⟩ := malformed_cases malformed <;> rfl

/-- They never word it the same. -/
theorem text_ne {e : McpError} (malformed : isMalformed e = true) :
    e.text ≠ e.toJsonrpcError.message := by
  have longer : ∀ front message : String, front.length ≠ 0 → front ++ message ≠ message := by
    intro front message some same
    have length := congrArg String.length same
    rw [String.length_append] at length
    omega
  obtain ⟨text,rfl⟩ | ⟨message,rfl⟩ | ⟨id,message,rfl⟩ := malformed_cases malformed
  · exact longer "JSON error: " text (by decide)
  · exact longer "Invalid message: " message (by decide)
  · exact longer "Invalid message: " message (by decide)

theorem toJson_null (id : RequestId) : id.toJson = .null ↔ id = .null := by
  cases id <;> simp [RequestId.toJson]

theorem errorMember_toJson {fields : JsonMap} {error : JsonRpcError}
    (found : JsonMap.lookup "error" fields = some error.toJson) (name : String) :
    errorMember name fields = (error.members.lookup name).join := by
  rw [errorMember,found]
  exact error.lookup_toFields name

theorem withBody_body (response : Http1.Response) (contentType : String) (body : List UInt8) :
    (response.withBody contentType body).body = body := by
  simp only [Http1.Response.withBody,Http1.Response.withHeader]
  split <;> rfl

theorem withBody_status (response : Http1.Response) (contentType : String) (body : List UInt8) :
    (response.withBody contentType body).status = response.status := by
  simp only [Http1.Response.withBody,Http1.Response.withHeader]
  split <;> rfl

/-- The same error object, under the same id. -/
def AnswersAlike (fields other : JsonMap) : Prop :=
  JsonMap.lookup "error" fields = JsonMap.lookup "error" other ∧ idMember fields = idMember other

/-- The same code, under the same id. -/
def AgreesOn (fields other : JsonMap) : Prop :=
  errorMember "code" fields = errorMember "code" other ∧ idMember fields = idMember other

/-- A text that is no message is answered over HTTP with status 400, with the loop's code
and never with its error object, and under the loop's id exactly when no id could be read
from the text. -/
theorem http_answers_without_id (print : Json → String) {fromStr : String → Except String Json}
    {text : String} {e : McpError} (rejected : JsonRpcMessage.parse fromStr text = .error e) :
    ∃ fields, (finish print (.error e)).body = Http1.asBytes (print (.obj fields)) ∧
      (finish print (.error e)).status = 400 ∧
      ¬AnswersAlike fields (malformedAnswer e).toFields ∧
      (AgreesOn fields (malformedAnswer e).toFields ↔ readableIdOf fromStr text = .null) := by
  obtain ⟨malformed,named⟩ := parse_malformed rejected
  have written := errorFields_error (statusAndCode e).2 e.text
  have loop := malformedAnswer_error e
  refine ⟨errorFields (statusAndCode e).2 e.text,?_,?_,?_,?_⟩
  · exact withBody_body _ _ _
  · obtain ⟨said,rfl⟩ | ⟨message,rfl⟩ | ⟨id,message,rfl⟩ := malformed_cases malformed
    · exact withBody_status _ _ _
    · exact withBody_status _ _ _
    · exact withBody_status _ _ _
  · rintro ⟨same,-⟩
    have message := errorMember_toJson written "message"
    rw [errorMember,same,← errorMember,errorMember_toJson loop "message"] at message
    have worded : some (Json.str e.toJsonrpcError.message) = some (Json.str e.text) := message
    exact text_ne malformed (by simpa using worded.symm)
  · have code : errorMember "code" (errorFields (statusAndCode e).2 e.text) =
        errorMember "code" (malformedAnswer e).toFields := by
      rw [errorMember_toJson written,errorMember_toJson loop]
      simp [JsonRpcError.members,JsonRpcError.new,statusAndCode_code malformed]
    simp only [AgreesOn,code,true_and,idMember,errorFields_id,malformedAnswer_id,
      Option.getD_none,Option.getD_some]
    rw [eq_comm,toJson_null,named]

/-- A request that names its id and whose method is a number. -/
def numberedMethod : String := "\x7b\"id\":7,\"jsonrpc\":\"2.0\",\"method\":5\x7d"

def numberedMethodFields : JsonMap :=
  JsonMap.ofMembers [("id",some (.num (.int 7))),("jsonrpc",some (.str "2.0")),
    ("method",some (.num (.int 5)))]

def numberedMethodError : McpError :=
  .invalidRequest (.number 7) "invalid request: invalid type: integer `5`, expected a string"

theorem numberedMethod_rejected :
    JsonRpcMessage.parse (fun _ => .ok (.obj numberedMethodFields)) numberedMethod =
      .error numberedMethodError := by
  decide +kernel

/-- The printed answer, which has no id in it. -/
def numberedMethodAnswer : String :=
  "\x7b\"error\":\x7b\"code\":-32600,\"message\":\"Invalid message: invalid request: " ++
    "invalid type: integer `5`, expected a string\"\x7d,\"jsonrpc\":\"2.0\"\x7d"

def printAnswer (value : Json) : String :=
  if value = .obj (errorFields (-32600) numberedMethodError.text) then numberedMethodAnswer else ""

theorem http_answers_without_id_numbered :
    ∃ fields, (finish printAnswer (.error numberedMethodError)).body =
        Http1.asBytes (printAnswer (.obj fields)) ∧
      (finish printAnswer (.error numberedMethodError)).status = 400 ∧
      ¬AnswersAlike fields (malformedAnswer numberedMethodError).toFields ∧
      (AgreesOn fields (malformedAnswer numberedMethodError).toFields ↔
        readableIdOf (fun _ => .ok (.obj numberedMethodFields)) numberedMethod = .null) :=
  http_answers_without_id printAnswer numberedMethod_rejected

/-- The loop answers it under its id, the HTTP server under none. -/
theorem numbered_method_loses_id :
    (finish printAnswer (.error numberedMethodError)).body =
      Http1.asBytes numberedMethodAnswer ∧
    JsonMap.lookup "id" (errorFields (-32600) numberedMethodError.text) = none ∧
    JsonMap.lookup "id" (malformedAnswer numberedMethodError).toFields =
      some (.num (.int 7)) ∧
    JsonRpcMessage.parse (fun _ => .ok (.obj numberedMethodFields)) numberedMethod =
      .error numberedMethodError := by
  decide +kernel

end SmlMcps
