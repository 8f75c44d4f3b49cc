import SmlMcps.Broker

/-! The JSON-RPC codec: a message written out member by member, absent members left
out, and read back by its shape. An optional member that is `null` is written and then
read as absent, so what comes back is the message without such members. -/
namespace SmlMcps

/-! ## Writing -/

/-- The members a derived serializer writes, in declaration order. -/
def JsonRpcError.members (error : JsonRpcError) : List (String × Option Json) := [
  ("code",some (.num (.int error.code))),
  ("message",some (.str error.message)),
  ("data",error.data)]

def JsonRpcError.toFields (error : JsonRpcError) : JsonMap := JsonMap.ofMembers error.members

def JsonRpcError.toJson (error : JsonRpcError) : Json := .obj error.toFields

def JsonRpcRequest.members (request : JsonRpcRequest) : List (String × Option Json) := [
  ("id",some request.id.toJson),
  ("method",some (.str request.method)),
  ("params",request.params),
  ("jsonrpc",some (.str jsonrpcVersion))]

def JsonRpcRequest.toFields (request : JsonRpcRequest) : JsonMap :=
  JsonMap.ofMembers request.members

def JsonRpcResponse.members (response : JsonRpcResponse) : List (String × Option Json) := [
  ("id",some response.id.toJson),
  ("result",response.result),
  ("error",response.error.map JsonRpcError.toJson),
  ("jsonrpc",some (.str jsonrpcVersion))]

def JsonRpcResponse.toFields (response : JsonRpcResponse) : JsonMap :=
  JsonMap.ofMembers response.members

def JsonRpcNotification.members (notification : JsonRpcNotification) :
    List (String × Option Json) := [
  ("method",some (.str notification.method)),
  ("params",notification.params),
  ("jsonrpc",some (.str jsonrpcVersion))]

def JsonRpcNotification.toFields (notification : JsonRpcNotification) : JsonMap :=
  JsonMap.ofMembers notification.members

theorem JsonRpcError.lookup_toFields (error : JsonRpcError) (name : String) :
    JsonMap.lookup name error.toFields = (error.members.lookup name).join := by
  have distinct : (error.members.map Prod.fst).Nodup :=
    (by decide : ["code","message","data"].Nodup)
  exact JsonMap.lookup_ofMembers distinct name

theorem JsonRpcRequest.lookup_toFields (request : JsonRpcRequest) (name : String) :
    JsonMap.lookup name request.toFields = (request.members.lookup name).join := by
  have distinct : (request.members.map Prod.fst).Nodup :=
    (by decide : ["id","method","params","jsonrpc"].Nodup)
  exact JsonMap.lookup_ofMembers distinct name

theorem JsonRpcResponse.lookup_toFields (response : JsonRpcResponse) (name : String) :
    JsonMap.lookup name response.toFields = (response.members.lookup name).join := by
  have distinct : (response.members.map Prod.fst).Nodup :=
    (by decide : ["id","result","error","jsonrpc"].Nodup)
  exact JsonMap.lookup_ofMembers distinct name

theorem JsonRpcNotification.lookup_toFields (notification : JsonRpcNotification) (name : String) :
    JsonMap.lookup name notification.toFields = (notification.members.lookup name).join := by
  have distinct : (notification.members.map Prod.fst).Nodup :=
    (by decide : ["method","params","jsonrpc"].Nodup)
  exact JsonMap.lookup_ofMembers distinct name

namespace JsonRpcMessage

def toFields : JsonRpcMessage → JsonMap
  | .request asked => asked.toFields
  | .notification told => told.toFields
  | .response given => given.toFields

def toJson (message : JsonRpcMessage) : Json := .obj message.toFields

end JsonRpcMessage

/-! ## What the types guarantee -/

/-- Numeric ids are 64-bit signed integers. -/
def RequestId.InRange : RequestId → Prop
  | .number value => -2^63 ≤ value ∧ value < 2^63
  | _ => True

/-- Error codes are 32-bit signed integers. -/
def JsonRpcError.InRange (error : JsonRpcError) : Prop := -2^31 ≤ error.code ∧ error.code < 2^31

instance : (id : RequestId) → Decidable id.InRange
  | .number value => inferInstanceAs (Decidable (-2^63 ≤ value ∧ value < 2^63))
  | .string _ => isTrue trivial
  | .null => isTrue trivial

/-- The messages the constructors build. The id of a request is a string or an integer. -/
inductive JsonRpcMessage.Built : JsonRpcMessage → Prop
  | request {id : RequestId} (method : String) (params : Option Json) (range : id.InRange)
      (present : id ≠ .null) : Built (.request ⟨id,method,params⟩)
  | response {id : RequestId} (result : Json) (range : id.InRange) : Built (.answer id result)
  | error {id : RequestId} {error : JsonRpcError} (range : id.InRange) (code : error.InRange) :
      Built (.error id error)
  | notification (method : String) (params : Option Json) : Built (.notification ⟨method,params⟩)

/-! ## Reading back -/

/-- An optional member as the reader sees it: `null` is absence. -/
def presentMember : Option Json → Option Json
  | some .null => none
  | member => member

def JsonRpcError.settled (error : JsonRpcError) : JsonRpcError :=
  { error with data := presentMember error.data }

/-- The message without its optional members that are `null`. -/
def JsonRpcMessage.settled : JsonRpcMessage → JsonRpcMessage
  | .request asked => .request { asked with params := presentMember asked.params }
  | .notification told => .notification { told with params := presentMember told.params }
  | .response given => .response { given with
      result := presentMember given.result
      error := given.error.map JsonRpcError.settled }

/-- No optional member is `null`. -/
def JsonRpcMessage.nullFree : JsonRpcMessage → Bool
  | .request asked => asked.params != some .null
  | .notification told => told.params != some .null
  | .response given =>
    given.result != some .null && (given.error.bind JsonRpcError.data) != some .null

theorem presentMember_eq_iff (member : Option Json) :
    presentMember member = member ↔ member ≠ some .null := by
  cases member with
  | none => simp [presentMember]
  | some value => cases value <;> simp [presentMember]

theorem settled_eq_iff (message : JsonRpcMessage) :
    message.settled = message ↔ message.nullFree = true := by
  cases message with
  | request request =>
    obtain ⟨id,method,params⟩ := request
    simpa [JsonRpcMessage.settled,JsonRpcMessage.nullFree] using presentMember_eq_iff params
  | notification notification =>
    obtain ⟨method,params⟩ := notification
    simpa [JsonRpcMessage.settled,JsonRpcMessage.nullFree] using presentMember_eq_iff params
  | response response =>
    obtain ⟨id,result,error⟩ := response
    cases error with
    | none =>
      simpa [JsonRpcMessage.settled,JsonRpcMessage.nullFree] using presentMember_eq_iff result
    | some error =>
      obtain ⟨code,message,data⟩ := error
      simp [JsonRpcMessage.settled,JsonRpcMessage.nullFree,JsonRpcError.settled,
        presentMember_eq_iff]

theorem JsonRpcMessage.settled_nullFree (message : JsonRpcMessage) :
    message.settled.nullFree = true := by
  have twice (member : Option Json) : presentMember (presentMember member) = presentMember member := by
    cases member with
    | none => rfl
    | some value => cases value <;> rfl
  rw [← settled_eq_iff]
  cases message with
  | request | notification => simp [settled,twice]
  | response given =>
    obtain ⟨id,result,error⟩ := given
    cases error <;> simp [settled,JsonRpcError.settled,twice]

/-! ### Members -/

theorem read_toJson {id : RequestId} (range : id.InRange) : RequestId.read id.toJson = .ok id := by
  cases id with
  | number value =>
    have inside : -2^63 ≤ value ∧ value < 2^63 := range
    have found : (RequestId.number value).toJson.asI64 = some value := if_pos inside
    simp only [RequestId.read,found]
  | string text => rfl
  | null => rfl

theorem optional_found {fields : JsonMap} {name : String} {member : Option Json}
    (found : JsonMap.lookup name fields = member) :
    (Json.Members.named fields).optional name .ok = .ok (presentMember member) := by
  subst found
  simp only [Json.Members.optional,Json.Members.find]
  cases JsonMap.lookup name fields with
  | none => rfl
  | some value => cases value <;> rfl

theorem required_found {α : Type} {fields : JsonMap} {name : String} {value : Json}
    (read : Json → Except ReadError α) (found : JsonMap.lookup name fields = some value) :
    (Json.Members.named fields).required name read = read value := by
  simp only [Json.Members.required,Json.Members.find,found]

theorem version_found {fields : JsonMap}
    (found : JsonMap.lookup "jsonrpc" fields = some (.str jsonrpcVersion)) :
    (Json.Members.named fields).defaulted "jsonrpc" () readVersion = .ok () := by
  simp only [Json.Members.defaulted,Json.Members.find,found]
  rfl

theorem JsonRpcError.read_toJson {error : JsonRpcError} (range : error.InRange) :
    JsonRpcError.read error.toJson = .ok error.settled := by
  obtain ⟨code,message,data⟩ := error
  have inside : -2^31 ≤ code ∧ code < 2^31 := range
  have found := JsonRpcError.lookup_toFields ⟨code,message,data⟩
  have readCode := (required_found Json.readI32 (found "code")).trans (if_pos inside)
  have readMessage := required_found Json.readString (found "message")
  have readData := optional_found (found "data")
  simp only [JsonRpcError.read,JsonRpcError.toJson,Json.members,bind,Except.bind]
  rw [readCode]
  simp only
  rw [readMessage]
  simp only [Json.readString]
  rw [readData]
  rfl

theorem JsonRpcRequest.fromFields_toFields {request : JsonRpcRequest} (range : request.id.InRange) :
    JsonRpcRequest.fromFields request.toFields =
      .ok { request with params := presentMember request.params } := by
  obtain ⟨id,method,params⟩ := request
  have found := JsonRpcRequest.lookup_toFields ⟨id,method,params⟩
  have readId := (required_found RequestId.read (found "id")).trans (read_toJson range)
  have readMethod := required_found Json.readString (found "method")
  have readParams := optional_found (found "params")
  have readVersion := version_found (found "jsonrpc")
  simp only [fromFields,bind,Except.bind]
  rw [readId]
  simp only
  rw [readVersion]
  simp only
  rw [readMethod]
  simp only [Json.readString]
  rw [readParams]
  rfl

theorem JsonRpcNotification.fromFields_toFields (notification : JsonRpcNotification) :
    JsonRpcNotification.fromFields notification.toFields =
      .ok { notification with params := presentMember notification.params } := by
  obtain ⟨method,params⟩ := notification
  have found := JsonRpcNotification.lookup_toFields ⟨method,params⟩
  have readMethod := required_found Json.readString (found "method")
  have readParams := optional_found (found "params")
  have readVersion := version_found (found "jsonrpc")
  simp only [fromFields,bind,Except.bind]
  rw [readVersion]
  simp only
  rw [readMethod]
  simp only [Json.readString]
  rw [readParams]
  rfl

/-- An error is written as an object, which is never mistaken for absence. -/
theorem optional_error {fields : JsonMap} {error : Option JsonRpcError}
    (found : JsonMap.lookup "error" fields = error.map JsonRpcError.toJson)
    (range : ∀ known, error = some known → known.InRange) :
    (Json.Members.named fields).optional "error" JsonRpcError.read =
      .ok (error.map JsonRpcError.settled) := by
  cases error with
  | none => simp only [Json.Members.optional,Json.Members.find,found,Option.map_none]
  | some known =>
    have read := JsonRpcError.read_toJson (range known rfl)
    simp only [Json.Members.optional,Json.Members.find,found,Option.map_some,
      JsonRpcError.toJson] at read ⊢
    rw [read]
    rfl

theorem JsonRpcResponse.fromFields_toFields {response : JsonRpcResponse}
    (range : response.id.InRange)
    (code : ∀ error, response.error = some error → error.InRange) :
    JsonRpcResponse.fromFields response.toFields = .ok { response with
      result := presentMember response.result
      error := response.error.map JsonRpcError.settled } := by
  obtain ⟨id,result,error⟩ := response
  have found := JsonRpcResponse.lookup_toFields ⟨id,result,error⟩
  have readError := optional_error ((found "error").trans Option.join_some) code
  have readId := (required_found RequestId.read (found "id")).trans (read_toJson range)
  have readVersion := version_found (found "jsonrpc")
  have readResult := optional_found (found "result")
  simp only [fromFields,bind,Except.bind]
  rw [readError]
  simp only
  rw [readId]
  simp only
  rw [readVersion]
  simp only
  rw [readResult]
  rfl

/-! ## The round trip -/

namespace JsonRpcMessage

theorem fromValue_response {response : JsonRpcResponse} (range : response.id.InRange)
    (code : ∀ error, response.error = some error → error.InRange) :
    fromValue (toJson (.response response)) = .ok (settled (.response response)) := by
  have unnamed : JsonMap.lookup "method" response.toFields = none := response.lookup_toFields "method"
  have identified : JsonMap.lookup "id" response.toFields = some response.id.toJson :=
    response.lookup_toFields "id"
  simp only [fromValue,toJson,toFields,Json.asObject_obj,unnamed,identified,
    JsonRpcResponse.fromFields_toFields range code]
  rfl

/-- Whatever the constructors build is read back as it is, but for its null members. -/
theorem fromValue_toJson {message : JsonRpcMessage} (built : message.Built) :
    fromValue message.toJson = .ok message.settled := by
  cases built with
  | @request id method params range present =>
    have read := @JsonRpcRequest.fromFields_toFields ⟨id,method,params⟩ range
    have readId := read_toJson range
    have found := JsonRpcRequest.lookup_toFields ⟨id,method,params⟩
    have named : JsonMap.lookup "method" (JsonRpcRequest.toFields ⟨id,method,params⟩) =
      some (.str method) := found "method"
    have identified : JsonMap.lookup "id" (JsonRpcRequest.toFields ⟨id,method,params⟩) =
      some id.toJson := found "id"
    simp only [fromValue,toJson,toFields,Json.asObject_obj,named,identified]
    cases id with
    | null => exact (present rfl).elim
    | number value =>
      simp only [RequestId.toJson] at readId ⊢
      simp only [readId,read]
      rfl
    | string text =>
      simp only [RequestId.toJson] at readId ⊢
      simp only [readId,read]
      rfl
  | response result range => exact fromValue_response range (fun _ none => by cases none)
  | error range code => exact fromValue_response range (fun _ same => by cases same; exact code)
  | notification method params =>
    have found := JsonRpcNotification.lookup_toFields ⟨method,params⟩
    have named : JsonMap.lookup "method" (JsonRpcNotification.toFields ⟨method,params⟩) =
      some (.str method) := found "method"
    have unidentified : JsonMap.lookup "id" (JsonRpcNotification.toFields ⟨method,params⟩) =
      none := found "id"
    simp only [fromValue,toJson,toFields,Json.asObject_obj,named,unidentified,
      JsonRpcNotification.fromFields_toFields]
    rfl

end JsonRpcMessage

/-! ## Text -/

/-- The printer and the parser of JSON values. -/
structure JsonText where
  print : Json → String
  fromStr : String → Except String Json

namespace JsonText

/-- The value survives printing and parsing, and its text opens as an object does. -/
structure Faithful (text : JsonText) (fields : JsonMap) : Prop where
  lossless : text.fromStr (text.print (.obj fields)) = .ok (.obj fields)
  opening : (text.print (.obj fields)).toList.head? = some '\x7b'

/-- A message as the text of one line, without the newline. -/
def serialize (text : JsonText) (message : JsonRpcMessage) : String := text.print message.toJson

/-- A text that opens as an object is not a batch. -/
theorem isBatch_object {line : String} (opening : line.toList.head? = some '\x7b') :
    JsonRpcMessage.isBatch line = false := by
  unfold JsonRpcMessage.isBatch
  cases chars : line.toList with
  | nil =>
    rw [chars] at opening
    cases opening
  | cons first rest =>
    rw [chars] at opening
    cases opening
    rfl

theorem not_batch {text : JsonText} {fields : JsonMap} (faithful : text.Faithful fields) :
    JsonRpcMessage.isBatch (text.print (.obj fields)) = false :=
  isBatch_object faithful.opening

theorem parse_serialize {text : JsonText} {message : JsonRpcMessage} (built : message.Built)
    (faithful : text.Faithful message.toFields) :
    JsonRpcMessage.parse text.fromStr (text.serialize message) = .ok message.settled := by
  have batch := not_batch faithful
  have read := faithful.lossless
  simp only [JsonRpcMessage.parse,serialize,JsonRpcMessage.toJson,batch,read]
  exact JsonRpcMessage.fromValue_toJson built

/-- The message comes back, and what a success response carried is what its reader is
given. -/
structure RoundTrips (text : JsonText) (message : JsonRpcMessage) : Prop where
  same : JsonRpcMessage.parse text.fromStr (text.serialize message) = .ok message
  result : ∀ id result, message = .answer id result → ∃ response,
    JsonRpcMessage.parse text.fromStr (text.serialize message) = .ok (.response response) ∧
      RequestBroker.intoResult response = .ok result

end JsonText

theorem codec_round_trips_iff (text : JsonText) (message : JsonRpcMessage)
    (built : message.Built) (faithful : text.Faithful message.toFields) :
    text.RoundTrips message ↔ message.nullFree = true := by
  have parsed := JsonText.parse_serialize built faithful
  rw [← settled_eq_iff]
  constructor
  · intro trips
    have same := parsed.symm.trans trips.same
    exact Except.ok.inj same
  · intro settled
    rw [settled] at parsed
    refine ⟨parsed,?_⟩
    rintro id result rfl
    exact ⟨⟨id,some result,none⟩,parsed,rfl⟩

/-! ### Settling shows -/

theorem JsonRpcError.settled_of_toJson {error : JsonRpcError}
    (same : error.settled.toJson = error.toJson) : error.settled = error := by
  have fields : error.settled.toFields = error.toFields := Json.obj.inj same
  have kept : presentMember error.data = error.data :=
    (error.settled.lookup_toFields "data").symm.trans
      (fields ▸ error.lookup_toFields "data")
  simp only [settled,kept]

/-- A message written as its settled form is settled. -/
theorem toJson_settled_iff (message : JsonRpcMessage) :
    message.settled.toJson = message.toJson ↔ message.nullFree = true := by
  rw [← settled_eq_iff]
  constructor
  · intro same
    have fields : message.settled.toFields = message.toFields := Json.obj.inj same
    cases message with
    | request asked =>
      have kept : presentMember asked.params = asked.params :=
        (JsonRpcRequest.lookup_toFields _ "params").symm.trans
          ((congrArg _ fields).trans (asked.lookup_toFields "params"))
      simp only [JsonRpcMessage.settled,kept]
    | notification told =>
      have kept : presentMember told.params = told.params :=
        (JsonRpcNotification.lookup_toFields _ "params").symm.trans
          ((congrArg _ fields).trans (told.lookup_toFields "params"))
      simp only [JsonRpcMessage.settled,kept]
    | response given =>
      obtain ⟨id,result,error⟩ := given
      have written := JsonRpcResponse.lookup_toFields ⟨id,result,error⟩
      have settled := JsonRpcResponse.lookup_toFields
        ⟨id,presentMember result,error.map JsonRpcError.settled⟩
      have keptResult : presentMember result = result :=
        (settled "result").symm.trans ((congrArg _ fields).trans (written "result"))
      have keptError := (settled "error").symm.trans ((congrArg _ fields).trans (written "error"))
      cases error with
      | none => simp only [JsonRpcMessage.settled,keptResult,Option.map_none]
      | some error =>
        have same := JsonRpcError.settled_of_toJson (Option.some.inj keptError)
        simp only [JsonRpcMessage.settled,keptResult,Option.map_some,same]
  · intro settled
    rw [settled]

/-! ### What a blanked value says of a message

A reader that may get a floating point number wrong still reads a message of the same kind,
with the same optional members. -/

theorem JsonRpcError.toFields_eq (error : JsonRpcError) :
    error.toFields = ("code",.num (.int error.code)) ::
      ((error.data.map (Prod.mk "data")).toList ++ [("message",.str error.message)]) := by
  obtain ⟨code,message,data⟩ := error
  cases data <;> simp +decide only [toFields,members,JsonMap.ofMembers,JsonMap.insert,List.foldl,
    if_true,if_false,Option.map,Option.toList,List.cons_append,List.nil_append]

theorem JsonRpcRequest.toFields_eq (request : JsonRpcRequest) :
    request.toFields = ("id",request.id.toJson) :: ("jsonrpc",.str jsonrpcVersion) ::
      ("method",.str request.method) :: (request.params.map (Prod.mk "params")).toList := by
  obtain ⟨id,method,params⟩ := request
  cases params <;> simp +decide only [toFields,members,JsonMap.ofMembers,JsonMap.insert,List.foldl,
    if_true,if_false,Option.map,Option.toList]

theorem JsonRpcNotification.toFields_eq (notification : JsonRpcNotification) :
    notification.toFields = ("jsonrpc",.str jsonrpcVersion) ::
      ("method",.str notification.method) ::
        (notification.params.map (Prod.mk "params")).toList := by
  obtain ⟨method,params⟩ := notification
  cases params <;> simp +decide only [toFields,members,JsonMap.ofMembers,JsonMap.insert,List.foldl,
    if_true,if_false,Option.map,Option.toList]

theorem toFields_answer (id : RequestId) (result : Json) :
    (JsonRpcMessage.answer id result).toFields =
      [("id",id.toJson),("jsonrpc",.str jsonrpcVersion),("result",result)] := by
  simp +decide only [JsonRpcMessage.answer,JsonRpcMessage.toFields,JsonRpcResponse.toFields,
    JsonRpcResponse.members,JsonMap.ofMembers,JsonMap.insert,List.foldl,if_true,if_false,Option.map]

theorem toFields_error (id : RequestId) (error : JsonRpcError) :
    (JsonRpcMessage.error id error).toFields =
      [("error",error.toJson),("id",id.toJson),("jsonrpc",.str jsonrpcVersion)] := by
  simp +decide only [JsonRpcMessage.error,JsonRpcMessage.toFields,JsonRpcResponse.toFields,
    JsonRpcResponse.members,JsonMap.ofMembers,JsonMap.insert,List.foldl,if_true,if_false,Option.map]

theorem eq_toJson_of_skeleton {value : Json} {id : RequestId}
    (same : value.skeleton = id.toJson.skeleton) : value = id.toJson := by
  cases id with
  | number number => exact Json.eq_int_of_skeleton same
  | string text => exact Json.eq_str_of_skeleton same
  | null => exact Json.skeleton_eq_null_iff.mp same

theorem JsonRpcError.exists_of_skeleton {value : Json} {error : JsonRpcError}
    (same : value.skeleton = error.toJson.skeleton) :
    ∃ other : JsonRpcError, other.code = error.code ∧ value = other.toJson := by
  obtain ⟨own,rfl,fields⟩ := Json.eq_obj_of_skeleton same
  rw [error.toFields_eq] at fields
  obtain ⟨code,rest,rfl,sameCode,left⟩ := Json.eq_cons_of_skeletonFields fields
  have ending {rest : JsonMap} (last : Json.skeletonFields rest =
      Json.skeletonFields [("message",.str error.message)]) :
      rest = [("message",.str error.message)] := by
    obtain ⟨more,rfl,nothing⟩ := Json.eq_text_of_skeletonFields last
    obtain rfl := Json.eq_nil_of_skeletonFields nothing
    rfl
  obtain rfl := Json.eq_int_of_skeleton sameCode
  cases data : error.data with
  | none =>
    rw [data] at left
    obtain rfl := ending left
    exact ⟨⟨error.code,error.message,none⟩,rfl,congrArg Json.obj (toFields_eq ⟨_,_,none⟩).symm⟩
  | some known =>
    rw [data] at left
    obtain ⟨other,rest,rfl,_,last⟩ := Json.eq_cons_of_skeletonFields left
    obtain rfl := ending last
    exact ⟨⟨error.code,error.message,some other⟩,rfl,
      congrArg Json.obj (toFields_eq ⟨_,_,some other⟩).symm⟩

namespace JsonRpcMessage

theorem exists_of_skeleton {value : Json} {message : JsonRpcMessage} (built : message.Built)
    (same : value.skeleton = message.toJson.skeleton) :
    ∃ other : JsonRpcMessage, other.Built ∧ value = other.toJson := by
  obtain ⟨own,rfl,fields⟩ := Json.eq_obj_of_skeleton same
  cases built with
  | @request id method params range present =>
    rw [toFields,JsonRpcRequest.toFields_eq] at fields
    obtain ⟨_,rest,rfl,sameId,fields⟩ := Json.eq_cons_of_skeletonFields fields
    obtain ⟨rest,rfl,behind⟩ := Json.eq_text_of_skeletonFields fields
    obtain ⟨rest,rfl,last⟩ := Json.eq_text_of_skeletonFields behind
    obtain ⟨other,rfl⟩ := Json.eq_member_of_skeletonFields last
    obtain rfl := eq_toJson_of_skeleton sameId
    exact ⟨_,.request method other range present,
      congrArg Json.obj (JsonRpcRequest.toFields_eq ⟨id,method,other⟩).symm⟩
  | notification method params =>
    rw [toFields,JsonRpcNotification.toFields_eq] at fields
    obtain ⟨rest,rfl,behind⟩ := Json.eq_text_of_skeletonFields fields
    obtain ⟨rest,rfl,last⟩ := Json.eq_text_of_skeletonFields behind
    obtain ⟨other,rfl⟩ := Json.eq_member_of_skeletonFields last
    exact ⟨_,.notification method other,
      congrArg Json.obj (JsonRpcNotification.toFields_eq ⟨method,other⟩).symm⟩
  | @response id result range =>
    rw [toFields_answer] at fields
    obtain ⟨_,rest,rfl,sameId,fields⟩ := Json.eq_cons_of_skeletonFields fields
    obtain ⟨rest,rfl,behind⟩ := Json.eq_text_of_skeletonFields fields
    obtain ⟨other,rest,rfl,_,nothing⟩ := Json.eq_cons_of_skeletonFields behind
    obtain rfl := Json.eq_nil_of_skeletonFields nothing
    obtain rfl := eq_toJson_of_skeleton sameId
    exact ⟨_,.response other range,congrArg Json.obj (toFields_answer id other).symm⟩
  | @error id error range code =>
    rw [toFields_error] at fields
    obtain ⟨_,rest,rfl,sameError,fields⟩ := Json.eq_cons_of_skeletonFields fields
    obtain ⟨_,rest,rfl,sameId,fields⟩ := Json.eq_cons_of_skeletonFields fields
    obtain ⟨rest,rfl,nothing⟩ := Json.eq_text_of_skeletonFields fields
    obtain rfl := Json.eq_nil_of_skeletonFields nothing
    obtain ⟨other,sameCode,rfl⟩ := JsonRpcError.exists_of_skeleton sameError
    obtain rfl := eq_toJson_of_skeleton sameId
    have inside : other.InRange := by
      unfold JsonRpcError.InRange at code ⊢
      exact sameCode ▸ code
    exact ⟨_,.error range inside,congrArg Json.obj (toFields_error id other).symm⟩

/-- An object without a `null` where a message has an optional member. -/
def NullFreeFields (fields : JsonMap) : Prop :=
  JsonMap.lookup "params" fields ≠ some .null ∧ JsonMap.lookup "result" fields ≠ some .null ∧
    ((JsonMap.lookup "error" fields).bind Json.asObject).bind (JsonMap.lookup "data") ≠ some .null

theorem nullFree_iff_fields (message : JsonRpcMessage) :
    message.nullFree = true ↔ NullFreeFields message.toFields := by
  cases message with
  | request asked =>
    have found := asked.lookup_toFields
    simp [nullFree,NullFreeFields,toFields,found,JsonRpcRequest.members,List.lookup_cons]
  | notification told =>
    have found := told.lookup_toFields
    simp [nullFree,NullFreeFields,toFields,found,JsonRpcNotification.members,List.lookup_cons]
  | response given =>
    have found := given.lookup_toFields
    obtain ⟨id,result,error⟩ := given
    cases error with
    | none => simp [nullFree,NullFreeFields,toFields,found,JsonRpcResponse.members,List.lookup_cons]
    | some error =>
      have inner := error.lookup_toFields
      simp [nullFree,NullFreeFields,toFields,found,JsonRpcResponse.members,List.lookup_cons,
        JsonRpcError.toJson,inner,JsonRpcError.members]

theorem null_of_skeleton {first second : Option Json}
    (same : first.map Json.skeleton = second.map Json.skeleton) :
    first = some .null ↔ second = some .null := by
  have blank (member : Option Json) :
      member = some .null ↔ member.map Json.skeleton = some .null := by
    cases member with
    | none => simp
    | some value => simp [Json.skeleton_eq_null_iff]
  rw [blank first,blank second,same]

theorem asObject_skeleton (member : Option Json) :
    (member.map Json.skeleton).bind Json.asObject =
      (member.bind Json.asObject).map Json.skeletonFields := by
  cases member with
  | none => rfl
  | some value =>
    cases value with
    | num number => cases number <;> rfl
    | _ => rfl

theorem lookup_data_skeleton (fields : Option JsonMap) :
    (fields.map Json.skeletonFields).bind (JsonMap.lookup "data") =
      (fields.bind (JsonMap.lookup "data")).map Json.skeleton := by
  cases fields with
  | none => rfl
  | some fields => exact Json.lookup_skeletonFields "data" fields

/-- A null optional member is not a number. -/
theorem nullFree_of_skeleton {message other : JsonRpcMessage}
    (same : other.toJson.skeleton = message.toJson.skeleton) :
    other.nullFree = message.nullFree := by
  have fields : Json.skeletonFields other.toFields = Json.skeletonFields message.toFields :=
    Json.obj.inj same
  have found (key : String) : (JsonMap.lookup key other.toFields).map Json.skeleton =
      (JsonMap.lookup key message.toFields).map Json.skeleton := by
    rw [← Json.lookup_skeletonFields,← Json.lookup_skeletonFields,fields]
  have inner : ((JsonMap.lookup "error" other.toFields).bind Json.asObject).map
      Json.skeletonFields =
        ((JsonMap.lookup "error" message.toFields).bind Json.asObject).map Json.skeletonFields := by
    rw [← asObject_skeleton,← asObject_skeleton,found]
  have data : (((JsonMap.lookup "error" other.toFields).bind Json.asObject).bind
      (JsonMap.lookup "data")).map Json.skeleton =
        (((JsonMap.lookup "error" message.toFields).bind Json.asObject).bind
          (JsonMap.lookup "data")).map Json.skeleton := by
    rw [← lookup_data_skeleton,← lookup_data_skeleton,inner]
  rw [Bool.eq_iff_iff,nullFree_iff_fields,nullFree_iff_fields,NullFreeFields,NullFreeFields,
    Ne,Ne,Ne,Ne,Ne,Ne,null_of_skeleton (found "params"),null_of_skeleton (found "result"),
    null_of_skeleton data]

end JsonRpcMessage

/-! ### A null result -/

/-- A printer and parser that know one value and its text. -/
def JsonText.ofLine (value : Json) (line : String) : JsonText where
  print printed := if printed = value then line else "null"
  fromStr read := if read = line then .ok value else .error "expected value at line 1 column 1"

def pongAnswer : JsonRpcMessage := .answer (.number 1) (.str "pong")

def pongText : JsonText :=
  .ofLine pongAnswer.toJson "\x7b\"id\":1,\"result\":\"pong\",\"jsonrpc\":\"2.0\"\x7d"

theorem pong_round_trips : pongText.RoundTrips pongAnswer :=
  (codec_round_trips_iff pongText pongAnswer (.response _ (by decide : (RequestId.number 1).InRange))
    ⟨by decide,by decide⟩).mpr (by decide)

def nullAnswer : JsonRpcMessage := .answer (.number 1) .null

def nullText : JsonText :=
  .ofLine nullAnswer.toJson "\x7b\"id\":1,\"result\":null,\"jsonrpc\":\"2.0\"\x7d"

/-- A success response with a null result comes back with neither result nor error. -/
theorem null_result_lost :
    nullAnswer.Built ∧ nullText.Faithful nullAnswer.toFields ∧
      JsonRpcMessage.parse nullText.fromStr (nullText.serialize nullAnswer) =
        .ok (.response ⟨.number 1,none,none⟩) ∧
      RequestBroker.intoResult ⟨.number 1,none,none⟩ =
        .error (.invalidMessage "response has neither result nor error") ∧
      ¬nullText.RoundTrips nullAnswer := by
  have built : nullAnswer.Built := .response _ (by decide : (RequestId.number 1).InRange)
  have faithful : nullText.Faithful nullAnswer.toFields := ⟨by decide,by decide⟩
  have parsed := JsonText.parse_serialize built faithful
  refine ⟨built,faithful,parsed,rfl,?_⟩
  intro trips
  have same := parsed.symm.trans trips.same
  cases same

end SmlMcps
