import SmlMcps.AuthChallenge
import SmlMcps.HttpTransport
import SmlMcps.IdentityIsolation
import SmlMcps.RequestTarget

/-! The endpoint of the HTTP server, from the head of a request to its answer. Each request
has a thread of its own, which is let in by the head alone, by the token in it where the
server authenticates, and then works on the sessions in several critical sections. A step
is one of them, or a move of one thread between two. -/
namespace SmlMcps

variable {C : Type}

/-! ## Tokens -/

/-- Why the token of a header is not let through. -/
inductive HeaderError where
  | invalidFormat
  | refused (error : JwtError)
  deriving DecidableEq

/-- `to_string` of an error. -/
def JwtError.text : JwtError → String
  | .validationFailed problem => "Token validation failed: " ++ problem
  | .invalidAudience => "Invalid audience"
  | .malformedClaim => "A claim contains a character that cannot appear in one"

def HeaderError.text : HeaderError → String
  | .invalidFormat => "Invalid Authorization header format (expected 'Bearer <token>')"
  | .refused error => error.text

namespace JwtValidator

/-- Extract token from "Bearer <token>" header. -/
def extractToken (authHeader : String) : Except HeaderError String :=
  match Marks.splitOnce [' '] authHeader.toList with
  | none => .error .invalidFormat
  | some (scheme,token) =>
    if !Http1.eqIgnoreAsciiCase (String.ofList scheme) "bearer" then .error .invalidFormat
    else
      let token := token.dropWhile JsonRpcMessage.isWhitespace
      if token.isEmpty then .error .invalidFormat else .ok (String.ofList token)

def validateHeader (validator : JwtValidator) (authHeader : String) : Except HeaderError Claims :=
  match extractToken authHeader with
  | .error e => .error e
  | .ok token => (validator.validate token).mapError .refused

/-- Whether this validator checks that a token was issued for it. -/
def bindsAudience (validator : JwtValidator) : Bool := !validator.audiences.isEmpty

end JwtValidator

/-! ## Letting a request in -/

/-- The header a session is named in. -/
def sessionHeader : String := "Mcp-Session-Id"

/-- An HTTP server as it serves: `validator` is there where it authenticates. -/
structure HttpEndpoint (C : Type) where
  http : HttpServer C
  endpoint : String
  originPolicy : OriginPolicy
  protectedResource : Option ProtectedResourceMetadata
  requiredScopes : List String
  validator : Option JwtValidator

/-- What is to be done about a request once its head has been looked at. -/
inductive EndpointVerdict where
  | refused (response : Http1.Response)
  | terminate (owner : Option String) (id : String)
  | serve (owner : Option String)
  deriving DecidableEq

namespace HttpEndpoint

/-- `serve`: without authentication. -/
def serveOn (server : HttpEndpoint C) : HttpEndpoint C := { server with validator := none }

/-- `serve_with_auth`: a validator that checks no audience cannot protect anything. -/
def serveWithAuthOn (server : HttpEndpoint C) (validator : JwtValidator) :
    Except McpError (HttpEndpoint C) :=
  if !validator.bindsAudience then
    .error (.internal ("serve_with_auth needs a validator bound to an audience: MCP servers " ++
      "MUST reject tokens that do not name them in the `aud` claim. Use " ++
      "`.for_resource(&resource)` (preferred) or `.with_audience(..)`."))
  else .ok { server with validator := some validator }

section
variable (print : Json → String) (server : HttpEndpoint C)

def entry : HttpEntry where
  endpoint := server.endpoint
  supportedVersions := server.http.config.supportedVersions
  originPolicy := server.originPolicy
  protectedResource := server.protectedResource.map fun metadata => metadata.published print

def resource : ResourceServer := ⟨server.protectedResource,server.requiredScopes⟩

/-- Authenticate and authorize, or say why not: whom the request belongs to. -/
def authenticate (head : Http1.Head) : Except Http1.Response (Option String) :=
  match server.validator with
  | none => .ok none
  | some validator =>
    match Http1.headerOf head.headers "Authorization" with
    | none => .error
        (server.resource.unauthorized print "Unauthorized: Missing Authorization header")
    | some header =>
      match validator.validateHeader header with
      | .error e => .error (server.resource.unauthorized print ("Unauthorized: " ++ e.text))
      | .ok claims =>
        match server.resource.checkScopes print claims with
        | some refusal => .error refusal
        | none => .ok (some (ownerOf claims))

/-- Everything that is decided before the session table is touched. -/
def verdict (head : Http1.Head) : EndpointVerdict :=
  match (server.entry print).precheck print head with
  | some rejection => .refused rejection
  | none =>
    match server.authenticate print head with
    | .error rejection => .refused rejection
    | .ok owner =>
      if head.method = .delete then
        match Http1.headerOf head.headers sessionHeader with
        | some id => .terminate owner id
        | none => .refused (errorResponse print 400 (-32600)
            ("Bad Request: DELETE needs an `" ++ sessionHeader ++ "` header"))
      else .serve owner

/-- The answer to a body that could not be had. All of them end the connection. -/
def unreadable : Http1.BodyError → Http1.Response
  | .tooLarge => (errorResponse print 413 (-32600) ("Payload Too Large: the body exceeds the " ++
      toString server.http.config.maxMessageBytes ++ " byte limit")).closing
  | .malformed => (errorResponse print 400 (-32700) "Bad Request: unreadable body").closing
  | .incomplete => (errorResponse print 400 (-32700) "Bad Request: the body ended early").closing
  | .timedOut => (errorResponse print 408 (-32600)
      "Request Timeout: the body did not arrive in time").closing

end

end HttpEndpoint

/-! ## The threads of the requests -/

/-- Where the thread of a request is. `request` is its place among those that were checked
out; `outcome` is what processing the body came to. -/
inductive PeerStage where
  | arrived
  | ending (owner : Option String) (id : String)
  | admitted (owner : Option String)
  | reading (request : Nat)
  | guarded (request : Nat) (body : String)
  | handled (request : Nat) (outcome : Except McpError Processed)
  | settled (request : Nat) (outcome : Except McpError Processed)
  | tested (request : Nat) (outcome : Except McpError Processed)
  | answered (response : Http1.Response)

structure Peer where
  head : Http1.Head
  stage : PeerStage

/-- The request a thread has checked out. -/
def PeerStage.request : PeerStage → Option Nat
  | .reading request | .guarded request _ | .handled request _ | .settled request _
  | .tested request _ => some request
  | _ => none

structure EndpointWorld (C : Type) where
  served : ServedWorld C
  peers : List Peer

/-- `process` has what is written beside the response, and what the call comes to where
the dispatch leaves that to a tool. `panic` is caught by the guard around the processing,
`unwind` by the one around the whole answer. -/
inductive EndpointLabel where
  | arrive (head : Http1.Head)
  | decide (peer : Nat)
  | terminate (peer : Nat)
  | checkout (peer : Nat) (entropy : List UInt8)
  | readBody (peer : Nat) (body : Except Http1.BodyError String)
  | restore (peer : Nat)
  | process (peer : Nat) (freshId : String) (told : List JsonRpcMessage)
      (later : Except McpError Json)
  | absorb (peer : Nat)
  | panic (peer : Nat) (message : String)
  | test (peer : Nat)
  | checkIn (peer : Nat)
  | unwind (peer : Nat) (message : String)
  | elapse (duration : Nat)
  | setClock (wall : SystemTime)
  | work (store : Nat) (op : StoreOp)

namespace EndpointWorld

def start : EndpointWorld C := ⟨.empty,[]⟩

def move (world : EndpointWorld C) (peer : Nat) (stage : PeerStage) : EndpointWorld C :=
  { world with peers := world.peers.modify peer fun it => { it with stage := stage } }

/-- A critical section on the sessions, and where the thread is after it. -/
def act (http : HttpServer C) (world : EndpointWorld C) (peer : Nat) (action : HttpLabel)
    (stage : ServedWorld C → PeerStage) : Option (EndpointWorld C) :=
  (world.served.step http (.http action)).map fun served =>
    move { world with served := served } peer (stage served)

/-- The message a request's dispatch is answered with, if it is a request. -/
def replyTo (served : ServedWorld C) (request : Nat) (freshId : String)
    (later : Except McpError Json) : JsonRpcMessage → List JsonRpcMessage
  | .request message =>
    match (served.world.requests[request]?).map HttpRequest.phase with
    | some (.restored server) =>
      let contents := (server.taskStore.bind fun store => served.world.stores[store]?).getD
        (.new .default)
      match (server.dispatchRequest ⟨contents,served.world.wall,freshId⟩ message).2.2 with
      | .ready outcome => [Server.respond message.id outcome]
      | _ => [Server.respond message.id later]
    | _ => []
  | _ => []

/-- What processing a body comes to: the transport's error, or what its messages make. -/
def outcomeOf (texts : JsonText) (served : ServedWorld C) (request : Nat) (body freshId : String)
    (told : List JsonRpcMessage) (later : Except McpError Json) : Except McpError Processed :=
  (JsonRpcMessage.parse texts.fromStr body).map fun message =>
    (((HttpTransport.new body).writeAll texts
      (told.filter (!·.isResponse) ++ replyTo served request freshId later message)).2).answerFrom

/-- The answer, under the identifier of a session that is kept. -/
def answer (texts : JsonText) (served : ServedWorld C) (request : Nat)
    (outcome : Except McpError Processed) : Http1.Response :=
  let response := finish texts.print outcome
  match served.world.requests[request]? with
  | some ⟨_,id,_,.finished true⟩ => response.withHeader sessionHeader id
  | _ => response

section
variable (texts : JsonText) (server : HttpEndpoint C) (world : EndpointWorld C) (peer : Nat)

def decideStep (it : Peer) : Option (EndpointWorld C) :=
  match it.stage with
  | .arrived =>
    match server.verdict texts.print it.head with
    | .refused response => some (world.move peer (.answered response))
    | .terminate owner id => some (world.move peer (.ending owner id))
    | .serve owner => some (world.move peer (.admitted owner))
  | _ => none

def terminated (owner : Option String) (id : String) : Http1.Response :=
  if (Sessions.terminate world.served.world.table owner id).2 then Http1.Response.new 204
  else errorResponse texts.print 404 (-32600) "Not Found: no such session"

def terminateStep (it : Peer) : Option (EndpointWorld C) :=
  match it.stage with
  | .ending owner id =>
    world.act server.http peer (.delete owner id) fun _ => .answered (terminated texts world owner id)
  | _ => none

/-- A session that is not found is one that was terminated, or another's. -/
def unknownSession : Http1.Response :=
  errorResponse texts.print 404 (-32600) "Not Found: unknown or terminated session"

def checkoutStep (entropy : List UInt8) (it : Peer) : Option (EndpointWorld C) :=
  let place := world.served.world.requests.length
  match it.stage with
  | .admitted owner =>
    match Http1.headerOf it.head.headers sessionHeader with
    | some id => world.act server.http peer (.checkout owner id) fun served =>
        if place < served.world.requests.length then .reading place
        else .answered (unknownSession texts)
    | none => world.act server.http peer (.checkoutNew owner entropy) fun _ => .reading place
  | _ => none

def readBodyStep (body : Except Http1.BodyError String) (it : Peer) : Option (EndpointWorld C) :=
  match it.stage with
  | .reading request =>
    match body with
    | .ok body => some (world.move peer (.guarded request body))
    | .error e => world.act server.http peer (.reject request) fun _ =>
        .answered (server.unreadable texts.print e)
  | _ => none

/-- A setup that fails ends the processing before anything is restored. -/
def restoreStep (it : Peer) : Option (EndpointWorld C) :=
  match it.stage with
  | .guarded request body =>
    (world.served.world.requests[request]?).bind fun checked =>
      world.act server.http peer (.restore request) fun _ =>
        match server.http.build checked.owner world.served.world.stores.length with
        | .ok _ => .guarded request body
        | .error e => .settled request (.error e)
  | _ => none

def processStep (freshId : String) (told : List JsonRpcMessage) (later : Except McpError Json)
    (it : Peer) : Option (EndpointWorld C) :=
  match it.stage with
  | .guarded request body =>
    world.act server.http peer
      (.process request (JsonRpcMessage.parse texts.fromStr body) freshId) fun _ =>
        .handled request (outcomeOf texts world.served request body freshId told later)
  | _ => none

def absorbStep (it : Peer) : Option (EndpointWorld C) :=
  match it.stage with
  | .handled request outcome =>
    world.act server.http peer (.absorb request) fun _ => .settled request outcome
  | _ => none

def panicStep (message : String) (it : Peer) : Option (EndpointWorld C) :=
  match it.stage with
  | .guarded request _ | .handled request _ =>
    world.act server.http peer (.settle request) fun _ =>
      .settled request (.error (.internal ("request handler panicked: " ++ message)))
  | _ => none

def testStep (it : Peer) : Option (EndpointWorld C) :=
  match it.stage with
  | .settled request outcome =>
    world.act server.http peer (.test request) fun _ => .tested request outcome
  | _ => none

def checkInStep (it : Peer) : Option (EndpointWorld C) :=
  match it.stage with
  | .tested request outcome =>
    world.act server.http peer (.update request) fun served =>
      .answered (answer texts served request outcome)
  | _ => none

def contained (message : String) : Http1.Response :=
  (errorResponse texts.print 500 (-32603)
    ("Internal error: request handler panicked: " ++ message)).closing

def unwindStep (message : String) (it : Peer) : Option (EndpointWorld C) :=
  match it.stage with
  | .answered _ => none
  | .arrived | .ending _ _ | .admitted _ =>
    some (world.move peer (.answered (contained texts message)))
  | .reading request | .guarded request _ | .handled request _ | .settled request _
  | .tested request _ =>
    world.act server.http peer (.reject request) fun _ => .answered (contained texts message)

def around (action : ServedLabel) : Option (EndpointWorld C) :=
  (world.served.step server.http action).map fun served => { world with served := served }

def step (label : EndpointLabel) : Option (EndpointWorld C) :=
  let thread (peer : Nat) (step : Nat → Peer → Option (EndpointWorld C)) :=
    (world.peers[peer]?).bind (step peer)
  match label with
  | .arrive head => some { world with peers := world.peers ++ [⟨head,.arrived⟩] }
  | .decide peer => thread peer (decideStep texts server world)
  | .terminate peer => thread peer (terminateStep texts server world)
  | .checkout peer entropy => thread peer fun peer => checkoutStep texts server world peer entropy
  | .readBody peer body => thread peer fun peer => readBodyStep texts server world peer body
  | .restore peer => thread peer (restoreStep server world)
  | .process peer freshId told later =>
    thread peer fun peer => processStep texts server world peer freshId told later
  | .absorb peer => thread peer (absorbStep server world)
  | .panic peer message => thread peer fun peer => panicStep server world peer message
  | .test peer => thread peer (testStep server world)
  | .checkIn peer => thread peer (checkInStep texts server world)
  | .unwind peer message => thread peer fun peer => unwindStep texts server world peer message
  | .elapse duration => around server world (.http (.elapse duration))
  | .setClock wall => around server world (.http (.setClock wall))
  | .work store op => around server world (.store store op)

end

end EndpointWorld

end SmlMcps
