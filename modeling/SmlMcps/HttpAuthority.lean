import SmlMcps.HttpEndpoint
import SmlMcps.Library.Simulation

/-! Authority at the HTTP endpoint. Whatever happens to a session or a task on behalf of an
identity was asked for by a request that carried a token of that identity, issued for this
server and with the scopes it requires; a refused request comes to its answer and nothing
else. -/
namespace SmlMcps

variable {C : Type}

/-! ## Tokens -/

namespace JwtValidator

/-- The header is the bearer scheme, a space, perhaps more whitespace, and the token. -/
structure Presents (header token : String) : Prop where
  written : ∃ scheme blanks : List Char, header.toList = scheme ++ ' ' :: (blanks ++ token.toList) ∧
    Http1.eqIgnoreAsciiCase (String.ofList scheme) "bearer" = true ∧
    ∀ c ∈ blanks, JsonRpcMessage.isWhitespace c = true
  begins : ∃ first rest, token.toList = first :: rest ∧ JsonRpcMessage.isWhitespace first = false

theorem bearer_unbroken {scheme : List Char}
    (bearer : Http1.eqIgnoreAsciiCase (String.ofList scheme) "bearer" = true) : ' ' ∉ scheme := by
  intro member
  have lowered : scheme.map Char.toLower = "bearer".toList.map Char.toLower := by
    simpa [Http1.eqIgnoreAsciiCase] using bearer
  have inside : ' ' ∈ "bearer".toList.map Char.toLower := by
    rw [← lowered]
    exact List.mem_map.mpr ⟨' ',member,by decide⟩
  exact absurd inside (by decide)

theorem dropWhile_blanks {blanks token : List Char} {first : Char}
    (blank : ∀ c ∈ blanks, JsonRpcMessage.isWhitespace c = true)
    (begins : JsonRpcMessage.isWhitespace first = false) :
    (blanks ++ first :: token).dropWhile JsonRpcMessage.isWhitespace = first :: token := by
  rw [List.dropWhile_append_of_pos blank]
  simp [begins]

/-- What is taken out of a header is the token it presents. -/
theorem extractToken_eq_ok {header token : String} :
    extractToken header = .ok token ↔ Presents header token := by
  constructor
  · intro taken
    unfold extractToken at taken
    split at taken
    · cases taken
    · rename_i scheme rest split
      split at taken
      · cases taken
      · rename_i bearer
        dsimp only at taken
        split at taken
        · cases taken
        · rename_i present
          cases taken
          have whole := Marks.splitOnce_sound split
          refine ⟨⟨scheme,rest.takeWhile JsonRpcMessage.isWhitespace,?_,by simpa using bearer,?_⟩,?_⟩
          · rw [String.toList_ofList,List.takeWhile_append_dropWhile,whole]
            simp
          · intro c member
            exact List.mem_takeWhile_imp member
          · cases kept : rest.dropWhile JsonRpcMessage.isWhitespace with
            | nil => simp [kept] at present
            | cons first more =>
              refine ⟨first,more,by simp,?_⟩
              have := List.head_dropWhile_not (p := JsonRpcMessage.isWhitespace) (l := rest)
              simpa [kept] using this
  · rintro ⟨⟨scheme,blanks,whole,bearer,blank⟩,first,more,text,begins⟩
    have cut : Marks.splitOnce [' '] header.toList = some (scheme,blanks ++ token.toList) := by
      rw [whole]
      exact Marks.splitOnce_mark (bearer_unbroken bearer)
    have left : (blanks ++ token.toList).dropWhile JsonRpcMessage.isWhitespace = token.toList := by
      rw [text]
      exact dropWhile_blanks blank begins
    have present : token.toList.isEmpty = false := by simp [text]
    rw [extractToken,cut]
    dsimp only
    rw [left,bearer,present,String.ofList_toList]
    rfl

/-- What the validator requires of a token. -/
structure Trusts (validator : JwtValidator) (token : String) (claims : Claims) : Prop where
  decoded : validator.decode token = .ok claims
  subject : carriesSeparator claims.sub = false
  tenant : claims.tenantId.any carriesSeparator = false
  audience : validator.audiences = [] ∨
    ∃ want ∈ validator.audiences, ∃ audience, claims.aud = some audience ∧ want ∈ audience.values

theorem validate_eq_ok {validator : JwtValidator} {token : String} {claims : Claims} :
    validator.validate token = .ok claims ↔ validator.Trusts token claims := by
  have named (claims : Claims) : (!validator.audiences.isEmpty &&
      !claims.aud.any fun audience => validator.audiences.any fun want => audience.contains want) =
        false ↔ (validator.audiences = [] ∨ ∃ want ∈ validator.audiences, ∃ audience,
          claims.aud = some audience ∧ want ∈ audience.values) := by
    cases aud : claims.aud with
    | none => simp [List.isEmpty_iff]
    | some audience => simp [Audience.contains,or_iff_not_imp_left]
  unfold validate
  constructor
  · intro validated
    split at validated
    · cases validated
    · rename_i decoded found
      split at validated
      · cases validated
      · rename_i clean
        split at validated
        · cases validated
        · rename_i bound
          cases validated
          simp only [Bool.or_eq_true,not_or,Bool.not_eq_true] at clean bound
          exact ⟨found,clean.1,clean.2,(named claims).mp bound⟩
  · rintro ⟨decoded,subject,tenant,audience⟩
    rw [decoded]
    simp only [subject,tenant,Bool.or_self,Bool.false_eq_true,if_false,(named claims).mpr audience]

theorem validateHeader_eq_ok {validator : JwtValidator} {header : String} {claims : Claims} :
    validator.validateHeader header = .ok claims ↔
      ∃ token, Presents header token ∧ validator.Trusts token claims := by
  unfold validateHeader
  constructor
  · intro validated
    split at validated
    · cases validated
    · rename_i token taken
      cases checked : validator.validate token with
      | error e =>
        rw [checked] at validated
        cases validated
      | ok trusted =>
        rw [checked] at validated
        cases validated
        exact ⟨token,extractToken_eq_ok.mp taken,validate_eq_ok.mp checked⟩
  · rintro ⟨token,presents,trusts⟩
    rw [extractToken_eq_ok.mpr presents]
    dsimp only
    rw [validate_eq_ok.mpr trusts]
    rfl

end JwtValidator

/-! ## Requests that are let in -/

/-- The identity a request acts as, if it acts at all. -/
def EndpointVerdict.owner : EndpointVerdict → Option (Option String)
  | .refused _ => none
  | .terminate owner _ | .serve owner => some owner

namespace HttpEndpoint

/-- What a request that is let in has shown: it is for this endpoint, and it carries a
token of these claims that the validator trusts, issued for this server and with every
scope it requires. -/
structure Admits (print : Json → String) (server : HttpEndpoint C) (validator : JwtValidator)
    (head : Http1.Head) (claims : Claims) : Prop where
  routed : (server.entry print).precheck print head = none
  presented : ∃ header token, Http1.headerOf head.headers "Authorization" = some header ∧
    JwtValidator.Presents header token ∧ validator.Trusts token claims
  issued : ∃ want ∈ validator.audiences, ∃ audience, claims.aud = some audience ∧
    want ∈ audience.values
  scopes : ∀ scope ∈ server.requiredScopes, claims.hasScope scope = true

variable {print : Json → String} {server : HttpEndpoint C} {validator : JwtValidator}
  {head : Http1.Head}

theorem authenticate_eq_ok {owner : Option String} (guarded : server.validator = some validator) :
    server.authenticate print head = .ok owner ↔ ∃ claims, owner = some (ownerOf claims) ∧
      (∃ header token, Http1.headerOf head.headers "Authorization" = some header ∧
        JwtValidator.Presents header token ∧ validator.Trusts token claims) ∧
      ∀ scope ∈ server.requiredScopes, claims.hasScope scope = true := by
  unfold authenticate
  rw [guarded]
  dsimp only
  constructor
  · intro passed
    split at passed
    · cases passed
    · rename_i header named
      split at passed
      · cases passed
      · rename_i claims validated
        split at passed
        · cases passed
        · rename_i enough
          cases passed
          obtain ⟨token,presents,trusts⟩ := JwtValidator.validateHeader_eq_ok.mp validated
          exact ⟨claims,rfl,⟨header,token,named,presents,trusts⟩,
            (server.resource.checkScopes_eq_none print claims).mp enough⟩
  · rintro ⟨claims,rfl,⟨header,token,named,presents,trusts⟩,scopes⟩
    have validated := JwtValidator.validateHeader_eq_ok.mpr ⟨token,presents,trusts⟩
    have enough := (server.resource.checkScopes_eq_none print claims).mpr scopes
    rw [named]
    dsimp only
    rw [validated]
    dsimp only
    rw [enough]

/-- Where the server authenticates, a request acts exactly as the identity it has shown. -/
theorem verdict_owner (guarded : server.validator = some validator)
    (bound : validator.bindsAudience = true) {owner : Option String}
    (acts : (server.verdict print head).owner = some owner) :
    ∃ claims, server.Admits print validator head claims ∧ owner = some (ownerOf claims) := by
  unfold verdict at acts
  split at acts
  · cases acts
  · rename_i routed
    split at acts
    · cases acts
    · rename_i identity authenticated
      have same : identity = owner := by
        split at acts
        · split at acts <;> cases acts
          rfl
        · cases acts
          rfl
      subst same
      obtain ⟨claims,owned,presented,scopes⟩ := (authenticate_eq_ok guarded).mp authenticated
      have issued : ∃ want ∈ validator.audiences, ∃ audience, claims.aud = some audience ∧
          want ∈ audience.values := by
        obtain ⟨_,_,_,_,trusts⟩ := presented
        rcases trusts.audience with unbound | issued
        · simp [JwtValidator.bindsAudience,unbound] at bound
        · exact issued
      exact ⟨claims,⟨routed,presented,issued,scopes⟩,owned⟩

end HttpEndpoint

/-! ## The threads -/

/-- Requests stay, with their owner and their identifier, and finished ones as they ended. -/
def Onward (before after : List (HttpRequest C)) : Prop :=
  ∀ (index : Nat) (request : HttpRequest C), before[index]? = some request →
    ∃ later, after[index]? = some later ∧ later.owner = request.owner ∧ later.id = request.id ∧
      (request.inFlight = false → later.phase = request.phase)

/-- The requests there are besides those there were, which an action under `owner` brings. -/
def Brought (before after : List (HttpRequest C)) (owner : Option (Option String)) : Prop :=
  ∀ request ∈ after, (∃ old ∈ before, request.owner = old.owner) ∨ owner = some request.owner

theorem Onward.refl (requests : List (HttpRequest C)) : Onward requests requests :=
  fun _ request found => ⟨request,found,rfl,rfl,fun _ => rfl⟩

theorem onward_advance {requests : List (HttpRequest C)} {index : Nat} {moved : HttpRequest C}
    (known : requests[index]? = some moved) (flying : moved.inFlight = true) (phase : Phase C) :
    Onward requests (requests.modify index fun request => { request with phase := phase }) := by
  intro other request found
  rw [List.getElem?_modify,found]
  by_cases here : index = other
  · subst here
    rw [known] at found
    cases found
    refine ⟨_,rfl,by simp,by simp,fun landed => ?_⟩
    rw [flying] at landed
    cases landed
  · exact ⟨request,by simp [here],rfl,rfl,fun _ => rfl⟩

theorem onward_append (requests more : List (HttpRequest C)) : Onward requests (requests ++ more) := by
  intro index request found
  refine ⟨request,?_,rfl,rfl,fun _ => rfl⟩
  rw [List.getElem?_append_left (List.getElem?_eq_some_iff.mp found).1]
  exact found

theorem HttpWorld.step_onward {http : HttpServer C} {world next : HttpWorld C} {label : HttpLabel}
    (taken : HttpWorld.step http world label = some next) :
    Onward world.requests next.requests := by
  cases HttpWorld.step_taken taken with
  | elapse | setClock | storeChange | refused | deleted => exact .refl _
  | arrived | found => exact onward_append _ _
  | rejected known flying | settled known flying => exact onward_advance known flying _
  | unbuilt known phase | restored known phase | unread known phase | processed known phase
  | storeless known phase | absorbed known phase | tested known phase | updated known phase =>
    exact onward_advance known (by simp [HttpRequest.inFlight,phase]) _

theorem brought_continues {before after : List (HttpRequest C)} (continues : Continues before after)
    (owner : Option (Option String)) : Brought before after owner := by
  intro request member
  obtain ⟨index,found⟩ := List.getElem?_of_mem member
  obtain ⟨old,known,same,_⟩ := continues index request found
  exact .inl ⟨old,List.mem_of_getElem? known,same⟩

theorem brought_append (requests : List (HttpRequest C)) (request : HttpRequest C) :
    Brought requests (requests ++ [request]) (some request.owner) := by
  intro each member
  rcases List.mem_append.mp member with old | new
  · exact .inl ⟨each,old,rfl⟩
  · rw [List.mem_singleton] at new
    exact .inr (new ▸ rfl)

theorem ServedWorld.step_requests {http : HttpServer C} {served next : ServedWorld C}
    {action : ServedLabel} (taken : served.step http action = some next) :
    Onward served.world.requests next.world.requests ∧
      Brought served.world.requests next.world.requests action.bearer := by
  cases action with
  | store index op =>
    obtain ⟨-,rfl⟩ := ServedWorld.step_store taken
    exact ⟨.refl _,brought_continues (.refl _) _⟩
  | http label =>
    obtain ⟨_,world,stepped,rfl⟩ := ServedWorld.step_http taken
    refine ⟨HttpWorld.step_onward stepped,?_⟩
    cases HttpWorld.step_effect stepped with
    | quiet _ _ _ requests | updated _ _ _ _ requests => exact brought_continues requests _
    | refused _ _ requests | deleted _ _ requests =>
      exact brought_continues (requests ▸ .refl _) _
    | arrived _ _ _ requests | found _ _ _ requests =>
      exact requests ▸ brought_append _ _

namespace EndpointWorld

/-- How a thread gets on without touching the sessions. -/
inductive Quiet (texts : JsonText) (server : HttpEndpoint C) (head : Http1.Head) :
    PeerStage → PeerStage → Prop where
  | refused {response : Http1.Response}
      (verdict : server.verdict texts.print head = .refused response) :
      Quiet texts server head .arrived (.answered response)
  | ending {owner : Option String} {id : String}
      (verdict : server.verdict texts.print head = .terminate owner id) :
      Quiet texts server head .arrived (.ending owner id)
  | admitted {owner : Option String}
      (verdict : server.verdict texts.print head = .serve owner) :
      Quiet texts server head .arrived (.admitted owner)
  | read (request : Nat) (body : String) :
      Quiet texts server head (.reading request) (.guarded request body)
  | unwound {stage : PeerStage} (before : stage.request = none) (message : String) :
      Quiet texts server head stage (.answered (contained texts message))

/-- How a thread gets on by an action on the sessions. -/
inductive Busy (texts : JsonText) (server : HttpEndpoint C) (served next : ServedWorld C)
    (head : Http1.Head) : PeerStage → HttpLabel → PeerStage → Prop where
  | ended (owner : Option String) (id : String) (response : Http1.Response)
      (plain : response.headers.lookup sessionHeader = none) :
      Busy texts server served next head (.ending owner id) (.delete owner id) (.answered response)
  | found (owner : Option String) (id : String)
      (there : served.world.requests.length < next.world.requests.length) :
      Busy texts server served next head (.admitted owner) (.checkout owner id)
        (.reading served.world.requests.length)
  | unknown (owner : Option String) (id : String) :
      Busy texts server served next head (.admitted owner) (.checkout owner id)
        (.answered (unknownSession texts))
  | opened (owner : Option String) (entropy : List UInt8) :
      Busy texts server served next head (.admitted owner) (.checkoutNew owner entropy)
        (.reading served.world.requests.length)
  | works {stage after : PeerStage} {request : Nat} {action : HttpLabel}
      (before : stage.request = some request) (still : after.request = some request)
      (nobody : (ServedLabel.http action).bearer = none) :
      Busy texts server served next head stage action after
  | rejected {stage : PeerStage} {request : Nat} (before : stage.request = some request)
      {response : Http1.Response} (plain : response.headers.lookup sessionHeader = none) :
      Busy texts server served next head stage (.reject request) (.answered response)
  | checkedIn (request : Nat) (outcome : Except McpError Processed) :
      Busy texts server served next head (.tested request outcome) (.update request)
        (.answered (answer texts next request outcome))

/-- What a step does. -/
inductive Moved (texts : JsonText) (server : HttpEndpoint C) (world next : EndpointWorld C) :
    Prop where
  | arrived (head : Http1.Head)
      (same : next = { world with peers := world.peers ++ [⟨head,.arrived⟩] })
  | around (action : ServedLabel) (nobody : action.bearer = none)
      (taken : world.served.step server.http action = some next.served)
      (peers : next.peers = world.peers)
  | quiet {peer : Nat} {it : Peer} {stage : PeerStage} (found : world.peers[peer]? = some it)
      (goes : Quiet texts server it.head it.stage stage) (same : next = world.move peer stage)
  | busy {peer : Nat} {it : Peer} {action : HttpLabel} {stage : PeerStage}
      (found : world.peers[peer]? = some it)
      (taken : world.served.step server.http (.http action) = some next.served)
      (goes : Busy texts server world.served next.served it.head it.stage action stage)
      (same : next = move { world with served := next.served } peer stage)

variable {texts : JsonText} {server : HttpEndpoint C} {world next : EndpointWorld C}

theorem act_taken {peer : Nat} {action : HttpLabel} {stage : ServedWorld C → PeerStage}
    (taken : world.act server.http peer action stage = some next) :
    world.served.step server.http (.http action) = some next.served ∧
      next = move { world with served := next.served } peer (stage next.served) := by
  obtain ⟨served,stepped,rfl⟩ := Option.map_eq_some_iff.mp taken
  exact ⟨stepped,rfl⟩

theorem around_taken {action : ServedLabel} (taken : around server world action = some next) :
    world.served.step server.http action = some next.served ∧ next.peers = world.peers := by
  obtain ⟨served,stepped,rfl⟩ := Option.map_eq_some_iff.mp taken
  exact ⟨stepped,rfl⟩

/-- An answer with a body has no header but that of its type. -/
theorem withBody_headers (status : Nat) (contentType : String) (body : List UInt8) (name : String)
    (other : name ≠ "Content-Type") :
    ((Http1.Response.new status).withBody contentType body).headers.lookup name = none := by
  simp only [Http1.Response.withBody,Http1.Response.withHeader]
  have apart : (name == "Content-Type") = false := by simpa using other
  split <;> simp [Http1.Response.new,apart]

theorem sessionHeader_ne : sessionHeader ≠ "Content-Type" := by decide

theorem errorResponse_plain (print : Json → String) (status : Nat) (code : Int) (message : String) :
    (errorResponse print status code message).headers.lookup sessionHeader = none :=
  withBody_headers _ _ _ _ sessionHeader_ne

theorem terminated_plain (owner : Option String) (id : String) :
    (terminated texts world owner id).headers.lookup sessionHeader = none := by
  unfold terminated
  split
  · rfl
  · exact errorResponse_plain _ _ _ _

theorem unreadable_plain (e : Http1.BodyError) :
    (server.unreadable texts.print e).headers.lookup sessionHeader = none := by
  cases e <;> exact errorResponse_plain _ _ _ _

theorem contained_plain (message : String) :
    (contained texts message).headers.lookup sessionHeader = none :=
  errorResponse_plain _ _ _ _

theorem step_moved {label : EndpointLabel} (taken : step texts server world label = some next) :
    Moved texts server world next := by
  cases label with
  | arrive head =>
    cases taken
    exact .arrived head rfl
  | elapse | setClock | work =>
    obtain ⟨stepped,peers⟩ := around_taken taken
    exact .around _ rfl stepped peers
  | decide peer =>
    obtain ⟨it,found,taken⟩ := Option.bind_eq_some_iff.mp taken
    simp only [decideStep] at taken
    split at taken
    · rename_i arrived
      split at taken
      all_goals
        cases taken
      · rename_i verdict
        exact .quiet found (arrived ▸ .refused verdict) rfl
      · rename_i verdict
        exact .quiet found (arrived ▸ .ending verdict) rfl
      · rename_i verdict
        exact .quiet found (arrived ▸ .admitted verdict) rfl
    · cases taken
  | terminate peer =>
    obtain ⟨it,found,taken⟩ := Option.bind_eq_some_iff.mp taken
    simp only [terminateStep] at taken
    split at taken
    · rename_i owner id ending
      obtain ⟨stepped,same⟩ := act_taken taken
      exact .busy found stepped (ending ▸ .ended owner id _ (terminated_plain owner id)) same
    · cases taken
  | checkout peer entropy =>
    obtain ⟨it,found,taken⟩ := Option.bind_eq_some_iff.mp taken
    simp only [checkoutStep] at taken
    split at taken
    · rename_i owner admitted
      split at taken
      · rename_i id named
        obtain ⟨stepped,same⟩ := act_taken taken
        split at same
        · rename_i there
          exact .busy found stepped (admitted ▸ .found owner id there) same
        · exact .busy found stepped (admitted ▸ .unknown owner id) same
      · obtain ⟨stepped,same⟩ := act_taken taken
        exact .busy found stepped (admitted ▸ .opened owner entropy) same
    · cases taken
  | readBody peer body =>
    obtain ⟨it,found,taken⟩ := Option.bind_eq_some_iff.mp taken
    simp only [readBodyStep] at taken
    split at taken
    · rename_i request reading
      split at taken
      · cases taken
        exact .quiet found (reading ▸ .read request _) rfl
      · obtain ⟨stepped,same⟩ := act_taken taken
        exact .busy found stepped
          (.rejected (by rw [reading]; rfl) (unreadable_plain _)) same
    · cases taken
  | restore peer =>
    obtain ⟨it,found,taken⟩ := Option.bind_eq_some_iff.mp taken
    simp only [restoreStep] at taken
    split at taken
    · rename_i request body guarded
      obtain ⟨checked,known,taken⟩ := Option.bind_eq_some_iff.mp taken
      obtain ⟨stepped,same⟩ := act_taken taken
      refine .busy found stepped (.works (by rw [guarded]; rfl) ?_ rfl) same
      split <;> rfl
    · cases taken
  | process peer freshId told later =>
    obtain ⟨it,found,taken⟩ := Option.bind_eq_some_iff.mp taken
    simp only [processStep] at taken
    split at taken
    · rename_i request body guarded
      obtain ⟨stepped,same⟩ := act_taken taken
      exact .busy found stepped (.works (by rw [guarded]; rfl) rfl rfl) same
    · cases taken
  | absorb peer =>
    obtain ⟨it,found,taken⟩ := Option.bind_eq_some_iff.mp taken
    simp only [absorbStep] at taken
    split at taken
    · rename_i request outcome handled
      obtain ⟨stepped,same⟩ := act_taken taken
      exact .busy found stepped (.works (by rw [handled]; rfl) rfl rfl) same
    · cases taken
  | panic peer message =>
    obtain ⟨it,found,taken⟩ := Option.bind_eq_some_iff.mp taken
    simp only [panicStep] at taken
    split at taken
    · rename_i request body guarded
      obtain ⟨stepped,same⟩ := act_taken taken
      exact .busy found stepped (.works (by rw [guarded]; rfl) rfl rfl) same
    · rename_i request outcome handled
      obtain ⟨stepped,same⟩ := act_taken taken
      exact .busy found stepped (.works (by rw [handled]; rfl) rfl rfl) same
    · cases taken
  | test peer =>
    obtain ⟨it,found,taken⟩ := Option.bind_eq_some_iff.mp taken
    simp only [testStep] at taken
    split at taken
    · rename_i request outcome settled
      obtain ⟨stepped,same⟩ := act_taken taken
      exact .busy found stepped (.works (by rw [settled]; rfl) rfl rfl) same
    · cases taken
  | checkIn peer =>
    obtain ⟨it,found,taken⟩ := Option.bind_eq_some_iff.mp taken
    simp only [checkInStep] at taken
    split at taken
    · rename_i request outcome tested
      obtain ⟨stepped,same⟩ := act_taken taken
      exact .busy found stepped (tested ▸ .checkedIn request outcome) same
    · cases taken
  | unwind peer message =>
    obtain ⟨it,found,taken⟩ := Option.bind_eq_some_iff.mp taken
    simp only [unwindStep] at taken
    split at taken
    · cases taken
    all_goals rename_i stage
    all_goals first
      | cases taken
        exact .quiet found (.unwound (by rw [stage]; rfl) message) rfl
      | obtain ⟨stepped,same⟩ := act_taken taken
        exact .busy found stepped
          (.rejected (by rw [stage]; rfl) (contained_plain message)) same

/-! ## What holds in every run -/

/-- What the answer to a request may be: to a refused one its refusal, unless something
broke; and a session is only named to whoever a request belongs to that is done and whose
session was kept. -/
def Answers (texts : JsonText) (server : HttpEndpoint C) (served : ServedWorld C)
    (head : Http1.Head) (response : Http1.Response) : Prop :=
  match server.verdict texts.print head with
  | .refused refusal => response = refusal ∨ ∃ message, response = contained texts message
  | .terminate _ _ => response.headers.lookup sessionHeader = none
  | .serve owner => ∀ id, response.headers.lookup sessionHeader = some id →
      ∃ request ∈ served.world.requests, request.owner = owner ∧ request.id = id ∧
        request.phase = .finished true

/-- A thread is where its verdict has led it, and works on a request of its own owner. -/
def Stands (texts : JsonText) (server : HttpEndpoint C) (served : ServedWorld C) (it : Peer) :
    Prop :=
  match it.stage with
  | .arrived => True
  | .ending owner id => server.verdict texts.print it.head = .terminate owner id
  | .admitted owner => server.verdict texts.print it.head = .serve owner
  | .answered response => Answers texts server served it.head response
  | .reading index | .guarded index _ | .handled index _ | .settled index _ | .tested index _ =>
    ∃ request, served.world.requests[index]? = some request ∧
      server.verdict texts.print it.head = .serve request.owner

structure Held (texts : JsonText) (server : HttpEndpoint C) (world : EndpointWorld C) : Prop where
  stands : ∀ it ∈ world.peers, Stands texts server world.served it
  backed : ∀ request ∈ world.served.world.requests,
    ∃ it ∈ world.peers, server.verdict texts.print it.head = .serve request.owner

theorem stands_request {served : ServedWorld C} {it : Peer} {index : Nat}
    (there : it.stage.request = some index) : Stands texts server served it ↔
      ∃ request, served.world.requests[index]? = some request ∧
        server.verdict texts.print it.head = .serve request.owner := by
  obtain ⟨head,stage⟩ := it
  cases stage <;> cases there <;> exact Iff.rfl

/-- What was true of an answer stays true. -/
theorem Answers.onward {served later : ServedWorld C} {head : Http1.Head}
    {response : Http1.Response} (answers : Answers texts server served head response)
    (onward : Onward served.world.requests later.world.requests) :
    Answers texts server later head response := by
  unfold Answers at answers ⊢
  split at answers
  · exact answers
  · exact answers
  · intro id named
    obtain ⟨request,member,owner,same,kept⟩ := answers id named
    obtain ⟨index,found⟩ := List.getElem?_of_mem member
    obtain ⟨after,known,owned,filed,still⟩ := onward index request found
    have done := still (by simp [HttpRequest.inFlight,kept])
    exact ⟨after,List.mem_of_getElem? known,owned.trans owner,filed.trans same,done.trans kept⟩

theorem Stands.onward {served later : ServedWorld C} {it : Peer}
    (stands : Stands texts server served it)
    (onward : Onward served.world.requests later.world.requests) :
    Stands texts server later it := by
  obtain ⟨head,stage⟩ := it
  have works (index : Nat) (there : stage.request = some index) :
      Stands texts server later ⟨head,stage⟩ := by
    obtain ⟨request,found,verdict⟩ := (stands_request there).mp stands
    obtain ⟨after,known,owned,_⟩ := onward index request found
    exact (stands_request there).mpr ⟨after,known,owned ▸ verdict⟩
  cases stage with
  | arrived | ending | admitted => exact stands
  | answered response => exact Answers.onward stands onward
  | reading index => exact works index rfl
  | guarded index _ => exact works index rfl
  | handled index _ => exact works index rfl
  | settled index _ => exact works index rfl
  | tested index _ => exact works index rfl

theorem answers_plain {served : ServedWorld C} {head : Http1.Head} {response : Http1.Response}
    (acts : (server.verdict texts.print head).owner ≠ none)
    (plain : response.headers.lookup sessionHeader = none) :
    Answers texts server served head response := by
  unfold Answers
  split
  · rename_i verdict
    rw [verdict] at acts
    exact (acts rfl).elim
  · exact plain
  · intro id named
    rw [plain] at named
    cases named

theorem answers_contained {served : ServedWorld C} {head : Http1.Head} (message : String) :
    Answers texts server served head (contained texts message) := by
  unfold Answers
  split
  · exact .inr ⟨message,rfl⟩
  · exact contained_plain message
  · intro id named
    rw [contained_plain message] at named
    cases named

theorem Quiet.stands {served : ServedWorld C} {head : Http1.Head} {before after : PeerStage}
    (goes : Quiet texts server head before after)
    (stands : Stands texts server served ⟨head,before⟩) : Stands texts server served ⟨head,after⟩ := by
  cases goes with
  | @refused response verdict =>
    change Answers texts server served head response
    unfold Answers
    rw [verdict]
    exact .inl rfl
  | ending verdict | admitted verdict => exact verdict
  | read => exact stands
  | unwound _ message => exact answers_contained message

/-- The answer that names a session names that of the request it is given to. -/
theorem answer_named {served : ServedWorld C} {request : Nat}
    {outcome : Except McpError Processed} {id : String}
    (named : (answer texts served request outcome).headers.lookup sessionHeader = some id) :
    ∃ known, served.world.requests[request]? = some known ∧ known.id = id ∧
      known.phase = .finished true := by
  have plain : (finish texts.print outcome).headers.lookup sessionHeader = none := by
    unfold finish
    split
    · exact withBody_headers _ _ _ _ sessionHeader_ne
    · rfl
    · exact errorResponse_plain _ _ _ _
  unfold answer at named
  dsimp only at named
  split at named
  · rename_i owner filed session found
    refine ⟨_,found,?_,rfl⟩
    simp only [Http1.Response.withHeader] at named
    split at named
    · rw [List.lookup_append,plain] at named
      simpa using named
    · rw [plain] at named
      cases named
  · rw [plain] at named
    cases named

/-- A checkout that brings a request brings it for whom it was asked. -/
theorem checkout_places {http : HttpServer C} {served next : ServedWorld C} {action : HttpLabel}
    {owner : Option String} (taken : served.step http (.http action) = some next)
    (asks : (∃ id, action = .checkout owner id) ∨ ∃ entropy, action = .checkoutNew owner entropy)
    (there : served.world.requests.length < next.world.requests.length) :
    ∃ request, next.world.requests[served.world.requests.length]? = some request ∧
      request.owner = owner := by
  obtain ⟨_,world,stepped,rfl⟩ := ServedWorld.step_http taken
  have effect := HttpWorld.step_effect stepped
  have placed {id : String} {session : Nat} (requests : world.requests =
      served.world.requests ++ [⟨owner,id,session,.checkedOut⟩]) :
      ∃ request, world.requests[served.world.requests.length]? = some request ∧
        request.owner = owner := by
    rw [requests]
    exact ⟨⟨owner,id,session,.checkedOut⟩,List.getElem?_concat_length,rfl⟩
  rcases asks with ⟨id,rfl⟩ | ⟨entropy,rfl⟩
  · cases effect with
    | quiet still => cases still
    | refused _ _ requests =>
      have same : world.requests.length = served.world.requests.length := by rw [requests]
      exact absurd there (by simp [ServedWorld.remember,same])
    | found _ _ _ requests => exact placed requests
  · cases effect with
    | quiet still => cases still
    | arrived _ _ _ requests => exact placed requests

theorem opened_grows {http : HttpServer C} {served next : ServedWorld C} {owner : Option String}
    {entropy : List UInt8} (taken : served.step http (.http (.checkoutNew owner entropy)) = some next) :
    served.world.requests.length < next.world.requests.length := by
  obtain ⟨_,world,stepped,rfl⟩ := ServedWorld.step_http taken
  cases HttpWorld.step_effect stepped with
  | quiet still => cases still
  | arrived _ _ _ requests => simp [ServedWorld.remember,requests]

theorem Busy.stands {served next : ServedWorld C} {head : Http1.Head} {before after : PeerStage}
    {action : HttpLabel} (goes : Busy texts server served next head before action after)
    (taken : served.step server.http (.http action) = some next)
    (stands : Stands texts server served ⟨head,before⟩) :
    Stands texts server next ⟨head,after⟩ := by
  have onward := (ServedWorld.step_requests taken).1
  cases goes with
  | ended owner id response plain =>
    have verdict : server.verdict texts.print head = .terminate owner id := stands
    exact answers_plain (by rw [verdict]; simp [EndpointVerdict.owner]) plain
  | found owner id there =>
    have verdict : server.verdict texts.print head = .serve owner := stands
    obtain ⟨request,placed,rfl⟩ := checkout_places taken (.inl ⟨id,rfl⟩) there
    exact ⟨request,placed,verdict⟩
  | unknown owner id =>
    have verdict : server.verdict texts.print head = .serve owner := stands
    exact answers_plain (by rw [verdict]; simp [EndpointVerdict.owner]) (errorResponse_plain _ _ _ _)
  | opened owner entropy =>
    have verdict : server.verdict texts.print head = .serve owner := stands
    obtain ⟨request,placed,rfl⟩ :=
      checkout_places taken (.inr ⟨entropy,rfl⟩) (opened_grows taken)
    exact ⟨request,placed,verdict⟩
  | works there still nobody =>
    obtain ⟨request,found,verdict⟩ := (stands_request there).mp stands
    obtain ⟨later,known,owned,_⟩ := onward _ request found
    exact (stands_request still).mpr ⟨later,known,owned ▸ verdict⟩
  | rejected there plain =>
    obtain ⟨request,found,verdict⟩ := (stands_request there).mp stands
    exact answers_plain (by rw [verdict]; simp [EndpointVerdict.owner]) plain
  | checkedIn request outcome =>
    obtain ⟨known,found,verdict⟩ := stands
    obtain ⟨later,there,owned,_⟩ := onward _ known found
    change Answers texts server next head _
    unfold Answers
    rw [verdict]
    intro id named
    obtain ⟨same,again,filed,kept⟩ := answer_named named
    rw [there] at again
    cases again
    exact ⟨later,List.mem_of_getElem? there,owned,filed,kept⟩

/-- The owner an action is done under is its thread's. -/
theorem Busy.bearer {served next : ServedWorld C} {head : Http1.Head} {before after : PeerStage}
    {action : HttpLabel} {owner : Option String}
    (goes : Busy texts server served next head before action after)
    (stands : Stands texts server served ⟨head,before⟩)
    (acts : (ServedLabel.http action).bearer = some owner) :
    server.verdict texts.print head = .serve owner ∨
      ∃ id, action = .delete owner id ∧ server.verdict texts.print head = .terminate owner id := by
  cases goes with
  | ended owner id =>
    cases acts
    exact .inr ⟨id,rfl,stands⟩
  | found owner id | unknown owner id | opened owner entropy =>
    cases acts
    exact .inl stands
  | works _ _ nobody =>
    rw [nobody] at acts
    cases acts
  | rejected | checkedIn => cases acts

theorem move_heads {peer : Nat} {stage : PeerStage} {it : Peer} (member : it ∈ world.peers) :
    ∃ other ∈ (world.move peer stage).peers, other.head = it.head := by
  obtain ⟨index,found⟩ := List.getElem?_of_mem member
  have moved : (world.move peer stage).peers[index]? =
      some (if peer = index then { it with stage := stage } else it) := by
    simp [move,List.getElem?_modify,found]
  exact ⟨_,List.mem_of_getElem? moved,by split <;> rfl⟩

theorem mem_move {peer : Nat} {stage : PeerStage} {it other : Peer}
    (found : world.peers[peer]? = some it) (member : other ∈ (world.move peer stage).peers) :
    other ∈ world.peers ∨ other = { it with stage := stage } := by
  obtain ⟨index,there⟩ := List.getElem?_of_mem member
  simp only [move,List.getElem?_modify] at there
  obtain ⟨old,known,same⟩ := Option.map_eq_some_iff.mp there
  by_cases here : peer = index
  · subst here
    rw [found] at known
    cases known
    exact .inr (by simpa using same.symm)
  · rw [if_neg here] at same
    exact .inl (same ▸ List.mem_of_getElem? known)

/-- No head is forgotten. -/
theorem Moved.heads (moved : Moved texts server world next) {it : Peer}
    (member : it ∈ world.peers) : ∃ other ∈ next.peers, other.head = it.head := by
  cases moved with
  | arrived head same =>
    subst same
    exact ⟨it,List.mem_append_left _ member,rfl⟩
  | around _ _ _ peers => exact ⟨it,peers ▸ member,rfl⟩
  | quiet _ _ same =>
    subst same
    exact move_heads member
  | busy _ _ _ same =>
    rw [same]
    exact @move_heads _ { world with served := next.served } _ _ it member

theorem Moved.served (moved : Moved texts server world next) :
    Onward world.served.world.requests next.served.world.requests := by
  cases moved with
  | arrived _ same | quiet _ _ same =>
    subst same
    exact .refl _
  | around _ _ taken | busy _ taken => exact (ServedWorld.step_requests taken).1

theorem Moved.stands (moved : Moved texts server world next) (held : Held texts server world)
    {it : Peer} (member : it ∈ next.peers) : Stands texts server next.served it := by
  have onward := moved.served
  have before {old : Peer} (among : old ∈ world.peers) : Stands texts server next.served old :=
    (held.stands old among).onward onward
  cases moved with
  | arrived head same =>
    subst same
    rcases List.mem_append.mp member with old | new
    · exact before old
    · rw [List.mem_singleton.mp new]
      trivial
  | around _ _ _ peers => exact before (peers ▸ member)
  | quiet found goes same =>
    subst same
    rcases mem_move found member with old | rfl
    · exact before old
    · exact goes.stands (held.stands _ (List.mem_of_getElem? found))
  | @busy peer it' action stage found taken goes same =>
    rw [same] at member
    rcases @mem_move _ { world with served := next.served } _ _ _ _ found member with old | rfl
    · exact before old
    · exact goes.stands taken (held.stands _ (List.mem_of_getElem? found))

theorem delete_requests {http : HttpServer C} {served next : ServedWorld C}
    {owner : Option String} {id : String} {request : HttpRequest C}
    (taken : served.step http (.http (.delete owner id)) = some next)
    (member : request ∈ next.world.requests) : request ∈ served.world.requests := by
  obtain ⟨_,world,stepped,rfl⟩ := ServedWorld.step_http taken
  cases HttpWorld.step_effect stepped with
  | quiet still => cases still
  | deleted _ _ requests => exact requests ▸ member

theorem Moved.backed (moved : Moved texts server world next) (held : Held texts server world)
    {request : HttpRequest C} (member : request ∈ next.served.world.requests) :
    ∃ it ∈ next.peers, server.verdict texts.print it.head = .serve request.owner := by
  have known {old : HttpRequest C} (among : old ∈ world.served.world.requests)
      (same : request.owner = old.owner) :
      ∃ it ∈ next.peers, server.verdict texts.print it.head = .serve request.owner := by
    obtain ⟨it,there,verdict⟩ := held.backed old among
    obtain ⟨other,still,head⟩ := moved.heads there
    exact ⟨other,still,by rw [head,verdict,same]⟩
  cases moved with
  | arrived _ same | quiet _ _ same =>
    subst same
    exact known member rfl
  | around _ nobody taken =>
    rcases (ServedWorld.step_requests taken).2 request member with ⟨old,among,same⟩ | acts
    · exact known among same
    · rw [nobody] at acts
      cases acts
  | @busy peer it action stage found taken goes same =>
    rcases (ServedWorld.step_requests taken).2 request member with ⟨old,among,same⟩ | acts
    · exact known among same
    · have stands := held.stands it (List.mem_of_getElem? found)
      rcases goes.bearer stands acts with verdict | ⟨id,rfl,_⟩
      · obtain ⟨other,still,head⟩ := @move_heads _ { world with served := next.served } peer stage it
          (List.mem_of_getElem? found)
        rw [same]
        exact ⟨other,still,by rw [head,verdict]⟩
      · exact known (delete_requests taken member) rfl

theorem start_held : Held texts server (start : EndpointWorld C) where
  stands it member := by cases member
  backed request member := by cases member

theorem step_held (world : EndpointWorld C) (label : EndpointLabel) (next : EndpointWorld C)
    (held : Held texts server world) (taken : step texts server world label = some next) :
    Held texts server next :=
  have moved := step_moved taken
  ⟨fun _ member => moved.stands held member,fun _ member => moved.backed held member⟩

theorem run_held {labels : List EndpointLabel}
    (run : Runs.execute (step texts server) start labels = some world) : Held texts server world :=
  Runs.invariant step_held run start_held

/-- Somebody whose request was let in asked for the action. -/
def Asked (texts : JsonText) (server : HttpEndpoint C) (world : EndpointWorld C)
    (action : ServedLabel) : Prop :=
  ∀ owner, action.bearer = some owner →
    ∃ it ∈ world.peers, (server.verdict texts.print it.head).owner = some owner

theorem simulates (texts : JsonText) (server : HttpEndpoint C) :
    Runs.Simulates (step texts server) (fun served => served.step server.http)
      EndpointWorld.served (Held texts server) (Asked texts server) where
  kept := step_held
  follows world label next held taken := by
    cases step_moved taken with
    | arrived _ same | quiet _ _ same =>
      subst same
      exact .inl rfl
    | around action nobody stepped =>
      refine .inr ⟨action,?_,stepped⟩
      intro owner acts
      rw [nobody] at acts
      cases acts
    | @busy _ it action _ found stepped goes =>
      refine .inr ⟨.http action,?_,stepped⟩
      intro owner acts
      have stands := held.stands it (List.mem_of_getElem? found)
      refine ⟨it,List.mem_of_getElem? found,?_⟩
      rcases goes.bearer stands acts with verdict | ⟨_,_,verdict⟩ <;> rw [verdict] <;> rfl
  persists world label next action taken asked owner acts := by
    obtain ⟨it,member,verdict⟩ := asked owner acts
    obtain ⟨other,still,head⟩ := (step_moved taken).heads member
    exact ⟨other,still,by rw [head,verdict]⟩

theorem Admits.owns {print : Json → String} {server : HttpEndpoint C} {validator : JwtValidator}
    {head : Http1.Head} {claims : Claims} (admits : server.Admits print validator head claims) :
    validator.Owns (some (ownerOf claims)) := by
  obtain ⟨_,token,_,_,trusts⟩ := admits.presented
  exact ⟨claims,⟨token,JwtValidator.validate_eq_ok.mpr trusts⟩,rfl⟩

/-- What an authenticating endpoint does with sessions and tasks, in any run with any
number of requests, is a run of the served world in which every session was looked up,
made or ended on behalf of an identity that had presented a token to this endpoint: one
the validator trusts, issued for one of its audiences, with every scope required. Every
request that was let in to a session belongs to such an identity, and the sessions and
tasks of different identities stay apart. -/
theorem acts_for_presented (texts : JsonText) (configured : HttpEndpoint C)
    {validator : JwtValidator} {server : HttpEndpoint C}
    (started : configured.serveWithAuthOn validator = .ok server) {labels : List EndpointLabel}
    {world : EndpointWorld C}
    (run : Runs.execute (step texts server) start labels = some world) :
    (∃ actions, Runs.execute (ServedWorld.step server.http) .empty actions = some world.served ∧
      ∀ action ∈ actions, ∀ owner, action.bearer = some owner → ∃ it ∈ world.peers, ∃ claims,
        server.Admits texts.print validator it.head claims ∧ owner = some (ownerOf claims)) ∧
      (∀ request ∈ world.served.world.requests, ∃ it ∈ world.peers, ∃ claims,
        server.Admits texts.print validator it.head claims ∧
          request.owner = some (ownerOf claims)) ∧
      world.served.SessionsApart server.http validator ∧ world.served.TasksApart validator := by
  obtain ⟨guarded,bound⟩ : server.validator = some validator ∧ validator.bindsAudience = true := by
    unfold HttpEndpoint.serveWithAuthOn at started
    split at started
    · cases started
    · rename_i bound
      cases started
      exact ⟨rfl,by simpa using bound⟩
  obtain ⟨actions,walked,asked⟩ := (simulates texts server).run run start_held
  have entitled : ∀ action ∈ actions, ∀ owner, action.bearer = some owner →
      ∃ it ∈ world.peers, ∃ claims, server.Admits texts.print validator it.head claims ∧
        owner = some (ownerOf claims) := by
    intro action member owner acts
    obtain ⟨it,among,verdict⟩ := asked action member owner acts
    obtain ⟨claims,admits,owned⟩ := HttpEndpoint.verdict_owner guarded bound verdict
    exact ⟨it,among,claims,admits,owned⟩
  have named : world.served.Named validator := by
    apply ServedWorld.named_of_run walked
    intro action member owner acts
    obtain ⟨_,_,claims,admits,rfl⟩ := entitled action member owner acts
    exact Admits.owns admits
  refine ⟨⟨actions,walked,entitled⟩,?_,ServedWorld.sessionsApart_of_named named,
    ServedWorld.tasksApart_of_named named (ServedWorld.filed_of_run walked)⟩
  intro request member
  obtain ⟨it,among,verdict⟩ := (run_held run).backed request member
  have acts := congrArg EndpointVerdict.owner verdict
  obtain ⟨claims,admits,owned⟩ := HttpEndpoint.verdict_owner guarded bound acts
  exact ⟨it,among,claims,admits,owned⟩

/-! ### A request with a token -/

def aliceToken : Claims := ⟨"alice",2000,1000,none,some (.one "files"),none,some "files:read"⟩

/-- The token of Alice is her name. -/
def filesValidator : JwtValidator where
  decode token := if token = "alice" then .ok aliceToken else .error "InvalidToken"
  audiences := ["files"]

def filesEndpoint : HttpEndpoint Unit :=
  ⟨oneTaskHttp,"/mcp",.loopback,none,["files:read"],some filesValidator⟩

def aliceHead : Http1.Head :=
  ⟨.post,"/mcp",.http11,[("Authorization","Bearer alice")],.empty,false,false⟩

def strangerHead : Http1.Head := ⟨.post,"/mcp",.http11,[],.empty,false,false⟩

/-- Alice gets as far as her server, and a stranger to his refusal. -/
def aliceAndStranger : List EndpointLabel :=
  [.arrive aliceHead,.arrive strangerHead,.decide 0,.decide 1,.checkout 0 [7],
    .readBody 0 (.ok ""),.restore 0]

def noTexts : JsonText := ⟨fun _ => "",fun _ => .error ""⟩

theorem aliceAndStranger_acts :
    ∃ world, Runs.execute (step noTexts filesEndpoint) start aliceAndStranger = some world ∧
      world.served.SessionsApart filesEndpoint.http filesValidator := by
  refine ⟨_,rfl,?_⟩
  exact (@acts_for_presented Unit noTexts filesEndpoint filesValidator filesEndpoint rfl
    aliceAndStranger _ rfl).2.2.1

/-- In every run of the endpoint each request that has its answer has one it may have. A
refused one has its refusal and nothing else, unless something broke; a session is named
only in the answer to a request of the owner it is kept for, once it has been kept. -/
theorem answers_own (texts : JsonText) (server : HttpEndpoint C) {labels : List EndpointLabel}
    {world : EndpointWorld C}
    (run : Runs.execute (step texts server) start labels = some world) {it : Peer}
    {response : Http1.Response} (member : it ∈ world.peers)
    (answered : it.stage = .answered response) :
    Answers texts server world.served it.head response := by
  have stands := (run_held run).stands it member
  rw [Stands,answered] at stands
  exact stands

/-- What a client says first. -/
def helloMessage : Json :=
  .obj [("id",.num (.int 1)),("jsonrpc",.str "2.0"),("method",.str "initialize"),
    ("params",.obj [("capabilities",.obj []),
      ("clientInfo",.obj [("name",.str "probe"),("version",.str "1")]),
      ("protocolVersion",.str "2025-11-25")])]

def helloTexts : JsonText :=
  ⟨fun _ => "",fun text => if text = "hello" then .ok helloMessage else .error ""⟩

/-- Alice greets the server, which keeps her session; the stranger is refused meanwhile. -/
def aliceGreets : List EndpointLabel :=
  [.arrive aliceHead,.arrive strangerHead,.decide 0,.decide 1,.checkout 0 [7],
    .readBody 0 (.ok "hello"),.restore 0,.process 0 "" [] (.ok .null),.absorb 0,.test 0,
    .checkIn 0]

theorem aliceGreets_answered :
    ∃ world kept refused,
      Runs.execute (step helloTexts filesEndpoint) start aliceGreets = some world ∧
      (⟨aliceHead,.answered kept⟩ : Peer) ∈ world.peers ∧ kept.status = 200 ∧
      kept.headers.lookup sessionHeader = some "07" ∧
      (∃ request ∈ world.served.world.requests, request.owner = some (ownerOf aliceToken) ∧
        request.id = "07" ∧ request.phase = .finished true) ∧
      (⟨strangerHead,.answered refused⟩ : Peer) ∈ world.peers ∧ refused.status = 401 ∧
      Answers helloTexts filesEndpoint world.served strangerHead refused := by
  refine ⟨_,_,_,rfl,List.mem_cons_self,rfl,rfl,?_,.tail _ List.mem_cons_self,rfl,?_⟩
  · exact @answers_own Unit helloTexts filesEndpoint aliceGreets _ rfl _ _ List.mem_cons_self
      rfl "07" rfl
  · exact @answers_own Unit helloTexts filesEndpoint aliceGreets _ rfl _ _
      (.tail _ List.mem_cons_self) rfl

end EndpointWorld

end SmlMcps
