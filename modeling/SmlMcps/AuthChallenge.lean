import SmlMcps.Library.QuotedParams
import SmlMcps.ResourceUri

/-! `WWW-Authenticate` challenges. Their parameters are quoted strings; whatever the values
are, a reader finds the parameters that were meant. -/
namespace SmlMcps

namespace Challenge

open QuotedParams (Param renderParam renderParams readParams)

/-- `str::replace` of a single character. -/
def replace (text : List Char) (this : Char) (by' : List Char) : List Char :=
  text.flatMap fun c => if c = this then by' else [c]

def escape (value : String) : String :=
  String.ofList (replace (replace value.toList '\\' ['\\','\\']) '"' ['\\','"'])

def unauthorizedChallenge (metadataUrl : String) (scopes : List String) : String :=
  let challenge := "Bearer resource_metadata=\"" ++ escape metadataUrl ++ "\""
  if scopes.isEmpty then challenge
  else challenge ++ ", scope=\"" ++ escape (" ".intercalate scopes) ++ "\""

def insufficientScopeChallenge (metadataUrl : String) (requiredScopes : List String)
    (description : Option String) : String :=
  let challenge := "Bearer error=\"insufficient_scope\", scope=\"" ++
    escape (" ".intercalate requiredScopes) ++ "\", resource_metadata=\"" ++
    escape metadataUrl ++ "\""
  description.elim challenge fun description =>
    challenge ++ ", error_description=\"" ++ escape description ++ "\""

/-! ## Reading a challenge -/

def nameChar (c : Char) : Bool := c.isAlphanum || "!#$%&'*+-.^_`|~".toList.contains c

/-- `Bearer` and the parameters behind it. -/
def read (challenge : String) : Option (List (String × String)) := do
  let (scheme,params) ← Marks.splitOnce [' '] challenge.toList
  if scheme = "Bearer".toList then
    (← readParams nameChar params).map fun param =>
      (String.ofList param.1,String.ofList param.2)
  else none

variable {params : List (String × String)} {challenge : String}

/-- The two replacements, backslashes first, escape character by character. -/
theorem toList_escape (value : String) :
    (escape value).toList = QuotedParams.escape value.toList := by
  rw [escape,String.toList_ofList,replace,replace,List.flatMap_assoc,QuotedParams.escape]
  congr 1
  funext c
  by_cases backslash : c = '\\'
  · simp [backslash,QuotedParams.escapeChar]
  · by_cases quote : c = '"'
    · simp [quote,QuotedParams.escapeChar]
    · simp [backslash,quote,QuotedParams.escapeChar]

def param (named : String × String) : Param := (named.1.toList,named.2.toList)

/-- A challenge written with these parameters. -/
def Written (challenge : String) (params : List (String × String)) : Prop :=
  challenge.toList = "Bearer".toList ++ ' ' :: renderParams (params.map param)

theorem read_written (written : Written challenge params) (present : params ≠ [])
    (named : ∀ each ∈ params, QuotedParams.IsName nameChar each.1.toList) :
    read challenge = some params := by
  have scheme : Marks.splitOnce [' '] challenge.toList =
      some ("Bearer".toList,renderParams (params.map param)) := by
    rw [written]
    exact Marks.splitOnce_mark (by decide)
  have inside : readParams nameChar (renderParams (params.map param)) =
      some (params.map param) := by
    apply QuotedParams.readParams_render (by decide) (by simpa using present)
    intro each member
    obtain ⟨given,belongs,rfl⟩ := List.mem_map.mp member
    exact named given belongs
  have back : ((fun each : Param => (String.ofList each.1,String.ofList each.2)) ∘ param) = id := by
    funext each
    simp [param]
  rw [read,scheme]
  simp only [bind,Option.bind,if_true,inside]
  rw [List.map_map,back,List.map_id]

/-- The parameters meant for a 401; no scope is asked for where none is given. -/
def unauthorizedParams (metadataUrl : String) (scopes : List String) : List (String × String) :=
  ("resource_metadata",metadataUrl) ::
    if scopes = [] then [] else [("scope"," ".intercalate scopes)]

def insufficientScopeParams (metadataUrl : String) (requiredScopes : List String)
    (description : Option String) : List (String × String) :=
  [("error","insufficient_scope"),("scope"," ".intercalate requiredScopes),
    ("resource_metadata",metadataUrl)] ++
    description.toList.map fun text => ("error_description",text)

theorem unauthorizedChallenge_written (metadataUrl : String) (scopes : List String) :
    Written (unauthorizedChallenge metadataUrl scopes)
      (unauthorizedParams metadataUrl scopes) := by
  cases scopes with
  | nil =>
    have text : unauthorizedChallenge metadataUrl [] =
        "Bearer resource_metadata=\"" ++ escape metadataUrl ++ "\"" := rfl
    simp [Written,text,unauthorizedParams,renderParams,renderParam,param,
      QuotedParams.renderMore,toList_escape]
  | cons first more =>
    have text : unauthorizedChallenge metadataUrl (first :: more) =
        "Bearer resource_metadata=\"" ++ escape metadataUrl ++ "\"" ++ ", scope=\"" ++
          escape (" ".intercalate (first :: more)) ++ "\"" := rfl
    simp [Written,text,unauthorizedParams,renderParams,renderParam,param,
      QuotedParams.renderMore,toList_escape]

theorem insufficientScopeChallenge_written (metadataUrl : String) (requiredScopes : List String)
    (description : Option String) :
    Written (insufficientScopeChallenge metadataUrl requiredScopes description)
      (insufficientScopeParams metadataUrl requiredScopes description) := by
  cases description with
  | none =>
    simp [Written,insufficientScopeChallenge,insufficientScopeParams,renderParams,renderParam,
      param,QuotedParams.renderMore,toList_escape,QuotedParams.escape,QuotedParams.escapeChar]
  | some text =>
    simp [Written,insufficientScopeChallenge,insufficientScopeParams,renderParams,renderParam,
      param,QuotedParams.renderMore,toList_escape,QuotedParams.escape,QuotedParams.escapeChar]

theorem nameChar_isName {name : String} (present : name.toList ≠ [])
    (inside : name.toList.all nameChar = true) : QuotedParams.IsName nameChar name.toList := by
  refine ⟨present,inside,?_,?_⟩
  · intro blank
    have first := List.all_eq_true.mp inside ' ' (List.mem_of_head? blank)
    exact absurd first (by decide)
  · intro blank
    have first := List.all_eq_true.mp inside '\t' (List.mem_of_head? blank)
    exact absurd first (by decide)

theorem isName_metadata : QuotedParams.IsName nameChar "resource_metadata".toList :=
  nameChar_isName (by decide) (by decide)

theorem isName_scope : QuotedParams.IsName nameChar "scope".toList :=
  nameChar_isName (by decide) (by decide)

theorem isName_description : QuotedParams.IsName nameChar "error_description".toList :=
  nameChar_isName (by decide) (by decide)

theorem read_unauthorized (metadataUrl : String) (scopes : List String) :
    read (unauthorizedChallenge metadataUrl scopes) =
      some (unauthorizedParams metadataUrl scopes) := by
  apply read_written (unauthorizedChallenge_written metadataUrl scopes)
  · simp [unauthorizedParams]
  · intro each member
    by_cases none : scopes = []
    · simp only [unauthorizedParams,none,if_true,List.mem_singleton] at member
      exact member ▸ isName_metadata
    · simp only [unauthorizedParams,none,if_false,List.mem_cons,List.not_mem_nil,
        or_false] at member
      rcases member with rfl | rfl
      · exact isName_metadata
      · exact isName_scope

theorem read_insufficientScope (metadataUrl : String) (requiredScopes : List String)
    (description : Option String) :
    read (insufficientScopeChallenge metadataUrl requiredScopes description) =
      some (insufficientScopeParams metadataUrl requiredScopes description) := by
  apply read_written (insufficientScopeChallenge_written metadataUrl requiredScopes description)
  · simp [insufficientScopeParams]
  · intro each member
    simp only [insufficientScopeParams,List.mem_append,List.mem_cons,List.not_mem_nil,or_false,
      List.mem_map,Option.mem_toList] at member
    rcases member with (rfl | rfl | rfl) | ⟨text,-,rfl⟩
    · exact nameChar_isName (by decide) (by decide)
    · exact isName_scope
    · exact isName_metadata
    · exact isName_description

/-- A challenge is read as the parameters that were meant, in order and with their own
values; whatever characters the values have, there are no others. -/
theorem read_challenges (metadataUrl : String) (scopes : List String)
    (description : Option String) :
    read (unauthorizedChallenge metadataUrl scopes) =
        some (unauthorizedParams metadataUrl scopes) ∧
      read (insufficientScopeChallenge metadataUrl scopes description) =
        some (insufficientScopeParams metadataUrl scopes description) :=
  ⟨read_unauthorized metadataUrl scopes,
    read_insufficientScope metadataUrl scopes description⟩

end Challenge

/-! ## The challenges of a server -/

/-- What a server reads of itself to refuse a token. -/
structure ResourceServer where
  protectedResource : Option ProtectedResourceMetadata
  requiredScopes : List String

/-- `str::split_whitespace`. -/
def splitWhitespace (text : String) : List String :=
  ((text.toList.splitOnP JsonRpcMessage.isWhitespace).filter fun part => !part.isEmpty).map
    String.ofList

def Claims.hasScope (claims : Claims) (scope : String) : Bool :=
  claims.scope.any fun scopes => (splitWhitespace scopes).any (· == scope)

def Claims.missingScopes (claims : Claims) (required : List String) : List String :=
  required.filter fun scope => !claims.hasScope scope

namespace ResourceServer

/-- The challenge to attach to a 401, if metadata is published. -/
def challenge (server : ResourceServer) : Option String := do
  let metadata ← server.protectedResource
  let uri ← metadata.resourceUri.toOption
  some (Challenge.unauthorizedChallenge uri.metadataUrl metadata.scopesSupported)

/-- The challenge to attach to a 403. It names the metadata document, so it can only be
built where one is published. -/
def scopeChallenge (server : ResourceServer) : Option String := do
  let metadata ← server.protectedResource
  let uri ← metadata.resourceUri.toOption
  some (Challenge.insufficientScopeChallenge uri.metadataUrl server.requiredScopes
    (some "the token does not carry the scopes this request needs"))

def challenged (response : Http1.Response) (challenge : Option String) : Http1.Response :=
  challenge.elim response fun challenge => response.withHeader "WWW-Authenticate" challenge

section
variable (print : Json → String)

def unauthorized (server : ResourceServer) (message : String) : Http1.Response :=
  challenged (errorResponse print 401 (-32600) message) server.challenge

def forbidden (server : ResourceServer) (missing : List String) : Http1.Response :=
  challenged (errorResponse print 403 (-32600)
    ("Forbidden: missing scope(s): " ++ " ".intercalate missing)) server.scopeChallenge

/-- The refusal of a token that authenticated, if it is not permitted here. -/
def checkScopes (server : ResourceServer) (claims : Claims) : Option Http1.Response :=
  let missing := claims.missingScopes server.requiredScopes
  if missing.isEmpty then none else some (server.forbidden print missing)

theorem checkScopes_eq_none (server : ResourceServer) (claims : Claims) :
    server.checkScopes print claims = none ↔
      ∀ scope ∈ server.requiredScopes, claims.hasScope scope = true := by
  simp [checkScopes,Claims.missingScopes]

end

variable {server : ResourceServer} {metadata : ProtectedResourceMetadata} {uri : ResourceUri}

/-- Both challenges send a client to where the metadata of the published resource is. -/
theorem challenges_read (published : server.protectedResource = some metadata)
    (canonical : metadata.resourceUri = .ok uri) :
    server.challenge.bind Challenge.read =
        some (Challenge.unauthorizedParams uri.metadataUrl metadata.scopesSupported) ∧
      (server.scopeChallenge.bind Challenge.read).bind (List.lookup "resource_metadata") =
        some uri.metadataUrl := by
  constructor
  · simp [challenge,published,canonical,Except.toOption,Challenge.read_unauthorized]
  · simp only [scopeChallenge,published,canonical,Except.toOption,bind,Option.bind_some,
      Challenge.read_insufficientScope]
    rfl

end ResourceServer

end SmlMcps
