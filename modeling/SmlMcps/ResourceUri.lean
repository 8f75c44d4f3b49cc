import Mathlib.Data.List.DropRight
import SmlMcps.Auth
import SmlMcps.RequestTarget

/-! The canonical URI of a protected resource: what it is read from, where its metadata is
published, and what becomes of its text when it is read again. -/
namespace SmlMcps

namespace ResourceText

open Origin (schemeMark toAsciiLowercase stripSlash)

def cutPath (rest : List Char) : List Char × List Char :=
  match rest.idxOf? '/' with
  | some index => (rest.take index,rest.drop index)
  | none => (rest,[])

/-- The text that `ResourceUri::parse` makes. -/
def canonical (uri : String) : Except String (List Char) :=
  let uri := Http1.trim uri.toList
  let shown := String.ofList uri
  if uri.isEmpty then .error "resource URI must not be empty"
  else if uri.contains '#' then
    .error ("resource URI must not contain a fragment: " ++ shown)
  else if uri.contains '?' then
    .error ("resource URI must not contain a query string, which would leave its " ++
      "metadata document unreachable: " ++ shown)
  else match Marks.splitOnce schemeMark uri with
  | none => .error ("resource URI must include a scheme: " ++ shown)
  | some (scheme,rest) =>
    if scheme.isEmpty || !(scheme.head?.any Char.isAlpha) then
      .error ("resource URI has an invalid scheme: " ++ shown)
    else if rest.isEmpty then .error ("resource URI has no host: " ++ shown)
    else
      -- Scheme and authority are lower-cased; paths are case-sensitive.
      let (authority,path) := cutPath rest
      if authority.isEmpty then .error ("resource URI has no host: " ++ shown)
      else .ok (toAsciiLowercase scheme ++ schemeMark ++ toAsciiLowercase authority ++
        stripSlash path)

def canonicalOf (scheme authority path : List Char) : List Char :=
  toAsciiLowercase scheme ++ schemeMark ++ (toAsciiLowercase authority ++ stripSlash path)

/-- A text that the reader takes apart into these three. -/
structure Parts (text scheme authority path : List Char) : Prop where
  split : Marks.splitOnce schemeMark text = some (scheme,authority ++ path)
  letter : scheme.head?.any Char.isAlpha = true
  host : authority ≠ []
  bounded : '/' ∉ authority
  path : path = [] ∨ path.head? = some '/'
  fragment : '#' ∉ text
  query : '?' ∉ text

/-- The texts that are canonical: in parts, with scheme and authority in lower case. -/
def Canonical (text : List Char) : Prop :=
  ∃ scheme authority path, Parts text scheme authority path ∧
    toAsciiLowercase scheme = scheme ∧ toAsciiLowercase authority = authority

/-- The input does not end in a slash that has whitespace or another slash before it. -/
def SettledEnd (uri : String) : Prop :=
  ∀ front c, Http1.trim uri.toList = front ++ [c,'/'] →
    c ≠ '/' ∧ JsonRpcMessage.isWhitespace c = false

variable {uri : String} {text scheme authority path front rest : List Char} {c : Char}

/-! ## Trimming -/

theorem trim_eq (text : List Char) : Http1.trim text =
    (text.dropWhile JsonRpcMessage.isWhitespace).rdropWhile JsonRpcMessage.isWhitespace := rfl

theorem trim_last (text : List Char) :
    (Http1.trim text).getLast?.any JsonRpcMessage.isWhitespace = false := by
  by_contra white
  rw [Bool.not_eq_false] at white
  obtain ⟨c,last,white⟩ := Option.any_eq_true _ _ |>.mp white
  obtain ⟨front,trimmed⟩ := List.getLast?_eq_some_iff.mp last
  have again := List.rdropWhile_idempotent JsonRpcMessage.isWhitespace
    (text.dropWhile JsonRpcMessage.isWhitespace)
  rw [← trim_eq,trimmed,List.rdropWhile_concat_pos _ _ _ white] at again
  have shorter := (List.rdropWhile_prefix JsonRpcMessage.isWhitespace front).length_le
  rw [again] at shorter
  simp at shorter

theorem isWhitespace_letter (letter : c.isAlpha = true) :
    JsonRpcMessage.isWhitespace c = false := by
  have bounds := Origin.isAlpha_iff.mp letter
  simp only [UInt32.le_iff_toNat_le] at bounds
  have value : c.toNat = c.val.toNat := rfl
  have a : 'a'.val.toNat = 97 := rfl
  have z : 'z'.val.toNat = 122 := rfl
  have a' : 'A'.val.toNat = 65 := rfl
  have z' : 'Z'.val.toNat = 90 := rfl
  by_contra white
  simp only [JsonRpcMessage.isWhitespace,Bool.not_eq_false,Bool.or_eq_true,Bool.and_eq_true,
    decide_eq_true_eq,beq_iff_eq] at white
  omega

/-- Trimming leaves alone what begins with a letter and does not end in whitespace. -/
theorem trim_eq_self_iff (letter : text.head?.any Char.isAlpha = true) :
    Http1.trim text = text ↔ text.getLast?.any JsonRpcMessage.isWhitespace = false := by
  have begins : text.dropWhile JsonRpcMessage.isWhitespace = text := by
    cases text with
    | nil => rfl
    | cons first more =>
      have first := isWhitespace_letter (by simpa using letter : first.isAlpha = true)
      simp [first]
  have present : text ≠ [] := by
    rintro rfl
    cases letter
  rw [trim_eq,begins,List.rdropWhile_eq_self_iff,List.getLast?_eq_some_getLast present]
  simp [present]

/-! ## Parts -/

theorem cutPath_sound (rest : List Char) : (cutPath rest).1 ++ (cutPath rest).2 = rest ∧
    '/' ∉ (cutPath rest).1 ∧
    ((cutPath rest).2 = [] ∨ (cutPath rest).2.head? = some '/') := by
  rw [cutPath]
  cases found : rest.idxOf? '/' with
  | none => simpa using List.idxOf?_eq_none_iff.mp found
  | some index =>
    obtain ⟨front,after,rfl,absent,rfl⟩ := Marks.cut found
    simp [absent]

theorem cutPath_append (bounded : '/' ∉ authority) (begins : path = [] ∨ path.head? = some '/') :
    cutPath (authority ++ path) = (authority,path) := by
  rw [cutPath]
  cases path with
  | nil =>
    rw [List.append_nil,List.idxOf?_eq_none_iff.mpr bounded]
  | cons slash more =>
    obtain rfl : slash = '/' := by simpa using begins
    rw [Marks.idxOf?_first bounded]
    simp

namespace Parts

variable {scheme' authority' path' : List Char}

theorem text_eq (parts : Parts text scheme authority path) :
    text = scheme ++ schemeMark ++ (authority ++ path) := Marks.splitOnce_sound parts.split

theorem unique (parts : Parts text scheme authority path)
    (parts' : Parts text scheme' authority' path') :
    scheme = scheme' ∧ authority = authority' ∧ path = path' := by
  have same := parts.split.symm.trans parts'.split
  simp only [Option.some.injEq,Prod.mk.injEq] at same
  obtain ⟨rfl,same⟩ := same
  have cut := cutPath_append parts.bounded parts.path
  rw [same,cutPath_append parts'.bounded parts'.path,Prod.mk.injEq] at cut
  exact ⟨rfl,cut.1.symm,cut.2.symm⟩

theorem begins (parts : Parts text scheme authority path) :
    text.head?.any Char.isAlpha = true := by
  have letter := parts.letter
  rw [parts.text_eq]
  cases scheme with
  | nil => cases letter
  | cons first more => simpa using letter

end Parts

theorem canonical_eq_ok : canonical uri = .ok text ↔ ∃ scheme authority path,
    Parts (Http1.trim uri.toList) scheme authority path ∧
      text = canonicalOf scheme authority path := by
  simp only [canonical]
  generalize Http1.trim uri.toList = input
  constructor
  · intro accepted
    split at accepted
    · cases accepted
    split at accepted
    · cases accepted
    rename_i fragment
    split at accepted
    · cases accepted
    rename_i query
    cases split : Marks.splitOnce schemeMark input with
    | none => simp [split] at accepted
    | some cut =>
      obtain ⟨scheme,rest⟩ := cut
      simp only [split] at accepted
      split at accepted
      · cases accepted
      rename_i letter
      split at accepted
      · cases accepted
      split at accepted
      · cases accepted
      rename_i host
      obtain ⟨whole,bounded,begins⟩ := cutPath_sound rest
      simp only [Except.ok.injEq] at accepted
      refine ⟨scheme,(cutPath rest).1,(cutPath rest).2,⟨?_,?_,?_,bounded,begins,?_,?_⟩,?_⟩
      · rw [split,whole]
      · exact (by simpa using letter : scheme ≠ [] ∧ _).2
      · simpa using host
      · simpa using fragment
      · simpa using query
      · simp [← accepted,canonicalOf]
  · rintro ⟨scheme,authority,path,parts,rfl⟩
    have present : input ≠ [] := by
      intro empty
      have begins := parts.begins
      rw [empty] at begins
      cases begins
    have scheme' : scheme ≠ [] := by
      intro empty
      have letter := parts.letter
      rw [empty] at letter
      cases letter
    simp [present,parts.fragment,parts.query,parts.split,parts.letter,scheme',parts.host,
      cutPath_append parts.bounded parts.path,canonicalOf]

/-! ## A canonical text read again -/

theorem isWhitespace_toLower (c : Char) :
    JsonRpcMessage.isWhitespace c.toLower = JsonRpcMessage.isWhitespace c := by
  by_cases upper : c.isUpper = true
  · have letter : c.isAlpha = true := by simp [Char.isAlpha,upper]
    rw [isWhitespace_letter letter,isWhitespace_letter (by simpa using letter)]
  · rw [Char.toLower_eq_of_not_isUpper upper]

theorem schemeMark_caseless : ∀ c ∈ schemeMark, ∀ d : Char, d.toLower = c ↔ d = c := by
  intro c member d
  apply Origin.toLower_caseless
  simp only [schemeMark,List.mem_cons,List.not_mem_nil,or_false] at member
  rcases member with rfl | rfl | rfl <;> rfl

/-- The parts of a canonical text are the parts it was made of. -/
theorem Parts.canonicalOf (parts : Parts text scheme authority path) :
    Parts (canonicalOf scheme authority path) (toAsciiLowercase scheme)
      (toAsciiLowercase authority) (stripSlash path) := by
  have kept : ∀ c ∈ stripSlash path, c ∈ path := by
    intro c member
    rcases Origin.stripSlash_cases path with same | same <;> rw [same] <;> simp [member]
  have absent {c : Char} (caseless : c.isAlpha = false) (mark : c ∉ schemeMark)
      (free : c ∉ text) : c ∉ ResourceText.canonicalOf scheme authority path := by
    rw [parts.text_eq] at free
    simp only [List.mem_append,not_or] at free
    simp only [ResourceText.canonicalOf,List.mem_append,Origin.mem_toAsciiLowercase caseless,
      not_or]
    exact ⟨⟨free.1.1,mark⟩,free.2.1,fun member => free.2.2 (kept c member)⟩
  refine ⟨?_,?_,?_,?_,?_,?_,?_⟩
  · have lowered : Marks.splitOnce schemeMark (toAsciiLowercase text) = _ :=
      Marks.splitOnce_map Char.toLower schemeMark_caseless
    rw [parts.split] at lowered
    exact Marks.splitOnce_rest _ lowered
  · have letter := parts.letter
    cases scheme with
    | nil => cases letter
    | cons first more => simpa using letter
  · simpa [toAsciiLowercase] using parts.host
  · rw [Origin.mem_toAsciiLowercase rfl]
    exact parts.bounded
  · rcases parts.path with rfl | begins
    · exact .inl rfl
    · cases path with
      | nil => cases begins
      | cons slash more =>
        rcases Origin.stripSlash_cases (slash :: more) with same | same
        · exact .inr (same ▸ begins)
        · cases stripped : stripSlash (slash :: more) with
          | nil => exact .inl rfl
          | cons first rest =>
            rw [stripped,List.cons_append] at same
            simp only [List.cons.injEq] at same
            exact .inr (by simpa [← same.1] using begins)
  · exact absent rfl (by decide) parts.fragment
  · exact absent rfl (by decide) parts.query

theorem canonical_canonical (accepted : canonical uri = .ok text) : Canonical text := by
  obtain ⟨scheme,authority,path,parts,rfl⟩ := canonical_eq_ok.mp accepted
  exact ⟨_,_,_,parts.canonicalOf,Origin.toAsciiLowercase_idem _,Origin.toAsciiLowercase_idem _⟩

theorem canonical_length (accepted : canonical uri = .ok text) :
    text.length ≤ (Http1.trim uri.toList).length := by
  obtain ⟨scheme,authority,path,parts,rfl⟩ := canonical_eq_ok.mp accepted
  have shorter : (stripSlash path).length ≤ path.length := by
    rcases Origin.stripSlash_cases path with same | same
    · rw [← same]
    · conv_rhs => rw [same]
      simp
  simp only [parts.text_eq,canonicalOf,toAsciiLowercase,List.length_append,List.length_map]
  omega

/-- A text in parts is read as itself when nothing of it is trimmed and no slash is left to
strip. -/
theorem reread_iff (parts : Parts text scheme authority path) :
    canonical (String.ofList (canonicalOf scheme authority path)) =
        .ok (canonicalOf scheme authority path) ↔
      (canonicalOf scheme authority path).getLast?.any JsonRpcMessage.isWhitespace = false ∧
        stripSlash (stripSlash path) = stripSlash path := by
  have again := parts.canonicalOf
  have trims := trim_eq_self_iff again.begins
  constructor
  · intro reread
    have length := canonical_length reread
    rw [String.toList_ofList] at length
    -- What is read is no longer than what trimming leaves.
    have whole : Http1.trim (canonicalOf scheme authority path) =
        canonicalOf scheme authority path := by
      apply List.Sublist.eq_of_length_le _ length
      rw [trim_eq]
      exact (List.rdropWhile_prefix _ _).sublist.trans (List.dropWhile_sublist _)
    refine ⟨trims.mp whole,?_⟩
    obtain ⟨scheme',authority',path',parts',same⟩ := canonical_eq_ok.mp reread
    rw [String.toList_ofList,whole] at parts'
    obtain ⟨rfl,rfl,rfl⟩ := again.unique parts'
    simpa [canonicalOf] using same.symm
  · rintro ⟨plain,stripped⟩
    have trimmed := trims.mpr plain
    rw [← String.toList_ofList (l := canonicalOf scheme authority path)] at trimmed
    refine canonical_eq_ok.mpr ⟨toAsciiLowercase scheme,toAsciiLowercase authority,
      stripSlash path,?_,?_⟩
    · rw [trimmed,String.toList_ofList]
      exact again
    · simp [canonicalOf,stripped]

theorem getLast?_lowered (text : List Char) :
    (toAsciiLowercase text).getLast?.any JsonRpcMessage.isWhitespace =
      text.getLast?.any JsonRpcMessage.isWhitespace := by
  rw [toAsciiLowercase,List.getLast?_map]
  cases text.getLast? with
  | none => rfl
  | some c => exact isWhitespace_toLower c

/-- The end of the text that is made: that of the path or, without one, of the host. -/
theorem canonicalOf_last (host : authority ≠ []) :
    (canonicalOf scheme authority path).getLast?.any JsonRpcMessage.isWhitespace =
      (authority ++ stripSlash path).getLast?.any JsonRpcMessage.isWhitespace := by
  have present : toAsciiLowercase authority ++ stripSlash path ≠ [] := by
    simp [toAsciiLowercase,host]
  rw [canonicalOf,List.getLast?_append_of_ne_nil _ present]
  by_cases empty : stripSlash path = []
  · rw [empty,List.append_nil,List.append_nil,getLast?_lowered]
  · rw [List.getLast?_append_of_ne_nil _ empty,List.getLast?_append_of_ne_nil _ empty]

theorem stripSlash_eq_self : stripSlash path = path ↔ path.getLast? ≠ some '/' := by
  constructor
  · intro same last
    obtain ⟨front,rfl⟩ := List.getLast?_eq_some_iff.mp last
    rw [Origin.stripSlash_concat] at same
    simpa using congrArg List.length same
  · intro other
    rw [stripSlash,if_neg other]

theorem getLast?_slash (bounded : '/' ∉ authority) :
    (authority ++ path).getLast? = some '/' ↔ path.getLast? = some '/' := by
  by_cases empty : path = []
  · rw [empty,List.append_nil]
    refine ⟨fun last => absurd (List.mem_of_getLast? last) bounded,fun last => ?_⟩
    cases last
  · rw [List.getLast?_append_of_ne_nil _ empty]

/-- The two conditions on the parts are one on how the input ends. -/
theorem settledEnd_iff (parts : Parts (Http1.trim uri.toList) scheme authority path) :
    SettledEnd uri ↔
      (canonicalOf scheme authority path).getLast?.any JsonRpcMessage.isWhitespace = false ∧
        stripSlash (stripSlash path) = stripSlash path := by
  have whole := parts.text_eq
  have host : authority ≠ [] := parts.host
  rw [canonicalOf_last host]
  rcases Origin.stripSlash_cases path with same | same
  · -- No slash is stripped, so the input does not end in one.
    have plain := trim_last uri.toList
    rw [whole,List.getLast?_append_of_ne_nil _ (by simp [host])] at plain
    rw [← same]
    refine ⟨fun _ => ⟨plain,same.symm⟩,fun _ front c ends => ?_⟩
    have last : (authority ++ path).getLast? = some '/' := by
      rw [← List.getLast?_append_of_ne_nil (scheme ++ schemeMark) (by simp [host]),← whole,ends]
      simp
    exact absurd ((getLast?_slash parts.bounded).mp last) (stripSlash_eq_self.mp same.symm)
  · generalize stripSlash path = shorter at same
    have slash : stripSlash shorter = shorter ↔ (authority ++ shorter).getLast? ≠ some '/' := by
      rw [stripSlash_eq_self,ne_eq,ne_eq,getLast?_slash parts.bounded]
    rw [slash]
    obtain ⟨front,d,ends⟩ := List.eq_nil_or_concat (authority ++ shorter) |>.resolve_left
      (by simp [host])
    have before : Http1.trim uri.toList = scheme ++ schemeMark ++ front ++ [d,'/'] := by
      rw [whole,same,← List.append_assoc authority,ends]
      simp
    rw [ends]
    simp only [SettledEnd,before]
    constructor
    · intro settled
      obtain ⟨slash,plain⟩ := settled _ _ rfl
      simpa using ⟨plain,slash⟩
    · intro plain other c same
      obtain ⟨-,same⟩ := List.append_inj' same rfl
      obtain rfl : d = c := by simpa using same
      simpa [and_comm] using plain

/-- The canonical text is read as itself exactly when the input's end is settled. -/
theorem reread_iff_settledEnd (accepted : canonical uri = .ok text) :
    canonical (String.ofList text) = .ok text ↔ SettledEnd uri := by
  obtain ⟨scheme,authority,path,parts,rfl⟩ := canonical_eq_ok.mp accepted
  rw [reread_iff parts,settledEnd_iff parts]

end ResourceText

/-- A canonical URI identifying this server. -/
structure ResourceUri where
  chars : List Char
  canonical : ResourceText.Canonical chars
  deriving DecidableEq

namespace ResourceUri

open ResourceText

def parse (uri : String) : Except String ResourceUri :=
  match accepted : ResourceText.canonical uri with
  | .error problem => .error problem
  | .ok text => .ok ⟨text,canonical_canonical accepted⟩

def asStr (uri : ResourceUri) : String := String.ofList uri.chars

def afterScheme (uri : ResourceUri) : Nat :=
  match Marks.splitOnce Origin.schemeMark uri.chars with
  | some (scheme,_) => scheme.length + 3
  | none => 0

def origin (uri : ResourceUri) : List Char :=
  match (uri.chars.drop uri.afterScheme).idxOf? '/' with
  | some index => uri.chars.take (uri.afterScheme + index)
  | none => uri.chars

def path (uri : ResourceUri) : List Char :=
  match (uri.chars.drop uri.afterScheme).idxOf? '/' with
  | some index => uri.chars.drop (uri.afterScheme + index)
  | none => []

def wellKnown : List Char := "/.well-known/oauth-protected-resource".toList

/-- The URL where this resource's metadata lives: the path comes after the well-known
segment. -/
def metadataUrl (uri : ResourceUri) : String :=
  String.ofList (uri.origin ++ wellKnown ++ uri.path)

def metadataPath (uri : ResourceUri) : String := String.ofList (wellKnown ++ uri.path)

variable {uri again : ResourceUri} {text : String}

theorem parse_eq_ok : parse text = .ok uri ↔ ResourceText.canonical text = .ok uri.chars := by
  unfold parse
  split
  · rename_i problem refused
    simp [refused]
  · rename_i chars accepted
    cases uri
    simp [accepted]

theorem origin_append_path (uri : ResourceUri) : uri.origin ++ uri.path = uri.chars := by
  unfold origin path
  split <;> simp

/-- The metadata path has no query and no fragment, so a request can have it. -/
theorem pathOf_metadataPath (uri : ResourceUri) :
    pathOf uri.metadataPath.toList = uri.metadataPath.toList := by
  obtain ⟨scheme,authority,path,parts,-,-⟩ := uri.canonical
  have inside : ∀ c ∈ uri.path, c ∈ uri.chars := by
    intro c member
    rw [← uri.origin_append_path]
    exact List.mem_append_right _ member
  have free (c : Char) (segment : c ∉ wellKnown) (absent : c ∉ uri.chars) :
      c ∉ uri.metadataPath.toList := by
    rw [metadataPath,String.toList_ofList,List.mem_append,not_or]
    exact ⟨segment,fun member => absent (inside c member)⟩
  have begins : uri.metadataPath.toList.head? = some '/' := by
    rw [metadataPath,String.toList_ofList]
    rfl
  have nothing : Target.Behind [] := by simp [Target.Behind]
  have plain := Target.pathOf_origin begins (free '?' (by decide) parts.query)
    (free '#' (by decide) parts.fragment) nothing
  rwa [List.append_nil] at plain

end ResourceUri

structure ProtectedResourceMetadata where
  resource : String
  authorizationServers : List String
  scopesSupported : List String := []
  bearerMethodsSupported : List String := []
  resourceName : Option String := none
  resourceDocumentation : Option String := none

namespace ProtectedResourceMetadata

/-- Tokens are presented in the header and nowhere else. -/
def new (resource : ResourceUri) (authorizationServers : List String) :
    ProtectedResourceMetadata where
  resource := resource.asStr
  authorizationServers := authorizationServers
  bearerMethodsSupported := ["header"]

def withScopes (metadata : ProtectedResourceMetadata) (scopes : List String) :
    ProtectedResourceMetadata := { metadata with scopesSupported := scopes }

def withResourceName (metadata : ProtectedResourceMetadata) (name : String) :
    ProtectedResourceMetadata := { metadata with resourceName := some name }

def withDocumentation (metadata : ProtectedResourceMetadata) (url : String) :
    ProtectedResourceMetadata := { metadata with resourceDocumentation := some url }

/-- The canonical resource URI, re-parsed. -/
def resourceUri (metadata : ProtectedResourceMetadata) : Except String ResourceUri :=
  ResourceUri.parse metadata.resource

/-- Empty lists are left out, but for the servers. -/
def members (metadata : ProtectedResourceMetadata) : List (String × Option Json) :=
  let strings (items : List String) : Json := .arr (items.map .str)
  let unlessEmpty (items : List String) : Option Json :=
    if items.isEmpty then none else some (strings items)
  [("resource",some (.str metadata.resource)),
    ("authorization_servers",some (strings metadata.authorizationServers)),
    ("scopes_supported",unlessEmpty metadata.scopesSupported),
    ("bearer_methods_supported",unlessEmpty metadata.bearerMethodsSupported),
    ("resource_name",metadata.resourceName.map .str),
    ("resource_documentation",metadata.resourceDocumentation.map .str)]

/-- What the server publishes: where, and the document. -/
def published (print : Json → String) (metadata : ProtectedResourceMetadata) :
    PublishedMetadata where
  metadataPath := metadata.resourceUri.toOption.map ResourceUri.metadataPath
  document := some (print (.obj (JsonMap.ofMembers metadata.members)))

end ProtectedResourceMetadata

/-- Bind this validator to the server's canonical resource URI. -/
def JwtValidator.forResource (validator : JwtValidator) (resource : ResourceUri) :
    JwtValidator := { validator with audiences := validator.audiences ++ [resource.asStr] }

namespace ResourceUri

variable {uri : ResourceUri} {text : String}

/-- The canonical text stands for the value: it is read as that value, metadata with it is
published where the value says, and it is what a bound validator wants to be named. -/
structure ReadsBack (uri : ResourceUri) : Prop where
  again : parse uri.asStr = .ok uri
  metadata : ∀ metadata : ProtectedResourceMetadata, metadata.resource = uri.asStr →
    ∃ again, metadata.resourceUri = .ok again ∧ again.metadataUrl = uri.metadataUrl ∧
      again.metadataPath = uri.metadataPath
  audience : ∀ (metadata : ProtectedResourceMetadata) (validator : JwtValidator),
    metadata.resource = uri.asStr →
      (validator.forResource uri).audiences = validator.audiences ++ [metadata.resource]

/-- An accepted text gives a value that reads back exactly when the text does not end in a
slash with whitespace or another slash before it. -/
theorem readsBack_iff (accepted : parse text = .ok uri) :
    ReadsBack uri ↔ ResourceText.SettledEnd text := by
  rw [← ResourceText.reread_iff_settledEnd (parse_eq_ok.mp accepted)]
  constructor
  · intro back
    exact parse_eq_ok.mp back.again
  · intro reread
    have again : parse uri.asStr = .ok uri := parse_eq_ok.mpr reread
    refine ⟨again,fun metadata same => ⟨uri,?_,rfl,rfl⟩,fun metadata validator same => ?_⟩
    · rw [ProtectedResourceMetadata.resourceUri,same,again]
    · rw [same]
      rfl

def resourceExample : ResourceUri := ⟨"https://mcp.example.com/mcp".toList,
  @ResourceText.canonical_canonical "HTTPS://MCP.Example.COM/mcp/" _ rfl⟩

theorem readsBack_iff_example : parse "HTTPS://MCP.Example.COM/mcp/" = .ok resourceExample ∧
    (ReadsBack resourceExample ↔
      ResourceText.SettledEnd "HTTPS://MCP.Example.COM/mcp/") :=
  ⟨parse_eq_ok.mpr rfl,readsBack_iff (parse_eq_ok.mpr rfl)⟩

/-- What `https://mcp.example.com/mcp//` is read as. -/
def doubleSlash : ResourceUri := ⟨"https://mcp.example.com/mcp/".toList,
  @ResourceText.canonical_canonical "https://mcp.example.com/mcp//" _ rfl⟩

/-- One slash of two is stripped, and the other one when the text is read again: the
metadata is then published elsewhere. -/
theorem doubleSlash_not_readsBack :
    parse "https://mcp.example.com/mcp//" = .ok doubleSlash ∧
      parse doubleSlash.asStr = .ok resourceExample ∧
      resourceExample.metadataPath ≠ doubleSlash.metadataPath ∧
      resourceExample.metadataUrl ≠ doubleSlash.metadataUrl ∧ ¬ ReadsBack doubleSlash := by
  have again : parse doubleSlash.asStr = .ok resourceExample := parse_eq_ok.mpr rfl
  refine ⟨parse_eq_ok.mpr rfl,again,by decide,by decide,fun back => ?_⟩
  rw [back.again,Except.ok.injEq] at again
  exact absurd again (by decide)

end ResourceUri

end SmlMcps
