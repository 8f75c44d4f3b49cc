import SmlMcps.HttpAnswers
import SmlMcps.Origin
import SmlMcps.Server

/-! The path of a request target, and what is decided from it before a request is read:
whether it asks for the published metadata and whether it is for the endpoint. -/
namespace SmlMcps

/-- The path of a request target, without its authority, query string or fragment. -/
def pathOf (target : List Char) : List Char :=
  let path :=
    -- Only what does not begin with the path can carry an authority.
    if target.head? = some '/' then target
    else
      match Marks.splitOnce Origin.schemeMark target with
      | some (_,authorityAndPath) =>
        match authorityAndPath.idxOf? '/' with
        | some start => authorityAndPath.drop start
        | none => ['/']
      | none => target
  path.takeWhile fun c => c != '?' && c != '#'

/-! ## What is decided from it -/

def assumedProtocolVersion : String := "2025-03-26"

/-- Protected resource metadata: the path it is served at, if its resource is a URI, and
the document, if it can be written. -/
structure PublishedMetadata where
  metadataPath : Option String
  document : Option String

structure HttpEntry where
  endpoint : String
  supportedVersions : List String
  originPolicy : OriginPolicy
  protectedResource : Option PublishedMetadata

namespace HttpEntry

section
variable (print : Json → String)

def methodNotAllowed (allow : String) : Http1.Response :=
  (errorResponse print 405 (-32600) "Method Not Allowed").withHeader "Allow" allow

def protectedResourceResponse (entry : HttpEntry) (request : Http1.Head) :
    Option Http1.Response := do
  let metadata ← entry.protectedResource
  let path ← metadata.metadataPath
  if pathOf request.target.toList ≠ path.toList then none
  else if request.method ≠ .get ∧ request.method ≠ .head then
    some (methodNotAllowed print "GET, HEAD")
  else
    let body ← metadata.document
    some (bodyResponse "application/json" body)

/-- The checks every request must pass; an answer is a rejection, or the metadata. -/
def precheck (entry : HttpEntry) (request : Http1.Head) : Option Http1.Response :=
  match entry.protectedResourceResponse print request with
  | some response => some response
  | none =>
    if pathOf request.target.toList ≠ entry.endpoint.toList then
      some (errorResponse print 404 (-32600) "Not Found")
    else if request.method ≠ .post ∧ request.method ≠ .delete then
      some (methodNotAllowed print "POST, DELETE")
    else
      let version := (Http1.headerOf request.headers "MCP-Protocol-Version").getD
        assumedProtocolVersion
      if !entry.supportedVersions.any (· == version) then
        some (errorResponse print 400 (-32600) ("Unsupported MCP-Protocol-Version `" ++
          version ++ "`; this server supports: " ++ ", ".intercalate entry.supportedVersions))
      else
        match Http1.headerOf request.headers "Origin" with
        | some origin =>
          if !entry.originPolicy.isAllowed origin then
            some (errorResponse print 403 (-32600) ("Forbidden: disallowed Origin `" ++
              origin ++ "`"))
          else none
        | none => none

end

end HttpEntry

/-! ## Targets -/

namespace Target

def Behind (after : List Char) : Prop := ∀ c ∈ after.head?, c = '?' ∨ c = '#'

/-- `target` is in origin form or in absolute form; `path` is its path, which in absolute
form may be missing, and `after` is all that follows it. -/
inductive Written : (target path after : List Char) → Prop where
  | origin {path after : List Char} : path.head? = some '/' → '?' ∉ path → '#' ∉ path →
      Behind after → Written (path ++ after) path after
  | absolute {scheme authority path after : List Char} : Origin.IsScheme scheme →
      '/' ∉ authority → '?' ∉ authority → '#' ∉ authority →
      (path = [] ∨ path.head? = some '/') → '?' ∉ path → '#' ∉ path → Behind after →
      Written (scheme ++ Origin.schemeMark ++ authority ++ path ++ after) path after

def component (path : List Char) : List Char := if path = [] then ['/'] else path

/-- No path could be mistaken in what follows the authority: there is no slash, or the
first one is alone before the next delimiter. -/
def NoPath (after : List Char) : Prop :=
  '/' ∉ after ∨ ∃ before rest, after = before ++ '/' :: rest ∧ '/' ∉ before ∧ Behind rest

variable {target path after rest : List Char}

theorem takeWhile_path (question : '?' ∉ path) (hash : '#' ∉ path) (behind : Behind after) :
    (path ++ after).takeWhile (fun c => c != '?' && c != '#') = path := by
  have inside : ∀ c ∈ path, (c != '?' && c != '#') = true := by
    intro c member
    simp only [Bool.and_eq_true,bne_iff_ne,ne_eq]
    exact ⟨fun same => question (same ▸ member),fun same => hash (same ▸ member)⟩
  have stops : after.takeWhile (fun c => c != '?' && c != '#') = [] := by
    cases after with
    | nil => rfl
    | cons c more =>
      rcases behind c rfl with rfl | rfl
      · rfl
      · rfl
  rw [List.takeWhile_append_of_pos inside,stops,List.append_nil]

theorem takeWhile_nil_iff :
    rest.takeWhile (fun c => c != '?' && c != '#') = [] ↔ Behind rest := by
  cases rest with
  | nil => simp [Behind]
  | cons c more =>
    by_cases question : c = '?'
    · simp [Behind,question]
    · by_cases hash : c = '#'
      · simp [Behind,hash]
      · simp [Behind,question,hash]

theorem pathOf_origin (begins : path.head? = some '/') (question : '?' ∉ path)
    (hash : '#' ∉ path) (behind : Behind after) : pathOf (path ++ after) = path := by
  have slash : (path ++ after).head? = some '/' := by simp [begins]
  simp only [pathOf,slash]
  exact takeWhile_path question hash behind

theorem pathOf_component (begins : path = [] ∨ path.head? = some '/') (question : '?' ∉ path)
    (hash : '#' ∉ path) : pathOf (component path) = component path := by
  rcases begins with rfl | begins
  · rfl
  · have present : path ≠ [] := by
      rintro rfl
      cases begins
    have alone := @pathOf_origin path [] begins question hash (by simp [Behind])
    rw [component,if_neg present]
    simpa using alone

section
variable {scheme authority : List Char}

theorem pathOf_absolute (letters : Origin.IsScheme scheme) :
    pathOf (scheme ++ Origin.schemeMark ++ rest) =
      (match rest.idxOf? '/' with
        | some start => rest.drop start
        | none => ['/']).takeWhile fun c => c != '?' && c != '#' := by
  have split := @Origin.splitOnce_scheme scheme rest letters
  have other : (scheme ++ Origin.schemeMark ++ rest).head? ≠ some '/' := by
    obtain ⟨first,more,rfl,letter,-⟩ := letters
    intro same
    simp only [List.cons_append,List.head?_cons,Option.some.injEq] at same
    rw [same] at letter
    exact absurd letter (by decide)
  simp only [pathOf,if_neg other,split]

theorem pathOf_given (letters : Origin.IsScheme scheme) (slash : '/' ∉ authority)
    (begins : path.head? = some '/') (question : '?' ∉ path) (hash : '#' ∉ path)
    (behind : Behind after) :
    pathOf (scheme ++ Origin.schemeMark ++ authority ++ path ++ after) = path := by
  cases path with
  | nil => cases begins
  | cons first segments =>
    simp only [List.head?_cons,Option.some.injEq] at begins
    subst begins
    have found := @Marks.idxOf?_first _ _ _ (segments ++ after) _ _ slash
    rw [List.append_assoc,List.append_assoc _ authority,pathOf_absolute letters]
    simp only [List.cons_append,found,List.drop_left]
    exact takeWhile_path question hash behind

theorem pathOf_missing_iff (letters : Origin.IsScheme scheme) (slash : '/' ∉ authority) :
    pathOf (scheme ++ Origin.schemeMark ++ authority ++ after) = ['/'] ↔ NoPath after := by
  rw [List.append_assoc _ authority,pathOf_absolute letters]
  by_cases later : '/' ∈ after
  · obtain ⟨before,rest,rfl,absent⟩ := List.eq_append_cons_of_mem later
    have absent' : '/' ∉ authority ++ before := by simp [slash,absent]
    have found := @Marks.idxOf?_first _ _ _ rest _ _ absent'
    have first : NoPath (before ++ '/' :: rest) ↔ Behind rest := by
      refine ⟨fun clear => ?_,fun behind => .inr ⟨before,rest,rfl,absent,behind⟩⟩
      rcases clear with nothing | ⟨before',rest',same,absent',behind⟩
      · exact absurd later nothing
      · rwa [(Marks.unique absent absent' same).2]
    rw [first,← takeWhile_nil_iff,← List.append_assoc]
    simp only [found,List.drop_left]
    simp
  · have nowhere : (authority ++ after).idxOf? '/' = none := by
      simp [List.idxOf?_eq_none_iff,slash,later]
    simp only [nowhere]
    exact iff_of_true rfl (.inl later)

end

/-- The path that a target names is found if it has one, and otherwise if nothing behind
the authority looks like one. -/
theorem pathOf_eq_iff (written : Written target path after) :
    pathOf target = component path ↔ path ≠ [] ∨ NoPath after := by
  cases written with
  | origin begins question hash behind =>
    have present : path ≠ [] := by
      rintro rfl
      cases begins
    rw [pathOf_origin begins question hash behind,component,if_neg present]
    exact iff_of_true rfl (.inl present)
  | absolute letters slash _ _ begins question hash behind =>
    rcases begins with rfl | begins
    · rw [List.append_nil,component,if_pos rfl,pathOf_missing_iff letters slash]
      simp
    · have present : path ≠ [] := by
        rintro rfl
        cases begins
      rw [pathOf_given letters slash begins question hash behind,component,if_neg present]
      exact iff_of_true rfl (.inl present)

theorem Written.component (written : Written target path after) :
    pathOf (component path) = component path := by
  cases written with
  | origin begins question hash => exact pathOf_component (.inr begins) question hash
  | absolute _ _ _ _ begins question hash => exact pathOf_component begins question hash

end Target

theorem HttpEntry.precheck_target (entry : HttpEntry) (print : Json → String)
    (request : Http1.Head) {first second : List Char} (same : pathOf first = pathOf second) :
    entry.precheck print { request with target := String.ofList first } =
      entry.precheck print { request with target := String.ofList second } := by
  simp only [precheck,protectedResourceResponse,String.toList_ofList,same]

open Target

/-- A target is read as its path component, and routed as that path alone would be, exactly
when it has a path or nothing behind its authority looks like one. -/
theorem path_of_iff {target path after : List Char} (written : Written target path after) :
    (pathOf target = component path ∧
      ∀ (print : Json → String) (entry : HttpEntry) (request : Http1.Head),
        entry.precheck print { request with target := String.ofList target } =
          entry.precheck print { request with target := String.ofList (component path) }) ↔
      path ≠ [] ∨ NoPath after := by
  rw [← pathOf_eq_iff written]
  refine ⟨fun read => read.1,fun read => ⟨read,fun print entry request => ?_⟩⟩
  apply entry.precheck_target
  rw [read,written.component]

theorem path_of_iff_redirect :
    (pathOf "http://host/mcp?next=/x".toList = component "/mcp".toList ∧
      ∀ (print : Json → String) (entry : HttpEntry) (request : Http1.Head),
        entry.precheck print
            { request with target := String.ofList "http://host/mcp?next=/x".toList } =
          entry.precheck print
            { request with target := String.ofList (component "/mcp".toList) }) ↔
      "/mcp".toList ≠ [] ∨ NoPath "?next=/x".toList :=
  @path_of_iff "http://host/mcp?next=/x".toList "/mcp".toList "?next=/x".toList
    (@Written.absolute "http".toList "host".toList "/mcp".toList "?next=/x".toList
      ⟨'h',"ttp".toList,rfl,by decide,by decide⟩ (by decide) (by decide) (by decide)
      (.inr rfl) (by decide) (by decide) (by simp [Behind]))

/-- Without a path, the query's own slash begins one: the target is for `/` and is let in at
`/mcp`. -/
theorem query_taken_for_path :
    Written "http://host?next=/mcp".toList [] "?next=/mcp".toList ∧
      pathOf "http://host?next=/mcp".toList = "/mcp".toList ∧
      component [] = ['/'] ∧
      HttpEntry.precheck (fun _ => "") ⟨"/mcp",["2025-03-26"],.loopback,none⟩
        ⟨.post,"http://host?next=/mcp",.http11,[],.empty,false,false⟩ = none ∧
      HttpEntry.precheck (fun _ => "") ⟨"/mcp",["2025-03-26"],.loopback,none⟩
        ⟨.post,"/",.http11,[],.empty,false,false⟩ =
          some (errorResponse (fun _ => "") 404 (-32600) "Not Found") := by
  refine ⟨?_,by decide,rfl,by decide,by decide⟩
  exact @Written.absolute "http".toList "host".toList [] "?next=/mcp".toList
    ⟨'h',"ttp".toList,rfl,by decide,by decide⟩ (by decide) (by decide) (by decide)
    (.inl rfl) (by decide) (by decide) (by simp [Behind])

end SmlMcps
