import SmlMcps.Origin

/-! Which texts the loopback policy lets through: origins of the grammar with a loopback
host, and hosts whose brackets the two splits read differently. -/
namespace SmlMcps
namespace Origin

open IpText

/-! ## Loopback origins -/

def LocalhostName (name : List Char) : Prop :=
  name = "localhost".toList ∨ ".localhost".toList <:+ name

/-- The characters that delimit the parts of a URI. -/
def delimiters : List Char := [':','/','?','#','[',']','@']

/-- A host, in lower case, that means the loopback interface. -/
inductive LoopbackHost : List Char → Prop where
  | name {host : List Char} :
      (∀ c ∈ delimiters, c ∉ host) → LocalhostName host → LoopbackHost host
  | quad {host : List Char} {octets : List Nat} :
      DottedQuad host octets → octets.head? = some 127 → LoopbackHost host
  | literal {inner : List Char} :
      Literal6 inner [0,0,0,0,0,0,0,1] → LoopbackHost ('[' :: (inner ++ [']']))

/-- The text without the whitespace around it and at most one trailing slash. -/
def trimmed (origin : String) : List Char := stripSlash (Http1.trim origin.toList)

/-- `scheme "://" host [":" port]` with a loopback host, and nothing else. -/
def LoopbackOrigin (origin : String) : Prop :=
  ∃ scheme host port, Serialized (trimmed origin) scheme host port ∧
    LoopbackHost (toAsciiLowercase host)

/-- Hosts with brackets that are not the two around an IPv6 literal. -/
inductive Misbracketed : List Char → Prop where
  /-- A localhost name with an opening bracket inside. -/
  | opened {host : List Char} :
      host.head? ≠ some '[' → '[' ∈ host → (∀ c ∈ beyondHost, c ∉ host) →
      ':' ∉ host → ']' ∉ host → LocalhostName (toAsciiLowercase host) → Misbracketed host
  /-- A loopback name or dotted quad in brackets. -/
  | enclosed {inner : List Char} :
      ']' ∉ inner → (∀ c ∈ beyondHost, c ∉ inner) →
      isLoopbackHost (toAsciiLowercase inner) = true →
      LocalhostName (toAsciiLowercase inner) ∨ ':' ∉ inner →
      Misbracketed ('[' :: (inner ++ [']']))
  /-- A loopback host in brackets and, behind them, text that ends in another bracket. -/
  | followed {inner junk : List Char} :
      ']' ∉ inner → (∀ c ∈ beyondHost, c ∉ inner ∧ c ∉ junk) →
      isLoopbackHost (toAsciiLowercase inner) = true →
      Misbracketed ('[' :: (inner ++ ']' :: (junk ++ [']'])))

/-- The origins that are let through although they are none. -/
def MisbracketedOrigin (origin : String) : Prop :=
  ∃ scheme host port, Serialized (trimmed origin) scheme host port ∧ Misbracketed host

variable {text scheme host port inner behind : List Char}

/-! ## The second split -/

theorem splitOnce_lowered (letters : IsScheme scheme) :
    Marks.splitOnce schemeMark (toAsciiLowercase scheme ++ schemeMark ++ host ++ port) =
      some (toAsciiLowercase scheme,host ++ port) := by
  have absent : ':' ∉ toAsciiLowercase scheme :=
    fun member => letters.noColon ((mem_toAsciiLowercase rfl).mp member)
  rw [List.append_assoc _ host]
  exact Marks.splitOnce_first absent

/-- In brackets, the host ends at the first closing one. -/
theorem hostOf_bracketed (letters : IsScheme scheme) (absent : ']' ∉ inner) :
    hostOf (toAsciiLowercase scheme ++ schemeMark ++
      toAsciiLowercase ('[' :: (inner ++ ']' :: behind)) ++ port) =
        some (toAsciiLowercase inner) := by
  have absent : ']' ∉ '[' :: toAsciiLowercase inner := by
    simp [mem_toAsciiLowercase,absent]
  have found := @Marks.idxOf?_first _ _ _ (toAsciiLowercase behind ++ port) _ _ absent
  have shape : toAsciiLowercase ('[' :: (inner ++ ']' :: behind)) ++ port =
      ('[' :: toAsciiLowercase inner) ++ ']' :: (toAsciiLowercase behind ++ port) := by
    simp [show '['.toLower = '[' from rfl,show ']'.toLower = ']' from rfl]
  rw [hostOf,splitOnce_lowered letters,shape]
  simp only [found]
  simp

/-- Elsewhere it ends where the port begins. -/
theorem hostOf_plain (letters : IsScheme scheme) (numeric : PortText port) (colon : ':' ∉ host)
    (opened : host.head? ≠ some '[') (present : host ≠ []) :
    hostOf (toAsciiLowercase scheme ++ schemeMark ++ toAsciiLowercase host ++ port) =
      some (toAsciiLowercase host) := by
  have colon : ':' ∉ toAsciiLowercase host := by
    rwa [mem_toAsciiLowercase rfl]
  have opened : ((toAsciiLowercase host ++ port).head? == some '[') = false := by
    cases host with
    | nil => exact absurd rfl present
    | cons first more =>
      have other : first ≠ '[' := by simpa using opened
      have lowered : first.toLower ≠ '[' := fun same =>
        other ((toLower_caseless rfl).mp same)
      simpa using lowered
  obtain ⟨given,rfl⟩ := numeric.eq_portText
  rw [hostOf,splitOnce_lowered letters]
  simp only [opened]
  cases given with
  | none => simp [portText,Marks.splitOnce_eq_none.mpr colon]
  | some digits =>
    have found : Marks.splitOnce [':'] (toAsciiLowercase host ++ ':' :: digits) =
        some (toAsciiLowercase host,digits) := by
      simpa using @Marks.splitOnce_first _ _ digits _ _ ':' [] colon
    simp [portText,found]

theorem hostOf_unclosed (letters : IsScheme scheme) (numeric : PortText port)
    (closed : ']' ∉ host) (opened : host.head? = some '[') :
    hostOf (toAsciiLowercase scheme ++ schemeMark ++ toAsciiLowercase host ++ port) = none := by
  have nowhere : ']' ∉ toAsciiLowercase host ++ port := by
    simp [mem_toAsciiLowercase,closed,numeric.noBracket.2]
  cases host with
  | nil => cases opened
  | cons first more =>
    simp only [List.head?_cons,Option.some.injEq] at opened
    subst opened
    rw [hostOf,splitOnce_lowered letters]
    simp only [toAsciiLowercase_cons,show '['.toLower = '[' from rfl] at nowhere ⊢
    simpa [List.idxOf?_eq_none_iff] using nowhere

/-! ## Accepted texts -/

theorem isLoopbackHost_sound (loopback : isLoopbackHost host = true) :
    LocalhostName host ∨ (∃ octets, DottedQuad host octets ∧ octets.head? = some 127) ∨
      Literal6 host [0,0,0,0,0,0,0,1] := by
  unfold isLoopbackHost at loopback
  split at loopback
  · rename_i named
    simp only [Bool.or_eq_true,beq_iff_eq,List.isSuffixOf_iff_suffix] at named
    exact .inl named
  split at loopback
  · rename_i addr parsed
    rcases parseIpAddr_sound parsed with ⟨octets,rfl,quad⟩ | ⟨groups,rfl,literal⟩
    · exact .inr (.inl ⟨octets,quad,by simpa [IpAddr.isLoopback] using loopback⟩)
    · have same : groups = [0,0,0,0,0,0,0,1] := by simpa [IpAddr.isLoopback] using loopback
      exact .inr (.inr (same ▸ literal))
  · cases loopback

theorem isLoopbackHost_name (named : LocalhostName host) : isLoopbackHost host = true := by
  have : (host == "localhost".toList || ".localhost".toList.isSuffixOf host) = true := by
    simpa [LocalhostName] using named
  rw [isLoopbackHost,if_pos this]

theorem isAllowed_iff {origin : String} : OriginPolicy.loopback.isAllowed origin = true ↔
    ∃ scheme host port, Serialized (trimmed origin) scheme host port ∧ SplitHost host ∧
      (hostOf (toAsciiLowercase scheme ++ schemeMark ++ toAsciiLowercase host ++ port)).any
        isLoopbackHost = true := by
  constructor
  · intro allowed
    cases accepted : normalizeOrigin origin.toList with
    | none => simp [OriginPolicy.isAllowed,accepted] at allowed
    | some normalized =>
      obtain ⟨scheme,host,port,shape,shaped,rfl⟩ := normalizeOrigin_iff.mp accepted
      refine ⟨scheme,host,port,shape,shaped,?_⟩
      simpa [OriginPolicy.isAllowed,accepted] using allowed
  · rintro ⟨scheme,host,port,shape,shaped,loopback⟩
    have accepted := normalizeOrigin_iff.mpr ⟨scheme,host,port,shape,shaped,rfl⟩
    simpa [OriginPolicy.isAllowed,accepted] using loopback

theorem LocalhostName.plain {name : List Char} (named : LocalhostName name) : 'l' ∈ name := by
  rcases named with rfl | ⟨front,rfl⟩
  · decide
  · exact List.mem_append_right front (by simp)

/-- What is accepted is a loopback origin or misbracketed. -/
theorem accepted_cases {origin : String}
    (allowed : OriginPolicy.loopback.isAllowed origin = true) :
    LoopbackOrigin origin ∨ MisbracketedOrigin origin := by
  obtain ⟨scheme,host,port,shape,shaped,loopback⟩ := isAllowed_iff.mp allowed
  cases shaped with
  | plain present inside colon closed =>
    by_cases opened : host.head? = some '['
    · rw [hostOf_unclosed shape.scheme shape.port closed opened] at loopback
      cases loopback
    rw [hostOf_plain shape.scheme shape.port colon opened present,Option.any_some] at loopback
    rcases isLoopbackHost_sound loopback with named | ⟨octets,quad,first⟩ | literal
    · by_cases bracket : '[' ∈ host
      · exact .inr ⟨scheme,host,port,shape,
          .opened opened bracket inside colon closed named⟩
      · refine .inl ⟨scheme,host,port,shape,.name (fun c delimiter => ?_) named⟩
        simp only [delimiters,List.mem_cons,List.not_mem_nil,or_false] at delimiter
        rcases delimiter with rfl | rfl | rfl | rfl | rfl | rfl | rfl <;>
          rw [mem_toAsciiLowercase rfl]
        · exact colon
        · exact inside _ (by simp [beyondHost])
        · exact inside _ (by simp [beyondHost])
        · exact inside _ (by simp [beyondHost])
        · exact bracket
        · exact closed
        · exact inside _ (by simp [beyondHost])
    · exact .inl ⟨scheme,host,port,shape,.quad quad first⟩
    · exact absurd ((mem_toAsciiLowercase rfl).mp literal.colon) colon
  | @bracketed body inside =>
    obtain ⟨inner,behind,same,absent⟩ :=
      List.eq_append_cons_of_mem (show ']' ∈ body ++ [']'] by simp)
    rw [same] at shape loopback
    rw [hostOf_bracketed shape.scheme absent,Option.any_some] at loopback
    rcases List.eq_nil_or_concat behind with rfl | ⟨junk,last,rfl⟩
    · obtain ⟨rfl,-⟩ := List.append_inj' same rfl
      rcases isLoopbackHost_sound loopback with named | ⟨octets,quad,first⟩ | literal
      · exact .inr ⟨scheme,_,port,shape,.enclosed absent inside loopback (.inl named)⟩
      · have colon : ':' ∉ body := fun member => by
          cases quad.1.made ':' ((mem_toAsciiLowercase rfl).mpr member)
        exact .inr ⟨scheme,_,port,shape,.enclosed absent inside loopback (.inr colon)⟩
      · refine .inl ⟨scheme,_,port,shape,?_⟩
        rw [toAsciiLowercase_cons,toAsciiLowercase_append]
        exact .literal literal
    · -- the brackets that the first split took in end behind the junk
      have whole : body ++ [']'] = (inner ++ ']' :: junk) ++ [last] := by
        rw [same]
        simp
      obtain ⟨rfl,final⟩ := List.append_inj' whole rfl
      obtain rfl : ']' = last := by simpa using final
      have inside : ∀ c ∈ beyondHost, c ∉ inner ∧ c ∉ junk := fun c beyond =>
        ⟨fun member => inside c beyond (by simp [member]),
          fun member => inside c beyond (by simp [member])⟩
      have shape : Serialized (trimmed origin) scheme
          ('[' :: (inner ++ ']' :: (junk ++ [']']))) port := by simpa using shape
      exact .inr ⟨scheme,_,port,shape,.followed absent inside loopback⟩

/-! ## Misbracketed texts -/

theorem misbracketed_accepted {origin : String} (misread : MisbracketedOrigin origin) :
    OriginPolicy.loopback.isAllowed origin = true := by
  obtain ⟨scheme,host,port,shape,misbracketed⟩ := misread
  apply isAllowed_iff.mpr
  cases misbracketed with
  | opened opened bracket inside colon closed named =>
    have present : host ≠ [] := List.ne_nil_of_mem bracket
    refine ⟨scheme,host,port,shape,.plain present inside colon closed,?_⟩
    rw [hostOf_plain shape.scheme shape.port colon opened present]
    exact isLoopbackHost_name named
  | @enclosed inner absent inside loopback =>
    refine ⟨scheme,_,port,shape,.bracketed inside,?_⟩
    rw [hostOf_bracketed shape.scheme absent]
    exact loopback
  | @followed inner junk absent inside loopback =>
    have shaped : SplitHost ('[' :: ((inner ++ ']' :: junk) ++ [']'])) := by
      refine .bracketed fun c beyond member => ?_
      simp only [List.mem_append,List.mem_cons] at member
      rcases member with member | rfl | member
      · exact (inside c beyond).1 member
      · simp [beyondHost] at beyond
      · exact (inside c beyond).2 member
    refine ⟨scheme,_,port,shape,by simpa using shaped,?_⟩
    rw [hostOf_bracketed shape.scheme absent]
    exact loopback

theorem Serialized.sameRest {scheme' host' port' : List Char}
    (shape : Serialized text scheme host port) (other : Serialized text scheme' host' port') :
    host ++ port = host' ++ port' := by
  have first : Marks.splitOnce schemeMark text = some (scheme,host ++ port) := by
    rw [shape.parts,List.append_assoc _ host]
    exact splitOnce_scheme shape.scheme
  have second : Marks.splitOnce schemeMark text = some (scheme',host' ++ port') := by
    rw [other.parts,List.append_assoc _ host']
    exact splitOnce_scheme other.scheme
  rw [first] at second
  simpa using congrArg (fun cut => cut.map (·.2)) second

/-- A loopback host has no brackets, or the two around an IPv6 literal. -/
theorem LoopbackHost.brackets (loopback : LoopbackHost (toAsciiLowercase host)) :
    ('[' ∉ host ∧ ']' ∉ host) ∨ ∃ inner, host = '[' :: (inner ++ [']']) ∧ ']' ∉ inner ∧
      Literal6 (toAsciiLowercase inner) [0,0,0,0,0,0,0,1] := by
  have bare (opening : '[' ∉ toAsciiLowercase host) (closing : ']' ∉ toAsciiLowercase host) :
      '[' ∉ host ∧ ']' ∉ host := by
    rw [mem_toAsciiLowercase rfl] at opening closing
    exact ⟨opening,closing⟩
  generalize lowered : toAsciiLowercase host = low at loopback
  cases loopback with
  | name free _ =>
    subst lowered
    exact .inl (bare (free '[' (by simp [delimiters])) (free ']' (by simp [delimiters])))
  | quad quad _ =>
    subst lowered
    refine .inl (bare (fun member => ?_) (fun member => ?_))
    · cases quad.1.made '[' member
    · cases quad.1.made ']' member
  | @literal low literal =>
    obtain ⟨first,more,rfl,opened,rest⟩ := List.map_eq_cons_iff.mp lowered
    obtain ⟨inner,last,rfl,rfl,ends⟩ := List.map_eq_append_iff.mp rest
    obtain ⟨final,nothing,rfl,closed,nothing⟩ := List.map_eq_cons_iff.mp ends
    obtain rfl := List.map_eq_nil_iff.mp nothing
    obtain rfl := (toLower_caseless rfl).mp opened
    obtain rfl := (toLower_caseless rfl).mp closed
    refine .inr ⟨inner,rfl,fun member => ?_,literal⟩
    cases literal.made ']' ((mem_toAsciiLowercase rfl).mpr member)

theorem misbracketed_not_loopback {scheme' host' port' : List Char}
    (shape : Serialized text scheme host port) (misbracketed : Misbracketed host)
    (other : Serialized text scheme' host' port') :
    ¬ LoopbackHost (toAsciiLowercase host') := by
  intro loopback
  have same := shape.sameRest other
  rcases loopback.brackets with ⟨opening,-⟩ | ⟨literal,rfl,absent,six⟩
  · -- all misbracketed hosts have an opening bracket
    have bracket : '[' ∈ host ++ port := by
      cases misbracketed with
      | opened _ bracket => exact List.mem_append_left _ bracket
      | enclosed => simp
      | followed => simp
    rw [same] at bracket
    rcases List.mem_append.mp bracket with member | member
    · exact opening member
    · exact other.port.noBracket.1 member
  · cases misbracketed with
    | opened _ _ _ _ closed =>
      have bracket : ']' ∈ host ++ port := by simp [same]
      rcases List.mem_append.mp bracket with member | member
      · exact closed member
      · exact shape.port.noBracket.2 member
    | @enclosed inner absent' _ _ kind =>
      have cut : inner ++ ']' :: port = literal ++ ']' :: port' := by simpa using same
      obtain ⟨rfl,-⟩ := Marks.unique absent' absent cut
      rcases kind with named | colon
      · cases six.made 'l' named.plain
      · exact colon ((mem_toAsciiLowercase rfl).mp six.colon)
    | @followed inner junk absent' =>
      have cut : inner ++ ']' :: (junk ++ ']' :: port) = literal ++ ']' :: port' := by
        simpa using same
      obtain ⟨-,rest⟩ := Marks.unique absent' absent cut
      exact other.port.noBracket.2 (by simp [← rest])

/-! ## Soundness -/

/-- Whatever is accepted is a loopback origin, unless its brackets are misplaced. -/
theorem loopback_sound_iff (origin : String) :
    (OriginPolicy.loopback.isAllowed origin = true → LoopbackOrigin origin) ↔
      ¬ MisbracketedOrigin origin := by
  constructor
  · intro sound misread
    obtain ⟨scheme',host',port',other,loopback⟩ := sound (misbracketed_accepted misread)
    obtain ⟨scheme,host,port,shape,misbracketed⟩ := misread
    exact misbracketed_not_loopback shape misbracketed other loopback
  · intro fine allowed
    rcases accepted_cases allowed with loopback | misread
    · exact loopback
    · exact absurd misread fine

/-- Text behind the closing bracket is let through if it ends in another one. -/
theorem foreign_host_accepted :
    OriginPolicy.loopback.isAllowed "http://[::1]evil.com]" = true ∧
      ¬ LoopbackOrigin "http://[::1]evil.com]" := by
  refine ⟨by decide,?_⟩
  rintro ⟨scheme',host',port',other,loopback⟩
  have shape : Serialized (trimmed "http://[::1]evil.com]") "http".toList
      "[::1]evil.com]".toList [] :=
    ⟨by decide,⟨'h',"ttp".toList,rfl,by decide,by decide⟩,.absent⟩
  have misbracketed : Misbracketed "[::1]evil.com]".toList :=
    @Misbracketed.followed "::1".toList "evil.com".toList (by decide) (by simp [beyondHost])
      (by decide)
  exact misbracketed_not_loopback shape misbracketed other loopback

end Origin
end SmlMcps
