import Mathlib
import SmlMcps.Http1Head
import SmlMcps.Library.Marks
import SmlMcps.Library.IpAddr

/-! `Origin` header validation: the header is normalised into `scheme://host[:port]`, and
the host is then cut out of the normalised text again. -/
namespace SmlMcps

/-- Which `Origin` header values are accepted. -/
inductive OriginPolicy where
  | loopback
  | allowlist (allowed : List (List Char))
  | any
  deriving DecidableEq

namespace Origin

def toAsciiLowercase (text : List Char) : List Char := text.map Char.toLower

def schemeMark : List Char := [':','/','/']

def schemeChar (c : Char) : Bool := c.isAlphanum || c == '+' || c == '-' || c == '.'

/-- One trailing slash is tolerated. -/
def stripSlash (text : List Char) : List Char :=
  if text.getLast? = some '/' then text.dropLast else text

/-- Split host from port, honoring bracketed IPv6 literals. -/
def splitPort (authority : List Char) : Option (List Char × Option (List Char)) :=
  match Marks.rfind ']' authority with
  | some close =>
    if authority.head? != some '[' then none
    else
      let (host,tail) := authority.splitAt (close + 1)
      match tail with
      | [] => some (host,none)
      | ':' :: port => some (host,some port)
      | _ => none
  | none =>
    match Marks.splitOnce [':'] authority with
    | some (host,port) => some (host,some port)
    | none => some (authority,none)

/-- The integer parser for 16-bit unsigned types. -/
def parseU16 (text : List Char) : Option Nat := (parseUnsigned text).filter (· < 2^16)

def badPort (port : List Char) : Bool :=
  port.isEmpty || !port.all Char.isDigit || (parseU16 port).isNone

def portText : Option (List Char) → List Char
  | none => []
  | some port => ':' :: port

/-- `scheme://host[:port]` in lower case, or `none` for what is no serialized origin. -/
def normalizeOrigin (origin : List Char) : Option (List Char) :=
  let origin := Http1.trim origin
  if origin.isEmpty || toAsciiLowercase origin == "null".toList then none
  else match Marks.splitOnce schemeMark origin with
  | none => none
  | some (scheme,rest) =>
    if scheme.isEmpty || !(scheme.head?.any Char.isAlpha) then none
    else if !scheme.all schemeChar then none
    else
      -- No path, query or fragment.
      let authority := stripSlash rest
      if authority.isEmpty || authority.contains '/' || authority.contains '?' ||
          authority.contains '#' || authority.contains '@' then none
      else match splitPort authority with
      | none => none
      | some (host,port) =>
        if host.isEmpty then none
        else if port.any badPort then none
        else some (toAsciiLowercase scheme ++ schemeMark ++ toAsciiLowercase host ++
          portText port)

/-- The host of a normalised origin, without brackets. -/
def hostOf (normalized : List Char) : Option (List Char) :=
  match Marks.splitOnce schemeMark normalized with
  | none => none
  | some (_,rest) =>
    if rest.head? == some '[' then
      (rest.idxOf? ']').map fun close => (rest.take close).drop 1
    else
      match Marks.splitOnce [':'] rest with
      | some (host,_) => some host
      | none => some rest

def isLoopbackHost (host : List Char) : Bool :=
  if host == "localhost".toList || ".localhost".toList.isSuffixOf host then true
  else
    match IpText.parseIpAddr host with
    | some addr => addr.isLoopback
    | none => false

end Origin

namespace OriginPolicy

open Origin

/-- Entries are normalised; one that cannot be is kept as it is. -/
def ofEntries (origins : List String) : OriginPolicy :=
  .allowlist (origins.map fun o => (normalizeOrigin o.toList).getD o.toList)

def isAllowed (policy : OriginPolicy) (origin : String) : Bool :=
  if policy = .any then true
  else
    match normalizeOrigin origin.toList with
    | none => false
    | some normalized =>
      match policy with
      | .any => true
      | .allowlist allowed => allowed.contains normalized
      | .loopback => (hostOf normalized).any isLoopbackHost

example : OriginPolicy.loopback.isAllowed "HTTP://[::1]:8080/" = true := by decide

example : OriginPolicy.loopback.isAllowed "http://localhost.evil.example.com" = false := by
  decide

end OriginPolicy

namespace Origin

/-! ## The parts of an origin -/

/-- `ALPHA *( ALPHA / DIGIT / "+" / "-" / "." )`. -/
def IsScheme (scheme : List Char) : Prop :=
  ∃ first more, scheme = first :: more ∧ first.isAlpha = true ∧ more.all schemeChar = true

/-- Nothing, or a colon and digits that denote a 16-bit number. -/
inductive PortText : List Char → Prop where
  | absent : PortText []
  | given {digits : List Char} : digits ≠ [] → (∀ d ∈ digits, d.isDigit = true) →
      Nat.ofDigitChars 10 digits 0 ≤ 65535 → PortText (':' :: digits)

/-- `scheme "://" host [":" port]`, whatever the host is. -/
structure Serialized (text scheme host port : List Char) : Prop where
  parts : text = scheme ++ schemeMark ++ host ++ port
  scheme : IsScheme scheme
  port : PortText port

/-- What no host may contain for its origin to be normalised. -/
def beyondHost : List Char := ['/','?','#','@']

/-- The hosts that the split leaves: in brackets from end to end, or without a colon and a
closing bracket. -/
inductive SplitHost : List Char → Prop where
  | bracketed {host : List Char} :
      (∀ c ∈ beyondHost, c ∉ host) → SplitHost ('[' :: (host ++ [']']))
  | plain {host : List Char} :
      host ≠ [] → (∀ c ∈ beyondHost, c ∉ host) → ':' ∉ host → ']' ∉ host → SplitHost host

variable {text scheme host port rest authority digits front : List Char} {c d : Char}

/-! ## Lower case, trailing slashes and ports -/

theorem isAlpha_iff : c.isAlpha = true ↔
    ('A'.val ≤ c.val ∧ c.val ≤ 'Z'.val) ∨ ('a'.val ≤ c.val ∧ c.val ≤ 'z'.val) := by
  have alpha : c.isAlpha = (c.isUpper || c.isLower) := rfl
  have upper : c.isUpper = decide ('A'.val ≤ c.val ∧ c.val ≤ 'Z'.val) := rfl
  have lower : c.isLower = (decide ('a'.val ≤ c.val) && decide (c.val ≤ 'z'.val)) := rfl
  simp only [alpha,upper,lower,Bool.or_eq_true,Bool.and_eq_true,decide_eq_true_eq]

/-- Lower-casing neither makes nor takes away a character that is no letter. -/
theorem toLower_caseless (caseless : c.isAlpha = false) : d.toLower = c ↔ d = c := by
  by_cases upper : d.isUpper = true
  · have letter : d.isAlpha = true := by simp [Char.isAlpha,upper]
    have lowered : d.toLower.isAlpha = true := by simpa using letter
    constructor
    · rintro rfl
      rw [lowered] at caseless
      cases caseless
    · rintro rfl
      rw [letter] at caseless
      cases caseless
  · rw [Char.toLower_eq_of_not_isUpper upper]

@[simp] theorem toAsciiLowercase_nil : toAsciiLowercase [] = [] := rfl

@[simp] theorem toAsciiLowercase_cons (c : Char) (text : List Char) :
    toAsciiLowercase (c :: text) = c.toLower :: toAsciiLowercase text := rfl

@[simp] theorem toAsciiLowercase_append (front back : List Char) :
    toAsciiLowercase (front ++ back) = toAsciiLowercase front ++ toAsciiLowercase back := by
  simp [toAsciiLowercase]

@[simp] theorem toAsciiLowercase_idem (text : List Char) :
    toAsciiLowercase (toAsciiLowercase text) = toAsciiLowercase text := by
  simp [toAsciiLowercase]

theorem mem_toAsciiLowercase (caseless : c.isAlpha = false) :
    c ∈ toAsciiLowercase text ↔ c ∈ text := by
  simp [toAsciiLowercase,toLower_caseless caseless]

theorem stripSlash_append (present : rest ≠ []) :
    stripSlash (front ++ rest) = front ++ stripSlash rest := by
  simp only [stripSlash,List.getLast?_append_of_ne_nil front present]
  split
  · exact List.dropLast_append_of_ne_nil present
  · rfl

@[simp] theorem stripSlash_concat : stripSlash (text ++ ['/']) = text := by
  simp [stripSlash]

theorem stripSlash_cases (text : List Char) :
    text = stripSlash text ∨ text = stripSlash text ++ ['/'] := by
  unfold stripSlash
  split
  · rename_i last
    exact .inr (List.dropLast_append_getLast? '/' last).symm
  · exact .inl rfl

theorem parseU16_digits (present : digits ≠ []) (decimal : ∀ d ∈ digits, d.isDigit = true) :
    (parseU16 digits).isSome = decide (Nat.ofDigitChars 10 digits 0 ≤ 65535) := by
  rw [parseU16,parseUnsigned_of_digits present decimal]
  by_cases small : Nat.ofDigitChars 10 digits 0 < 2^64
  · rw [if_pos small]
    by_cases port : Nat.ofDigitChars 10 digits 0 ≤ 65535
    · simp [Option.filter,port,show Nat.ofDigitChars 10 digits 0 < 65536 by omega]
    · simp [Option.filter,port,show ¬ Nat.ofDigitChars 10 digits 0 < 65536 by omega]
  · have : ¬ Nat.ofDigitChars 10 digits 0 ≤ 65535 := by omega
    rw [if_neg small]
    simp [this]

/-- The ports that pass are the empty text and `":" digits` up to 65535. -/
theorem portText_iff (port : Option (List Char)) :
    port.any badPort = false ↔ PortText (portText port) := by
  cases port with
  | none => simp [portText,PortText.absent]
  | some digits =>
    simp only [Option.any_some,badPort,portText,Bool.or_eq_false_iff]
    constructor
    · rintro ⟨⟨present,decimal⟩,small⟩
      have present : digits ≠ [] := by simpa using present
      have decimal : ∀ d ∈ digits, d.isDigit = true := by simpa using decimal
      refine .given present decimal ?_
      have read := parseU16_digits present decimal
      rw [Option.isNone_eq_false_iff.mp small] at read
      exact of_decide_eq_true read.symm
    · rintro (_ | ⟨present,decimal,small⟩)
      refine ⟨⟨by simpa using present,by simpa using decimal⟩,?_⟩
      apply Option.isNone_eq_false_iff.mpr
      rw [parseU16_digits present decimal]
      exact decide_eq_true small

theorem PortText.eq_portText (numeric : PortText port) : ∃ given, port = portText given := by
  cases numeric with
  | absent => exact ⟨none,rfl⟩
  | given => exact ⟨some _,rfl⟩

/-- A port has nothing but digits behind its colon. -/
theorem PortText.free (numeric : PortText port) (other : c.isDigit = false) (apart : c ≠ ':') :
    c ∉ port := by
  cases numeric with
  | absent => simp
  | given present decimal small =>
    intro member
    rcases List.mem_cons.mp member with same | member
    · exact apart same
    · rw [decimal c member] at other
      cases other

theorem PortText.noBracket (numeric : PortText port) : '[' ∉ port ∧ ']' ∉ port :=
  ⟨numeric.free rfl (by simp),numeric.free rfl (by simp)⟩

theorem IsScheme.noColon (letters : IsScheme scheme) : ':' ∉ scheme := by
  obtain ⟨first,more,rfl,letter,others⟩ := letters
  intro member
  rcases List.mem_cons.mp member with same | member
  · rw [← same] at letter
    cases letter
  · cases List.all_eq_true.mp others _ member

theorem isScheme_iff : IsScheme scheme ↔
    (scheme.isEmpty || !(scheme.head?.any Char.isAlpha)) = false ∧
      (!scheme.all schemeChar) = false := by
  cases scheme with
  | nil => simp [IsScheme]
  | cons first more =>
    have alphabet : first.isAlpha = true → schemeChar first = true := fun letter => by
      simp [schemeChar,Char.isAlphanum,letter]
    simp only [IsScheme,List.cons.injEq,List.isEmpty_cons,List.head?_cons,Option.any_some,
      Bool.false_or,Bool.not_eq_false',List.all_cons,Bool.and_eq_true,List.all_eq_true]
    constructor
    · rintro ⟨_,_,⟨rfl,rfl⟩,letter,others⟩
      exact ⟨letter,alphabet letter,others⟩
    · rintro ⟨letter,-,others⟩
      exact ⟨first,more,⟨rfl,rfl⟩,letter,others⟩

/-! ## Host and port -/

/-- The split takes the authority apart without loss. -/
theorem splitPort_sound {given : Option (List Char)}
    (split : splitPort authority = some (host,given)) (present : host ≠ [])
    (inside : ∀ c ∈ beyondHost, c ∉ authority) :
    authority = host ++ portText given ∧ SplitHost host := by
  unfold splitPort at split
  split at split
  · rename_i close found
    obtain ⟨front,tail,rfl,absent,rfl⟩ := Marks.rfind_cut found
    split at split
    · cases split
    rename_i opened
    simp only [bne_iff_ne,ne_eq,not_not] at opened
    rw [Marks.splitAt_mark] at split
    simp only at split
    have bracketed : SplitHost (front ++ [']']) := by
      cases front with
      | nil => simp at opened
      | cons first inner =>
        simp only [List.cons_append,List.head?_cons,Option.some.injEq] at opened
        subst opened
        refine .bracketed fun c beyond member => inside c beyond (by simp [member])
    split at split
    · cases split
      exact ⟨by simp [portText],bracketed⟩
    · cases split
      exact ⟨by simp [portText],bracketed⟩
    · cases split
  · rename_i unclosed
    have unclosed := Marks.rfind_eq_none.mp unclosed
    split at split
    · rename_i host' port' found
      cases split
      have same := Marks.splitOnce_sound found
      simp only at same
      have colon := Marks.splitOnce_before found
      refine ⟨by simpa [portText] using same,.plain present ?_ colon ?_⟩
      · exact fun c beyond member => inside c beyond (by simp [same,member])
      · exact fun member => unclosed (by simp [same,member])
    · rename_i found
      cases split
      exact ⟨by simp [portText],.plain present inside (Marks.splitOnce_eq_none.mp found)
        unclosed⟩

theorem splitPort_complete {given : Option (List Char)} (shaped : SplitHost host)
    (numeric : PortText (portText given)) :
    splitPort (host ++ portText given) = some (host,given) := by
  have unclosed : ']' ∉ portText given := numeric.noBracket.2
  cases shaped with
  | @bracketed inner =>
    have shape : '[' :: (inner ++ [']']) ++ portText given =
        ('[' :: inner) ++ ']' :: portText given := by simp
    rw [shape,splitPort,Marks.rfind_last unclosed]
    simp only [Marks.splitAt_mark]
    cases given with
    | none => simp [portText]
    | some port => simp [portText]
  | plain present inside colon closed =>
    have nowhere : ']' ∉ host ++ portText given := by simp [closed,unclosed]
    rw [splitPort,Marks.rfind_eq_none.mpr nowhere]
    cases given with
    | none => simp [portText,Marks.splitOnce_eq_none.mpr colon]
    | some port =>
      have found : Marks.splitOnce [':'] (host ++ ':' :: port) = some (host,port) := by
        simpa using @Marks.splitOnce_first _ host port _ _ ':' [] colon
      simp [portText,found]

theorem SplitHost.present (shaped : SplitHost host) : host ≠ [] := by
  cases shaped with
  | bracketed => simp
  | plain present => exact present

theorem SplitHost.inside (shaped : SplitHost host) : ∀ c ∈ beyondHost, c ∉ host := by
  cases shaped with
  | bracketed inside =>
    intro c beyond member
    simp only [List.mem_cons,List.mem_append,List.not_mem_nil,or_false] at member
    rcases member with rfl | member | rfl
    · simp [beyondHost] at beyond
    · exact inside c beyond member
    · simp [beyondHost] at beyond
  | plain _ inside => exact inside

theorem clean_iff (authority : List Char) :
    (authority.isEmpty || authority.contains '/' || authority.contains '?' ||
        authority.contains '#' || authority.contains '@') = false ↔
      authority ≠ [] ∧ ∀ c ∈ beyondHost, c ∉ authority := by
  simp [beyondHost,and_assoc]

theorem splitOnce_scheme (letters : IsScheme scheme) :
    Marks.splitOnce schemeMark (scheme ++ schemeMark ++ rest) = some (scheme,rest) :=
  Marks.splitOnce_first letters.noColon

/-- What is normalised, and into what. -/
theorem normalizeOrigin_iff {origin normalized : List Char} :
    normalizeOrigin origin = some normalized ↔ ∃ scheme host port,
      Serialized (stripSlash (Http1.trim origin)) scheme host port ∧ SplitHost host ∧
        normalized = toAsciiLowercase scheme ++ schemeMark ++ toAsciiLowercase host ++ port := by
  constructor
  · intro accepted
    simp only [normalizeOrigin] at accepted
    split at accepted
    · cases accepted
    split at accepted
    · cases accepted
    rename_i scheme rest found
    have parts := Marks.splitOnce_sound found
    simp only at parts
    split at accepted
    · cases accepted
    rename_i begins
    split at accepted
    · cases accepted
    rename_i letters
    split at accepted
    · cases accepted
    rename_i clean
    obtain ⟨filled,inside⟩ := (clean_iff _).mp (Bool.eq_false_iff.mpr clean)
    split at accepted
    · cases accepted
    rename_i host given divided
    split at accepted
    · cases accepted
    rename_i present
    split at accepted
    · cases accepted
    rename_i good
    have present : host ≠ [] := by simpa using present
    obtain ⟨same,shaped⟩ := splitPort_sound divided present inside
    have nonempty : rest ≠ [] := by
      rintro rfl
      exact filled rfl
    refine ⟨scheme,host,portText given,⟨?_,?_,?_⟩,shaped,(Option.some.inj accepted).symm⟩
    · rw [parts,stripSlash_append nonempty,same]
      simp
    · exact isScheme_iff.mpr ⟨Bool.eq_false_iff.mpr begins,Bool.eq_false_iff.mpr letters⟩
    · exact (portText_iff given).mp (Bool.eq_false_iff.mpr good)
  · rintro ⟨scheme,host,port,⟨parts,letters,numeric⟩,shaped,rfl⟩
    obtain ⟨given,rfl⟩ := numeric.eq_portText
    have filled : host ++ portText given ≠ [] := by simp [shaped.present]
    have inside : ∀ c ∈ beyondHost, c ∉ host ++ portText given := by
      intro c beyond member
      rcases List.mem_append.mp member with member | member
      · exact shaped.inside c beyond member
      · simp only [beyondHost,List.mem_cons,List.not_mem_nil,or_false] at beyond
        rcases beyond with rfl | rfl | rfl | rfl <;> exact numeric.free rfl (by simp) member
    -- the slash that was stripped was behind the port
    obtain ⟨rest,text,authority⟩ : ∃ rest, Http1.trim origin = scheme ++ schemeMark ++ rest ∧
        stripSlash rest = host ++ portText given := by
      rcases stripSlash_cases (Http1.trim origin) with same | same
      · have text : Http1.trim origin = scheme ++ schemeMark ++ (host ++ portText given) := by
          rw [same,parts,List.append_assoc]
        refine ⟨_,text,?_⟩
        rw [text,stripSlash_append filled,List.append_assoc _ host] at parts
        exact List.append_cancel_left parts
      · exact ⟨host ++ portText given ++ ['/'],by rw [same,parts]; simp,stripSlash_concat⟩
    have colon : ':' ∈ Http1.trim origin := by simp [text,schemeMark]
    have named : ((Http1.trim origin).isEmpty ||
        toAsciiLowercase (Http1.trim origin) == "null".toList) = false := by
      simp only [Bool.or_eq_false_iff,beq_eq_false_iff_ne]
      refine ⟨?_,fun null => ?_⟩
      · rw [List.isEmpty_eq_false_iff]
        exact List.ne_nil_of_mem colon
      · rw [← mem_toAsciiLowercase rfl,null] at colon
        simp at colon
    have divided : Marks.splitOnce schemeMark (Http1.trim origin) = some (scheme,rest) := by
      rw [text,splitOnce_scheme letters]
    obtain ⟨begins,alphabet⟩ := isScheme_iff.mp letters
    have good := (portText_iff given).mpr numeric
    have clean := (clean_iff _).mpr ⟨filled,inside⟩
    have present : host.isEmpty = false := by simp [shaped.present]
    simp only [normalizeOrigin,named,divided,begins,alphabet,authority,clean,
      splitPort_complete shaped numeric,present,good]
    rfl

/-- An allowlist of origins allows what is one of them when normalised, and nothing else. -/
theorem ofEntries_isAllowed {origins : List String}
    (wellFormed : ∀ entry ∈ origins, (normalizeOrigin entry.toList).isSome = true)
    (origin : String) : (OriginPolicy.ofEntries origins).isAllowed origin = true ↔
      ∃ entry ∈ origins, normalizeOrigin origin.toList = normalizeOrigin entry.toList := by
  constructor
  · intro allowed
    cases accepted : normalizeOrigin origin.toList with
    | none => simp [OriginPolicy.isAllowed,OriginPolicy.ofEntries,accepted] at allowed
    | some normalized =>
      obtain ⟨entry,member,same⟩ : ∃ entry ∈ origins,
          (normalizeOrigin entry.toList).getD entry.toList = normalized := by
        simpa [OriginPolicy.isAllowed,OriginPolicy.ofEntries,accepted] using allowed
      obtain ⟨listed,known⟩ := Option.isSome_iff_exists.mp (wellFormed entry member)
      refine ⟨entry,member,?_⟩
      rw [known,← same,known,Option.getD_some]
  · rintro ⟨entry,member,same⟩
    obtain ⟨listed,known⟩ := Option.isSome_iff_exists.mp (wellFormed entry member)
    rw [known] at same
    have among : listed ∈ origins.map fun o =>
        (normalizeOrigin o.toList).getD o.toList :=
      List.mem_map.mpr ⟨entry,member,by rw [known,Option.getD_some]⟩
    simpa [OriginPolicy.isAllowed,OriginPolicy.ofEntries,same] using among

end Origin
end SmlMcps
