import Mathlib.Data.List.TakeWhile

/-! IP addresses in text: the reader of the standard library, the grammar of dotted
quads and of IPv6 literals, and that what is read is a literal of its value. -/
namespace IpText

/-! ## The reader -/

/-- `char::to_digit`, for a radix of at most 36. -/
def toDigit (radix : Nat) (c : Char) : Option Nat :=
  let value :=
    if c.isDigit then c.toNat - '0'.toNat
    else if c.isLower then c.toNat - 'a'.toNat + 10
    else if c.isUpper then c.toNat - 'A'.toNat + 10
    else radix
  if value < radix then some value else none

def isDigitOf (radix : Nat) (c : Char) : Bool := (toDigit radix c).isSome

def valueOf (radix : Nat) (digits : List Char) : Nat :=
  digits.foldl (fun total c => total * radix + (toDigit radix c).getD 0) 0

/-- The number at the front, up to the first character that is no digit. Too many digits
are refused, not left over. -/
def readNumber (radix maxDigits : Nat) (zeroPrefix : Bool) (bound : Nat) (text : List Char) :
    Option (Nat × List Char) :=
  let digits := text.takeWhile (isDigitOf radix)
  if digits.length > maxDigits then none
  else if digits.isEmpty then none
  else if !zeroPrefix && digits.head? == some '0' && digits.length > 1 then none
  else if valueOf radix digits < bound then
    some (valueOf radix digits,text.dropWhile (isDigitOf radix))
  else none

/-- Items after the first stand behind a separator. -/
def readSeparator {α : Type} (sep : Char) (index : Nat)
    (inner : List Char → Option (α × List Char)) (text : List Char) : Option (α × List Char) :=
  if index > 0 then
    match text with
    | [] => none
    | c :: rest => if c = sep then inner rest else none
  else inner text

def readOctet : List Char → Option (Nat × List Char) := readNumber 10 3 false 256

def readGroup : List Char → Option (Nat × List Char) := readNumber 16 4 true 65536

def readOctets : Nat → Nat → List Char → Option (List Nat × List Char)
  | 0, _, text => some ([],text)
  | left + 1, index, text =>
    match readSeparator '.' index readOctet text with
    | none => none
    | some (value,rest) =>
      (readOctets left (index + 1) rest).map fun read => (value :: read.1,read.2)

def readIpv4 (text : List Char) : Option (List Nat × List Char) := readOctets 4 0 text

/-- The two groups that four octets fill. -/
def asGroups : List Nat → List Nat
  | [one,two,three,four] => [one * 256 + two,three * 256 + four]
  | _ => []

/-- Colon-separated groups, `left` of them at most, with a dotted quad allowed in place of
the last two. Answers what was read, whether it ends in a quad, and the rest. -/
def readGroups : Nat → Nat → List Char → List Nat × Bool × List Char
  | 0, _, text => ([],false,text)
  | left + 1, index, text =>
    match if left > 0 then readSeparator ':' index readIpv4 text else none with
    | some (octets,rest) => (asGroups octets,true,rest)
    | none =>
      match readSeparator ':' index readGroup text with
      | some (value,rest) =>
        let (values,quad,rest) := readGroups left (index + 1) rest
        (value :: values,quad,rest)
      | none => ([],false,text)

def readIpv6 (text : List Char) : Option (List Nat × List Char) :=
  let (head,quad,rest) := readGroups 8 0 text
  if head.length = 8 then some (head,rest)
  else if quad then none
  else match rest with
    | ':' :: ':' :: rest =>
      let (tail,_,rest) := readGroups (8 - (head.length + 1)) 0 rest
      some (head ++ List.replicate (8 - tail.length - head.length) 0 ++ tail,rest)
    | _ => none

inductive IpAddr where
  | v4 (octets : List Nat)
  | v6 (groups : List Nat)
  deriving DecidableEq

def IpAddr.isLoopback : IpAddr → Bool
  | v4 octets => octets.head? == some 127
  | v6 groups => groups == [0,0,0,0,0,0,0,1]

def readIpAddr (text : List Char) : Option (IpAddr × List Char) :=
  match readIpv4 text with
  | some (octets,rest) => some (.v4 octets,rest)
  | none => (readIpv6 text).map fun read => (.v6 read.1,read.2)

/-- An address is the whole text or there is none. -/
def parseIpAddr (text : List Char) : Option IpAddr :=
  match readIpAddr text with
  | some (addr,[]) => some addr
  | _ => none

example : parseIpAddr "::0.0.0.1".toList = some (.v6 [0,0,0,0,0,0,0,1]) := by decide

example : parseIpAddr "127.0.0.01".toList = none := by decide

/-! ## The grammar -/

/-- A numeral of one to `most` digits, below `bound`. -/
structure Numeral (radix most : Nat) (zeroPrefix : Bool) (bound : Nat)
    (digits : List Char) (value : Nat) : Prop where
  present : digits ≠ []
  short : digits.length ≤ most
  numeric : ∀ c ∈ digits, isDigitOf radix c = true
  plain : zeroPrefix = false → digits.head? = some '0' → digits.length = 1
  denotes : value = valueOf radix digits
  bounded : value < bound

def Octet : List Char → Nat → Prop := Numeral 10 3 false 256

def Group : List Char → Nat → Prop := Numeral 16 4 true 65536

inductive Octets : List Char → List Nat → Prop where
  | last {text : List Char} {value : Nat} : Octet text value → Octets text [value]
  | more {text others : List Char} {value : Nat} {values : List Nat} :
      Octet text value → Octets others values →
      Octets (text ++ '.' :: others) (value :: values)

def DottedQuad (text : List Char) (octets : List Nat) : Prop :=
  Octets text octets ∧ octets.length = 4

/-- Groups between colons, the last of them a dotted quad if `quad` says so. -/
inductive Groups : Bool → List Char → List Nat → Prop where
  | last {text : List Char} {value : Nat} : Group text value → Groups false text [value]
  | quad {text : List Char} {octets : List Nat} :
      DottedQuad text octets → Groups true text (asGroups octets)
  | more {quad : Bool} {text others : List Char} {value : Nat} {values : List Nat} :
      Group text value → Groups quad others values →
      Groups quad (text ++ ':' :: others) (value :: values)

def SomeGroups (quad : Bool) (text : List Char) (values : List Nat) : Prop :=
  (text = [] ∧ values = []) ∨ Groups quad text values

/-- Eight groups in full, or fewer with `::` for the zeros between them. -/
inductive Literal6 : List Char → List Nat → Prop where
  | full {quad : Bool} {text : List Char} {values : List Nat} :
      Groups quad text values → values.length = 8 → Literal6 text values
  | compressed {quad : Bool} {front back : List Char} {head tail : List Nat} :
      SomeGroups false front head → SomeGroups quad back tail →
      head.length + tail.length < 8 →
      Literal6 (front ++ ':' :: ':' :: back)
        (head ++ List.replicate (8 - tail.length - head.length) 0 ++ tail)

/-! ## What each literal is made of -/

section
variable {c : Char} {text : List Char} {values : List Nat} {quad : Bool}

/-- The characters of a dotted quad. -/
def quadChar (c : Char) : Bool := isDigitOf 10 c || c == '.'

/-- The characters of an IPv6 literal. -/
def literalChar (c : Char) : Bool := isDigitOf 16 c || c == '.' || c == ':'

theorem isDigitOf_hex (decimal : isDigitOf 10 c = true) : isDigitOf 16 c = true := by
  have small (value : Nat) : ((if value < 10 then some value else none).isSome = true) ↔
      value < 10 := by
    split <;> simp [*]
  simp only [isDigitOf,toDigit,small] at decimal
  have bound : (if c.isDigit then c.toNat - '0'.toNat
      else if c.isLower then c.toNat - 'a'.toNat + 10
      else if c.isUpper then c.toNat - 'A'.toNat + 10 else 16) < 16 := by
    split at decimal
    · rename_i digit
      rw [if_pos digit]
      omega
    · split at decimal
      · omega
      · split at decimal <;> omega
  simp only [isDigitOf,toDigit,if_pos bound,Option.isSome_some]

theorem quadChar_literal (quad : quadChar c = true) : literalChar c = true := by
  simp only [quadChar,literalChar,Bool.or_eq_true] at quad ⊢
  rcases quad with digit | dot
  · exact .inl (.inl (isDigitOf_hex digit))
  · exact .inl (.inr dot)

theorem Octets.made (octets : Octets text values) : ∀ c ∈ text, quadChar c = true := by
  induction octets with
  | last octet =>
    intro c member
    simp [quadChar,octet.numeric c member]
  | more octet _ ih =>
    intro c member
    simp only [List.mem_append,List.mem_cons] at member
    rcases member with member | rfl | member
    · simp [quadChar,octet.numeric c member]
    · rfl
    · exact ih c member

theorem Groups.made (groups : Groups quad text values) : ∀ c ∈ text, literalChar c = true := by
  induction groups with
  | last group =>
    intro c member
    simp [literalChar,group.numeric c member]
  | quad octets => exact fun c member => quadChar_literal (octets.1.made c member)
  | more group _ ih =>
    intro c member
    simp only [List.mem_append,List.mem_cons] at member
    rcases member with member | rfl | member
    · simp [literalChar,group.numeric c member]
    · rfl
    · exact ih c member

theorem SomeGroups.made (groups : SomeGroups quad text values) :
    ∀ c ∈ text, literalChar c = true := by
  rcases groups with ⟨rfl,-⟩ | groups
  · simp
  · exact groups.made

theorem Literal6.made (literal : Literal6 text values) : ∀ c ∈ text, literalChar c = true := by
  cases literal with
  | full groups => exact groups.made
  | compressed front back =>
    intro c member
    simp only [List.mem_append,List.mem_cons] at member
    rcases member with member | rfl | rfl | member
    · exact front.made c member
    · rfl
    · rfl
    · exact back.made c member

theorem asGroups_length (octets : List Nat) : (asGroups octets).length ≤ 2 := by
  unfold asGroups
  split <;> simp

theorem Groups.colon (groups : Groups quad text values) (many : 2 < values.length) :
    ':' ∈ text := by
  cases groups with
  | last => simp at many
  | @quad _ octets =>
    have := asGroups_length octets
    omega
  | more => simp

theorem Literal6.colon (literal : Literal6 text values) : ':' ∈ text := by
  cases literal with
  | full groups eight => exact groups.colon (by omega)
  | compressed => simp

end

/-! ## What is read is a literal -/

section
variable {text rest : List Char} {values : List Nat} {value index left : Nat} {quad : Bool}

/-- What stands before the item of this index. -/
def separator (sep : Char) (index : Nat) : List Char := if index > 0 then [sep] else []

theorem readSeparator_sound {α : Type} {sep : Char} {item : α}
    {inner : List Char → Option (α × List Char)}
    (read : readSeparator sep index inner text = some (item,rest)) :
    ∃ body, text = separator sep index ++ body ∧ inner body = some (item,rest) := by
  unfold readSeparator at read
  by_cases later : index > 0
  · rw [if_pos later] at read
    cases text with
    | nil => cases read
    | cons c body =>
      by_cases same : c = sep
      · exact ⟨body,by simp [separator,later,same],by simpa [same] using read⟩
      · simp [same] at read
  · rw [if_neg later] at read
    exact ⟨text,by simp [separator,later],read⟩

theorem readNumber_sound {radix most bound : Nat} {zeroPrefix : Bool}
    (read : readNumber radix most zeroPrefix bound text = some (value,rest)) :
    ∃ digits, text = digits ++ rest ∧ Numeral radix most zeroPrefix bound digits value := by
  simp only [readNumber] at read
  split at read
  · cases read
  split at read
  · cases read
  split at read
  · cases read
  split at read
  · rename_i short present plain bounded
    simp only [Option.some.injEq,Prod.mk.injEq] at read
    obtain ⟨rfl,rfl⟩ := read
    refine ⟨_,List.takeWhile_append_dropWhile.symm,?_,by omega,?_,fun strict zero => ?_,rfl,bounded⟩
    · exact fun empty => present (by simp [empty])
    · exact fun c member => (List.mem_takeWhile_imp member)
    · have : (text.takeWhile (isDigitOf radix)).length ≠ 0 := by
        intro nothing
        rw [List.length_eq_zero_iff.mp nothing] at zero
        cases zero
      simp only [strict,zero,Bool.not_false,Bool.true_and,beq_self_eq_true,
        decide_eq_true_eq] at plain
      omega
  · cases read

theorem readOctets_sound (read : readOctets (left + 1) index text = some (values,rest)) :
    values.length = left + 1 ∧
      ∃ body, text = separator '.' index ++ body ++ rest ∧ Octets body values := by
  induction left generalizing index text values with
  | zero =>
    simp only [readOctets] at read
    split at read
    · cases read
    · rename_i octet found
      simp only [Option.map_some,Option.some.injEq,Prod.mk.injEq] at read
      obtain ⟨rfl,rfl⟩ := read
      obtain ⟨body,rfl,inner⟩ := readSeparator_sound found
      obtain ⟨digits,rfl,octet⟩ := readNumber_sound inner
      exact ⟨rfl,digits,by simp,.last octet⟩
  | succ left ih =>
    rw [readOctets] at read
    split at read
    · cases read
    · rename_i octet found
      obtain ⟨⟨others,rest'⟩,later,same⟩ := Option.map_eq_some_iff.mp read
      simp only [Prod.mk.injEq] at same
      obtain ⟨rfl,rfl⟩ := same
      obtain ⟨body,rfl,inner⟩ := readSeparator_sound found
      obtain ⟨digits,rfl,octet⟩ := readNumber_sound inner
      obtain ⟨count,more,rfl,octets⟩ := ih later
      exact ⟨by simp [count],digits ++ '.' :: more,by simp [separator],.more octet octets⟩

theorem readIpv4_sound (read : readIpv4 text = some (values,rest)) :
    ∃ body, text = body ++ rest ∧ DottedQuad body values := by
  obtain ⟨four,body,same,octets⟩ := readOctets_sound read
  exact ⟨body,by simpa [separator] using same,octets,four⟩

/-- The groups read are groups, as many as there is room for; or nothing is read. -/
theorem readGroups_sound (read : readGroups left index text = (values,quad,rest)) :
    values.length ≤ left ∧
      ((values = [] ∧ quad = false ∧ text = rest) ∨
        ∃ body, text = separator ':' index ++ body ++ rest ∧ Groups quad body values) := by
  induction left generalizing index text values with
  | zero =>
    simp only [readGroups,Prod.mk.injEq] at read
    obtain ⟨rfl,rfl,rfl⟩ := read
    exact ⟨by simp,.inl ⟨rfl,rfl,rfl⟩⟩
  | succ left ih =>
    rw [readGroups] at read
    split at read
    · -- a dotted quad fills two groups, and there is room for two
      rename_i octets rest' found
      simp only [Prod.mk.injEq] at read
      obtain ⟨rfl,rfl,rfl⟩ := read
      split at found
      · obtain ⟨body,rfl,inner⟩ := readSeparator_sound found
        obtain ⟨literal,rfl,octets⟩ := readIpv4_sound inner
        have := asGroups_length ‹List Nat›
        exact ⟨by omega,.inr ⟨literal,by simp,.quad octets⟩⟩
      · cases found
    · split at read
      · rename_i value rest' found
        obtain ⟨others,flag,rest'',nested⟩ :
          ∃ others flag rest'', readGroups left (index + 1) rest' = (others,flag,rest'') :=
            ⟨_,_,_,rfl⟩
        simp only [nested,Prod.mk.injEq] at read
        obtain ⟨rfl,rfl,rfl⟩ := read
        obtain ⟨body,rfl,inner⟩ := readSeparator_sound found
        obtain ⟨digits,rfl,group⟩ := readNumber_sound inner
        obtain ⟨room,⟨rfl,rfl,rfl⟩ | ⟨more,rfl,groups⟩⟩ := ih nested
        · exact ⟨by simp,.inr ⟨digits,by simp,.last group⟩⟩
        · exact ⟨by simpa using room,.inr ⟨digits ++ ':' :: more,by simp [separator],
            .more group groups⟩⟩
      · simp only [Prod.mk.injEq] at read
        obtain ⟨rfl,rfl,rfl⟩ := read
        exact ⟨by simp,.inl ⟨rfl,rfl,rfl⟩⟩

theorem readGroups_someGroups (read : readGroups left 0 text = (values,quad,rest)) :
    values.length ≤ left ∧ ∃ body, text = body ++ rest ∧ SomeGroups quad body values := by
  obtain ⟨room,⟨nothing,-,same⟩ | ⟨body,same,groups⟩⟩ := readGroups_sound read
  · exact ⟨room,[],by simp [same],.inl ⟨rfl,nothing⟩⟩
  · exact ⟨room,body,by simpa [separator] using same,.inr groups⟩

theorem readIpv6_sound (read : readIpv6 text = some (values,rest)) :
    ∃ body, text = body ++ rest ∧ Literal6 body values := by
  obtain ⟨head,quad,after,first⟩ :
    ∃ head quad after, readGroups 8 0 text = (head,quad,after) := ⟨_,_,_,rfl⟩
  obtain ⟨most,front,rfl,groups⟩ := readGroups_someGroups first
  simp only [readIpv6,first] at read
  by_cases eight : head.length = 8
  · rw [if_pos eight] at read
    simp only [Option.some.injEq,Prod.mk.injEq] at read
    obtain ⟨rfl,rfl⟩ := read
    rcases groups with ⟨-,rfl⟩ | groups
    · cases eight
    · exact ⟨front,rfl,.full groups eight⟩
  · rw [if_neg eight] at read
    cases quad with
    | true => cases read
    | false =>
      simp only [Bool.false_eq_true,↓reduceIte] at read
      split at read
      · rename_i rest'
        obtain ⟨tail,flag,rest'',second⟩ : ∃ tail flag rest'',
          readGroups (8 - (head.length + 1)) 0 rest' = (tail,flag,rest'') := ⟨_,_,_,rfl⟩
        obtain ⟨room,back,rfl,others⟩ := readGroups_someGroups second
        simp only [second,Option.some.injEq,Prod.mk.injEq] at read
        obtain ⟨rfl,rfl⟩ := read
        exact ⟨front ++ ':' :: ':' :: back,by simp,.compressed groups others (by omega)⟩
      · cases read

/-- Text that parses is a literal of the address it parses as. -/
theorem parseIpAddr_sound {addr : IpAddr} (parsed : parseIpAddr text = some addr) :
    (∃ octets, addr = .v4 octets ∧ DottedQuad text octets) ∨
      ∃ groups, addr = .v6 groups ∧ Literal6 text groups := by
  simp only [parseIpAddr] at parsed
  split at parsed
  · rename_i addr' found
    cases parsed
    simp only [readIpAddr] at found
    split at found
    · rename_i octets rest' read
      simp only [Option.some.injEq,Prod.mk.injEq] at found
      obtain ⟨rfl,rfl⟩ := found
      obtain ⟨body,rfl,quad⟩ := readIpv4_sound read
      exact .inl ⟨octets,rfl,by simpa using quad⟩
    · obtain ⟨⟨groups,rest'⟩,read,same⟩ := Option.map_eq_some_iff.mp found
      simp only [Prod.mk.injEq] at same
      obtain ⟨rfl,rfl⟩ := same
      obtain ⟨body,rfl,literal⟩ := readIpv6_sound read
      exact .inr ⟨groups,rfl,by simpa using literal⟩
  · cases parsed

end

end IpText
