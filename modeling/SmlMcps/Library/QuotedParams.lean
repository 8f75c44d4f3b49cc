import Mathlib.Data.List.Basic

/-! Lists of parameters `name="value"`, the values as quoted strings: a quoted string ends
at its first unescaped quote, and a backslash stands for the character behind it. -/
namespace QuotedParams

/-- A name and a value. -/
abbrev Param := List Char × List Char

def escapeChar (c : Char) : List Char := if c = '"' ∨ c = '\\' then ['\\',c] else [c]

def escape (value : List Char) : List Char := value.flatMap escapeChar

def renderParam (param : Param) : List Char :=
  param.1 ++ '=' :: '"' :: (escape param.2 ++ ['"'])

/-- What follows the first parameter. -/
def renderMore (params : List Param) : List Char :=
  params.flatMap fun param => ',' :: ' ' :: renderParam param

def renderParams : List Param → List Char
  | [] => []
  | first :: more => renderParam first ++ renderMore more

/-- The rest of a quoted string, and what follows it. -/
def readQuoted : List Char → Option (List Char × List Char)
  | [] => none
  | c :: rest =>
    if c = '"' then some ([],rest)
    else if c = '\\' then
      match rest with
      | [] => none
      | escaped :: more => (readQuoted more).map fun read => (escaped :: read.1,read.2)
    else (readQuoted rest).map fun read => (c :: read.1,read.2)

section
variable (nameChar : Char → Bool)

/-- A parameter, and what follows it. -/
def readParam (text : List Char) : Option (Param × List Char) :=
  let name := text.takeWhile nameChar
  if name.isEmpty then none
  else
    match text.dropWhile nameChar with
    | '=' :: '"' :: body => (readQuoted body).map fun read => ((name,read.1),read.2)
    | _ => none

/-- Parameters with commas between them, blanks before each; there are at most as many as
`fuel`. -/
def readList : (fuel : Nat) → List Char → Option (List Param)
  | 0,_ => none
  | fuel + 1,text => do
    let (param,rest) ← readParam nameChar (text.dropWhile fun c => c == ' ' || c == '\t')
    match rest with
    | [] => some [param]
    | ',' :: more => (readList fuel more).map (param :: ·)
    | _ => none

/-- Each parameter takes a character at least. -/
def readParams (text : List Char) : Option (List Param) := readList nameChar text.length text

end

variable {nameChar : Char → Bool} {value rest name : List Char} {param : Param}

@[simp] theorem readQuoted_end (rest : List Char) :
    readQuoted ('"' :: rest) = some ([],rest) := by
  cases rest <;> rfl

@[simp] theorem readQuoted_backslash (escaped : Char) (more : List Char) :
    readQuoted ('\\' :: escaped :: more) =
      (readQuoted more).map fun read => (escaped :: read.1,read.2) := rfl

theorem readQuoted_plain {c : Char} (quote : c ≠ '"') (backslash : c ≠ '\\')
    (rest : List Char) : readQuoted (c :: rest) =
      (readQuoted rest).map fun read => (c :: read.1,read.2) := by
  cases rest <;> simp [readQuoted,quote,backslash]

/-- What was escaped is read back, and no more is read. -/
theorem readQuoted_escape (value rest : List Char) :
    readQuoted (escape value ++ '"' :: rest) = some (value,rest) := by
  induction value with
  | nil => simp [escape]
  | cons c more ih =>
    rw [escape] at ih
    by_cases special : c = '"' ∨ c = '\\'
    · simp [escape,escapeChar,special,ih]
    · obtain ⟨quote,backslash⟩ := not_or.mp special
      simp [escape,escapeChar,quote,backslash,readQuoted_plain,ih]

/-- A name that is read whole. -/
structure IsName (nameChar : Char → Bool) (name : List Char) : Prop where
  present : name ≠ []
  inside : name.all nameChar = true
  blanks : name.head? ≠ some ' ' ∧ name.head? ≠ some '\t'

theorem readParam_render (ends : nameChar '=' = false) (named : IsName nameChar param.1)
    (rest : List Char) : readParam nameChar (renderParam param ++ rest) = some (param,rest) := by
  have inside : ∀ c ∈ param.1, nameChar c = true := List.all_eq_true.mp named.inside
  have text : renderParam param ++ rest =
      param.1 ++ '=' :: '"' :: (escape param.2 ++ '"' :: rest) := by simp [renderParam]
  have taken : (renderParam param ++ rest).takeWhile nameChar = param.1 := by
    rw [text,List.takeWhile_append_of_pos inside]
    simp [ends]
  have left : (renderParam param ++ rest).dropWhile nameChar =
      '=' :: '"' :: (escape param.2 ++ '"' :: rest) := by
    rw [text,List.dropWhile_append_of_pos inside]
    simp [ends]
  simp [readParam,taken,left,named.present,readQuoted_escape]

theorem dropBlanks (named : IsName nameChar param.1) (rest : List Char) :
    (renderParam param ++ rest).dropWhile (fun c => c == ' ' || c == '\t') =
      renderParam param ++ rest := by
  obtain ⟨name,value⟩ := param
  cases name with
  | nil => exact absurd rfl named.present
  | cons first more =>
    have blanks := named.blanks
    simp only [List.head?_cons,ne_eq,Option.some.injEq] at blanks
    simp [renderParam,blanks]

/-- One parameter and its successors. -/
theorem readList_render (ends : nameChar '=' = false) {more : List Param} {fuel : Nat}
    (named : ∀ each ∈ param :: more, IsName nameChar each.1) (enough : more.length < fuel) :
    readList nameChar fuel (renderParam param ++ renderMore more) = some (param :: more) := by
  induction more generalizing param fuel with
  | nil =>
    obtain ⟨fuel,rfl⟩ : ∃ less, fuel = less + 1 := ⟨fuel - 1,by omega⟩
    have first := named param (by simp)
    rw [readList,dropBlanks first,readParam_render ends first]
    rfl
  | cons next others ih =>
    obtain ⟨fuel,rfl⟩ : ∃ less, fuel = less + 1 := ⟨fuel - 1,by omega⟩
    have first := named param (by simp)
    have second := named next (by simp)
    have later : readList nameChar fuel (renderParam next ++ renderMore others) =
        some (next :: others) :=
      ih (fun each member => named each (List.mem_cons_of_mem _ member)) (by simpa using enough)
    have behind : renderMore (next :: others) =
        ',' :: ' ' :: (renderParam next ++ renderMore others) := by simp [renderMore]
    -- The blank behind the comma is skipped in the next round.
    have skipped : readList nameChar fuel (' ' :: (renderParam next ++ renderMore others)) =
        readList nameChar fuel (renderParam next ++ renderMore others) := by
      obtain ⟨fuel,rfl⟩ : ∃ less, fuel = less + 1 := ⟨fuel - 1,by simp at enough; omega⟩
      rw [readList,readList,dropBlanks second]
      simp [dropBlanks second]
    rw [readList,dropBlanks first,readParam_render ends first,behind]
    simp [skipped,later]

theorem length_renderMore (more : List Param) : more.length ≤ (renderMore more).length := by
  induction more with
  | nil => simp
  | cons param rest ih =>
    simp only [renderMore,List.flatMap_cons,List.length_append,List.length_cons] at ih ⊢
    omega

/-- A list of parameters is read back as it was, whatever the values are. -/
theorem readParams_render (ends : nameChar '=' = false) {params : List Param}
    (present : params ≠ []) (named : ∀ param ∈ params, IsName nameChar param.1) :
    readParams nameChar (renderParams params) = some params := by
  cases params with
  | nil => exact absurd rfl present
  | cons first more =>
    apply readList_render ends named
    have length := length_renderMore more
    simp only [renderParams,renderParam,List.length_append,List.length_cons]
    omega

end QuotedParams
