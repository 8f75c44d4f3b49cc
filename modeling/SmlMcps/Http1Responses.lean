import Mathlib.Data.List.DropRight
import SmlMcps.Http1Chunked
import SmlMcps.Http1Connection
import SmlMcps.Library.Utf8

/-! What a peer reads of the bytes of a response. The reader knows nothing of how they were
written: it takes lines up to the empty one, cuts each field at its first colon, and takes
the body by the fields. -/
namespace SmlMcps.Http1

/-! ## The reader -/

/-- Lines up to the empty one, and what follows it. There are at most as many as `fuel`. -/
def readLines : (fuel : Nat) → List UInt8 → Option (List (List UInt8) × List UInt8)
  | 0,_ => none
  | fuel + 1,bytes => do
    let (line,rest) ← Marks.splitOnce crlf bytes
    if line = [] then some ([],rest)
    else
      let (lines,rest) ← readLines fuel rest
      some (line :: lines,rest)

def isOws (c : Char) : Bool := c == ' ' || c == '\t'

/-- A field value without the optional whitespace around it. -/
def trimOws (value : String) : String :=
  String.ofList ((value.toList.dropWhile isOws).rdropWhile isOws)

/-- A number in decimal digits. -/
def readDecimal (digits : List Char) : Option Nat :=
  if digits ≠ [] ∧ digits.all Char.isDigit = true then some (Nat.ofDigitChars 10 digits 0)
  else none

/-- The status of a status line: a version, three digits and a reason. -/
def readStatus (line : List UInt8) : Option Nat := do
  let text ← fromUtf8 line
  let (version,rest) ← Marks.splitOnce [' '] text.toList
  let (digits,_) ← Marks.splitOnce [' '] rest
  if (version = "HTTP/1.0".toList ∨ version = "HTTP/1.1".toList) ∧ digits.length = 3 then
    readDecimal digits
  else none

/-- A field, cut at its first colon. -/
def readField (line : List UInt8) : Option (String × String) := do
  let text ← fromUtf8 line
  let (name,value) ← Marks.splitOnce [':'] text.toList
  some (String.ofList name,trimOws (String.ofList value))

/-- A response as it is read. -/
structure ReadResponse where
  status : Nat
  fields : List (String × String)
  body : List UInt8
  deriving DecidableEq

/-- The status says that there is no body. -/
def bodiless (status : Nat) : Prop := status = 204 ∨ status = 304

instance (status : Nat) : Decidable (bodiless status) :=
  inferInstanceAs (Decidable (status = 204 ∨ status = 304))

/-- How many bytes of body follow the head. There is one way to tell: a single length, where
there is a body at all. -/
def bodyLength (method : Method) (status : Nat) (fields : List (String × String)) : Option Nat :=
  if method = .head ∨ bodiless status then some 0
  else if valuesOf fields "Transfer-Encoding" ≠ [] then none
  else
    match valuesOf fields "Content-Length" with
    | [length] => readDecimal length.toList
    | _ => none

/-- A response to a request of this method, and what follows it. -/
def readResponse (method : Method) (bytes : List UInt8) :
    Option (ReadResponse × List UInt8) := do
  let (lines,rest) ← readLines bytes.length bytes
  match lines with
  | [] => none
  | first :: more =>
    let status ← readStatus first
    let fields ← more.mapM readField
    let length ← bodyLength method status fields
    if rest.length < length then none
    else some (⟨status,fields,rest.take length⟩,rest.drop length)

/-! ## Responses as they are made -/

/-- A step of making a response. -/
inductive Step where
  | header (name value : String)
  | body (contentType : String) (body : List UInt8)
  | closing

def Response.step (response : Response) : Step → Response
  | .header name value => response.withHeader name value
  | .body contentType body => response.withBody contentType body
  | .closing => response.closing

/-- The response that steps make. -/
def Response.made (status : Nat) (steps : List Step) : Response :=
  steps.foldl Response.step (Response.new status)

/-- The header a step asks for. -/
def Step.field : Step → Option (String × String)
  | .header name value => some (name,value)
  | .body contentType _ => some ("Content-Type",contentType)
  | .closing => none

/-- The headers that are let in, in order. -/
def accepted (steps : List Step) : List (String × String) :=
  (steps.filterMap Step.field).filter fun field => isFieldValue field.2 && isToken field.1

/-- The body that was set last. -/
def lastBody (steps : List Step) : List UInt8 :=
  steps.foldl (fun body step => match step with
    | .body _ body => body
    | _ => body) []

def connectionValue (keepAlive : Bool) : String := if keepAlive then "keep-alive" else "close"

/-- The fields a connection adds to a response. -/
def framingFields (status length : Nat) (keepAlive : Bool) : List (String × String) :=
  (if bodiless status then [] else [("Content-Length",toString length)]) ++
    [("Connection",connectionValue keepAlive)]

/-- The names of the fields that a connection writes by itself, or never. -/
def reservedNames : List String := ["Content-Length","Transfer-Encoding","Connection"]

/-- What should be read of a response: the status, the headers let in and the connection's
own fields, and the body where there is one. -/
structure Conveys (method : Method) (status : Nat) (steps : List Step) (keepAlive : Bool)
    (read : ReadResponse) : Prop where
  same : read.status = status
  fields : read.fields = (accepted steps).map (fun field => (field.1,trimOws field.2)) ++
    framingFields status (lastBody steps).length keepAlive
  connection : valuesOf read.fields "Connection" = [connectionValue keepAlive]
  length : valuesOf read.fields "Content-Length" =
    if bodiless status then [] else [toString (lastBody steps).length]
  body : read.body = if method = .head ∨ bodiless status then [] else lastBody steps

variable {lines : List String} {rest : List UInt8} {text name value : String} {status : Nat}
  {steps : List Step} {fuel : Nat}

/-! ## Lines and fields -/

@[simp] theorem asBytes_append (left right : String) :
    asBytes (left ++ right) = asBytes left ++ asBytes right := by
  simp [asBytes]

/-- The bytes of a text without a carriage return have none. -/
theorem cr_notMem (absent : '\r' ∉ text.toList) : cr ∉ asBytes text := by
  intro member
  obtain ⟨c,inside,same⟩ := Utf8.char_of_mem member (by decide)
  obtain rfl : c = '\r' := Char.toNat_inj.mp same
  exact absent inside

/-- A line of a head: it is there, and it has no carriage return. -/
structure HeadLine (line : String) : Prop where
  present : asBytes line ≠ []
  unbroken : cr ∉ asBytes line

theorem readLines_block (heads : ∀ line ∈ lines, HeadLine line) (enough : lines.length < fuel) :
    readLines fuel (lines.flatMap (fun line => asBytes line ++ crlf) ++ crlf ++ rest) =
      some (lines.map asBytes,rest) := by
  induction lines generalizing fuel with
  | nil =>
    obtain ⟨fuel,rfl⟩ : ∃ less, fuel = less + 1 := ⟨fuel - 1,by simp at enough; omega⟩
    have ends : Marks.splitOnce crlf (crlf ++ rest) = some ([],rest) :=
      Marks.splitOnce_first (List.not_mem_nil)
    rw [List.flatMap_nil,List.nil_append,readLines,ends]
    rfl
  | cons line more ih =>
    obtain ⟨fuel,rfl⟩ : ∃ less, fuel = less + 1 := ⟨fuel - 1,by simp at enough; omega⟩
    have head := heads line (by simp)
    have first : Marks.splitOnce crlf (asBytes line ++ crlf ++
        (more.flatMap (fun line => asBytes line ++ crlf) ++ crlf ++ rest)) = some (asBytes line,
          more.flatMap (fun line => asBytes line ++ crlf) ++ crlf ++ rest) :=
      Marks.splitOnce_first head.unbroken
    have later : readLines fuel (more.flatMap (fun line => asBytes line ++ crlf) ++ crlf ++ rest) =
        some (more.map asBytes,rest) :=
      ih (fun other member => heads other (by simp [member])) (by simpa using enough)
    have whole : (line :: more).flatMap (fun line => asBytes line ++ crlf) ++ crlf ++ rest =
        asBytes line ++ crlf ++ (more.flatMap (fun line => asBytes line ++ crlf) ++ crlf ++ rest) := by
      simp
    rw [whole,readLines,first]
    simp only [bind,Option.bind,head.present,if_false,later,List.map_cons]

theorem isDigit_toString (value : Nat) : ∀ c ∈ (toString value).toList, c.isDigit = true := by
  have digits : (toString value).toList = Nat.toDigits 10 value := Nat.toList_repr
  rw [digits]
  exact fun c member => Nat.isDigit_of_mem_toDigits (by omega) (by omega) member

theorem readDecimal_toString (value : Nat) : readDecimal (toString value).toList = some value := by
  have digits : (toString value).toList = Nat.toDigits 10 value := Nat.toList_repr
  rw [readDecimal,if_pos ⟨by simp,List.all_eq_true.mpr (isDigit_toString value)⟩,digits,
    Nat.ofDigitChars_ten_toDigits]

/-- Without blanks in it a value is not trimmed. -/
theorem trimOws_eq_self (plain : ∀ c ∈ value.toList, isOws c = false) :
    trimOws value = value := by
  have front : value.toList.dropWhile isOws = value.toList := by
    cases text : value.toList with
    | nil => rfl
    | cons c more =>
      have first := plain c (by simp [text])
      simp [first]
  have back : value.toList.rdropWhile isOws = value.toList :=
    List.rdropWhile_eq_self_iff.mpr fun present => by
      rw [plain _ (List.getLast_mem present)]
      exact Bool.false_ne_true
  rw [trimOws,front,back,String.ofList_toList]

/-- A field as it is written. -/
def fieldLine (field : String × String) : String := field.1 ++ ": " ++ field.2

theorem readField_fieldLine (colon : ':' ∉ name.toList) :
    readField (asBytes (fieldLine (name,value))) = some (name,trimOws value) := by
  have text : (fieldLine (name,value)).toList = name.toList ++ ':' :: ' ' :: value.toList := by
    simp [fieldLine]
  have cut : Marks.splitOnce [':'] (fieldLine (name,value)).toList =
      some (name.toList,' ' :: value.toList) := by
    rw [text]
    exact Marks.splitOnce_mark colon
  have blank : trimOws (String.ofList (' ' :: value.toList)) = trimOws value := by
    simp [trimOws,isOws]
  rw [readField,fromUtf8_asBytes]
  simp only [bind,Option.bind,cut,String.ofList_toList,blank]

/-- A status line as it is written. -/
def statusLine (version : Version) (status : Nat) : String :=
  version.text ++ " " ++ toString status ++ " " ++ reasonPhrase status

theorem readStatus_statusLine (version : Version) (three : 100 ≤ status ∧ status ≤ 999) :
    readStatus (asBytes (statusLine version status)) = some status := by
  have digits : (toString status).toList = Nat.toDigits 10 status := Nat.toList_repr
  have width : (toString status).toList.length = 3 := by
    rw [digits]
    have most := (Nat.length_toDigits_le_iff (n := status) (k := 3) (b := 10) (by omega)
      (by omega)).mpr (by omega)
    have least := mt (Nat.length_toDigits_le_iff (n := status) (k := 2) (b := 10) (by omega)
      (by omega)).mp (by omega)
    omega
  have plain : ' ' ∉ (toString status).toList := by
    intro member
    cases isDigit_toString status _ member
  have text : (statusLine version status).toList = version.text.toList ++ ' ' ::
      ((toString status).toList ++ ' ' :: (reasonPhrase status).toList) := by
    simp [statusLine]
  have known : version.text.toList = "HTTP/1.0".toList ∨
      version.text.toList = "HTTP/1.1".toList := by
    cases version
    · exact .inl rfl
    · exact .inr rfl
  have unspaced : ' ' ∉ version.text.toList := by cases version <;> decide
  have first : Marks.splitOnce [' '] (statusLine version status).toList = some
      (version.text.toList,(toString status).toList ++ ' ' :: (reasonPhrase status).toList) := by
    rw [text]
    exact Marks.splitOnce_mark unspaced
  have second : Marks.splitOnce [' '] ((toString status).toList ++
      ' ' :: (reasonPhrase status).toList) =
        some ((toString status).toList,(reasonPhrase status).toList) :=
    Marks.splitOnce_mark plain
  rw [readStatus,fromUtf8_asBytes]
  simp only [bind,Option.bind,first,second,width]
  rw [if_pos ⟨known,trivial⟩,readDecimal_toString]

/-! ## What is rendered -/

/-- A head is its lines and an empty one. -/
theorem render_eq (method : Method) (version : Version) (response : Response) (keepAlive : Bool) :
    render method version response keepAlive =
      (statusLine version response.status :: (response.headers ++
        framingFields response.status response.body.length keepAlive).map fieldLine).flatMap
          (fun line => asBytes line ++ crlf) ++ crlf ++
        if method = .head ∨ bodiless response.status then [] else response.body := by
  have newline : asBytes "\r\n" = crlf := rfl
  have connection : asBytes (if keepAlive then "Connection: keep-alive\r\n"
      else "Connection: close\r\n") =
        asBytes (fieldLine ("Connection",connectionValue keepAlive)) ++ crlf := by
    cases keepAlive <;> rfl
  have headers (written : String × String → List UInt8)
      (lines : ∀ field, written field = asBytes (fieldLine field) ++ crlf) :
      response.headers.flatMap written =
        (response.headers.map fieldLine).flatMap fun line => asBytes line ++ crlf := by
    rw [List.flatMap_map]
    exact congrArg (List.flatMap · response.headers) (funext lines)
  rw [render,connection,headers]
  swap
  · intro field
    simp [fieldLine,newline]
  by_cases empty : bodiless response.status
  · have empty' : (response.status == 204 || response.status == 304) = true := by
      simpa [bodiless] using empty
    simp [empty,empty',framingFields,statusLine,newline]
  · have empty' : (response.status == 204 || response.status == 304) = false := by
      simpa [bodiless,not_or] using empty
    by_cases head : method = .head
    · simp [empty,empty',framingFields,statusLine,newline,fieldLine,head]
    · simp [empty,empty',framingFields,statusLine,newline,fieldLine,head]

/-! ## What steps make -/

theorem withHeader_eq (response : Response) (name value : String) :
    (response.withHeader name value).status = response.status ∧
      (response.withHeader name value).body = response.body ∧
      (response.withHeader name value).headers = response.headers ++
        [(name,value)].filter fun field => isFieldValue field.2 && isToken field.1 := by
  rw [Response.withHeader]
  split <;> rename_i fit <;> simp [fit]

theorem made_eq (status : Nat) (steps : List Step) : (Response.made status steps).status = status ∧
    (Response.made status steps).headers = accepted steps ∧
    (Response.made status steps).body = lastBody steps := by
  induction steps using List.reverseRecOn with
  | nil => exact ⟨rfl,rfl,rfl⟩
  | append_singleton steps last ih =>
    have made : Response.made status (steps ++ [last]) = (Response.made status steps).step last := by
      simp [Response.made]
    have headers : accepted (steps ++ [last]) = accepted steps ++
        last.field.toList.filter fun field => isFieldValue field.2 && isToken field.1 := by
      cases field : last.field <;> simp [accepted,field]
    have kept : lastBody (steps ++ [last]) = match last with
        | .body _ body => body
        | _ => lastBody steps := by
      simp [lastBody]
    rw [made,headers,kept,← ih.2.1,← ih.2.2]
    cases last with
    | header name value =>
      obtain ⟨same,body,added⟩ := withHeader_eq (Response.made status steps) name value
      exact ⟨same.trans ih.1,added,body⟩
    | body contentType body =>
      obtain ⟨same,set,added⟩ := withHeader_eq { Response.made status steps with body }
        "Content-Type" contentType
      exact ⟨same.trans ih.1,added,set⟩
    | closing => exact ⟨ih.1,by simp [Response.step,Response.closing,Step.field],rfl⟩

/-! ## The response read back -/

/-- A header that was let in makes a line of its own. -/
theorem fieldLine_headLine (name value : String)
    (fit : (isFieldValue value && isToken name) = true) :
    HeadLine (fieldLine (name,value)) ∧ ':' ∉ name.toList := by
  obtain ⟨plain,token⟩ := Bool.and_eq_true_iff.mp fit
  obtain ⟨present,letters⟩ := Bool.and_eq_true_iff.mp token
  have colon : ':' ∉ name.toList := fun member => by
    have letter := List.all_eq_true.mp letters _ member
    exact absurd letter (by decide)
  have unbroken : '\r' ∉ (fieldLine (name,value)).toList := by
    simp only [fieldLine,String.toList_append,List.mem_append,not_or]
    refine ⟨⟨fun member => ?_,by decide⟩,fun member => ?_⟩
    · exact absurd (List.all_eq_true.mp letters _ member) (by decide)
    · exact absurd (List.all_eq_true.mp plain _ member) (by decide)
  refine ⟨⟨?_,cr_notMem unbroken⟩,colon⟩
  rw [fieldLine,asBytes_append,asBytes_append]
  intro empty
  simp only [List.append_eq_nil_iff] at empty
  exact absurd empty.1.2 (by decide)

theorem isFieldValue_toString (value : Nat) : isFieldValue (toString value) = true := by
  apply List.all_eq_true.mpr
  intro c member
  have digit := isDigit_toString value c member
  simp only [Char.isDigit,Bool.and_eq_true,decide_eq_true_eq,ge_iff_le,
    UInt32.le_iff_toNat_le] at digit
  have zero : '0'.val.toNat = 48 := rfl
  have code : c.toNat = c.val.toNat := rfl
  simp only [Bool.or_eq_true,decide_eq_true_eq]
  right
  omega

theorem framingFields_headLine {length : Nat} {keepAlive : Bool}
    {field : String × String} (member : field ∈ framingFields status length keepAlive) :
    HeadLine (fieldLine field) ∧ ':' ∉ field.1.toList ∧ trimOws field.2 = field.2 := by
  have numeral : trimOws (toString length) = toString length := by
    apply trimOws_eq_self
    intro c member
    by_contra blank
    simp only [isOws,Bool.not_eq_false,Bool.or_eq_true,beq_iff_eq] at blank
    rcases blank with rfl | rfl
    · cases isDigit_toString length _ member
    · cases isDigit_toString length _ member
  simp only [framingFields,List.mem_append,List.mem_singleton] at member
  rcases member with member | rfl
  · split at member
    · cases member
    · obtain rfl := List.mem_singleton.mp member
      have named : isToken "Content-Length" = true := by decide
      have line := fieldLine_headLine "Content-Length" (toString length)
        (by rw [isFieldValue_toString,named]; rfl)
      exact ⟨line.1,line.2,numeral⟩
  · have line := fieldLine_headLine "Connection" (connectionValue keepAlive)
      (by cases keepAlive <;> decide)
    exact ⟨line.1,line.2,by cases keepAlive <;> decide⟩

theorem statusLine_headLine (version : Version) (status : Nat) :
    HeadLine (statusLine version status) := by
  have plain : '\r' ∉ (toString status).toList := by
    intro member
    cases isDigit_toString status _ member
  have reason : '\r' ∉ (reasonPhrase status).toList := by
    unfold reasonPhrase
    split <;> decide
  have unbroken : '\r' ∉ (statusLine version status).toList := by
    simp only [statusLine,String.toList_append,List.mem_append,not_or]
    refine ⟨⟨⟨⟨by cases version <;> decide,by decide⟩,plain⟩,by decide⟩,reason⟩
  refine ⟨?_,cr_notMem unbroken⟩
  simp only [statusLine,asBytes_append,ne_eq,List.append_eq_nil_iff,not_and]
  intro empty
  exact absurd empty.1.1.2 (by decide)

theorem mapM_readField {fields : List (String × String)}
    (colons : ∀ field ∈ fields, ':' ∉ field.1.toList) :
    (fields.map fun field => asBytes (fieldLine field)).mapM readField =
      some (fields.map fun field => (field.1,trimOws field.2)) := by
  induction fields with
  | nil => rfl
  | cons field more ih =>
    obtain ⟨name,value⟩ := field
    have first : readField (asBytes (fieldLine (name,value))) = some (name,trimOws value) :=
      readField_fieldLine (colons (name,value) (by simp))
    simp [first,ih fun other member => colons other (by simp [member])]

theorem valuesOf_append (front back : List (String × String)) (name : String) :
    valuesOf (front ++ back) name = valuesOf front name ++ valuesOf back name := by
  simp [valuesOf]

/-- No header of the caller's has a reserved name. -/
theorem valuesOf_accepted (free : ∀ name value, Step.header name value ∈ steps →
    ∀ reserved ∈ reservedNames, eqIgnoreAsciiCase name reserved = false) {reserved : String}
    (member : reserved ∈ reservedNames) :
    valuesOf ((accepted steps).map fun field => (field.1,trimOws field.2)) reserved = [] := by
  have apart : ∀ field ∈ accepted steps, eqIgnoreAsciiCase field.1 reserved = false := by
    intro field inside
    obtain ⟨step,taken,asks⟩ := List.mem_filterMap.mp (List.mem_of_mem_filter inside)
    cases step with
    | header name value =>
      cases asks
      exact free name value taken reserved member
    | body contentType body =>
      cases asks
      have others : reservedNames.all (fun reserved =>
        !eqIgnoreAsciiCase "Content-Type" reserved) = true := by decide
      simpa using List.all_eq_true.mp others reserved member
    | closing => cases asks
  rw [valuesOf,List.map_eq_nil_iff,List.filter_eq_nil_iff]
  intro field inside
  obtain ⟨given,held,rfl⟩ := List.mem_map.mp inside
  simp [apart given held]

theorem valuesOf_framing (status length : Nat) (keepAlive : Bool) :
    valuesOf (framingFields status length keepAlive) "Connection" = [connectionValue keepAlive] ∧
      valuesOf (framingFields status length keepAlive) "Transfer-Encoding" = [] ∧
      valuesOf (framingFields status length keepAlive) "Content-Length" =
        if bodiless status then [] else [toString length] := by
  have one : eqIgnoreAsciiCase "Content-Length" "Connection" = false := by decide
  have two : eqIgnoreAsciiCase "Connection" "Connection" = true := by decide
  have three : eqIgnoreAsciiCase "Content-Length" "Transfer-Encoding" = false := by decide
  have four : eqIgnoreAsciiCase "Connection" "Transfer-Encoding" = false := by decide
  have five : eqIgnoreAsciiCase "Content-Length" "Content-Length" = true := by decide
  have six : eqIgnoreAsciiCase "Connection" "Content-Length" = false := by decide
  by_cases empty : bodiless status
  · simp [valuesOf,framingFields,empty,two,four,six]
  · simp [valuesOf,framingFields,empty,one,two,three,four,five,six]

theorem length_block (lines : List String) :
    lines.length ≤ (lines.flatMap fun line => asBytes line ++ crlf).length := by
  induction lines with
  | nil => simp
  | cons line more ih =>
    simp only [List.flatMap_cons,List.length_append,List.length_cons,crlf,List.length_nil] at ih ⊢
    omega

/-- What follows a head is divided by the length the head tells. -/
theorem readResponse_block {method : Method} {version : Version}
    {fields : List (String × String)} {body : List UInt8} (three : 100 ≤ status ∧ status ≤ 999)
    (heads : ∀ field ∈ fields, HeadLine (fieldLine field) ∧ ':' ∉ field.1.toList)
    (told : bodyLength method status (fields.map fun field => (field.1,trimOws field.2)) =
      some body.length) (rest : List UInt8) :
    readResponse method (((statusLine version status :: fields.map fieldLine).flatMap
        fun line => asBytes line ++ crlf) ++ crlf ++ body ++ rest) =
      some (⟨status,fields.map fun field => (field.1,trimOws field.2),body⟩,rest) := by
  have lines : ∀ line ∈ statusLine version status :: fields.map fieldLine, HeadLine line := by
    intro line member
    rcases List.mem_cons.mp member with rfl | member
    · exact statusLine_headLine version status
    · obtain ⟨field,inside,rfl⟩ := List.mem_map.mp member
      exact (heads field inside).1
  have enough := length_block (statusLine version status :: fields.map fieldLine)
  rw [List.append_assoc _ body rest,readResponse,readLines_block lines (by
    simp only [List.length_append,crlf,List.length_cons,List.length_nil] at enough ⊢
    omega)]
  have fields' := mapM_readField fun field member => (heads field member).2
  simp only [bind,Option.bind,List.map_cons,List.map_map,Function.comp_def,
    readStatus_statusLine version three,fields',told]
  simp

/-- The bytes of a response are read as that response and nothing else: its status, the
headers that were let in, one length and one connection field, and its body. What follows
the bytes is left. -/
theorem readResponse_render {status : Nat} {steps : List Step}
    (range : 200 ≤ status ∧ status ≤ 599)
    (free : ∀ name value, Step.header name value ∈ steps →
      ∀ reserved ∈ reservedNames, eqIgnoreAsciiCase name reserved = false)
    (method : Method) (version : Version) (keepAlive : Bool) (rest : List UInt8) :
    ∃ read, readResponse method
        (render method version (Response.made status steps) keepAlive ++ rest) =
          some (read,rest) ∧ Conveys method status steps keepAlive read := by
  obtain ⟨same,headers,body⟩ := made_eq status steps
  have heads : ∀ field ∈ accepted steps ++ framingFields status (lastBody steps).length keepAlive,
      HeadLine (fieldLine field) ∧ ':' ∉ field.1.toList := by
    intro field member
    rcases List.mem_append.mp member with member | member
    · exact fieldLine_headLine field.1 field.2 (List.mem_filter.mp member).2
    · exact ⟨(framingFields_headLine member).1,(framingFields_headLine member).2.1⟩
  have fields : (accepted steps ++ framingFields status (lastBody steps).length keepAlive).map
      (fun field => (field.1,trimOws field.2)) =
        (accepted steps).map (fun field => (field.1,trimOws field.2)) ++
          framingFields status (lastBody steps).length keepAlive := by
    rw [List.map_append,List.append_cancel_left_eq]
    conv_rhs => rw [← List.map_id (framingFields _ _ _)]
    apply List.map_congr_left
    intro field member
    rw [(framingFields_headLine member).2.2]
    rfl
  obtain ⟨connection,coding,length⟩ :=
    valuesOf_framing status (lastBody steps).length keepAlive
  have told : bodyLength method status ((accepted steps ++ framingFields status
      (lastBody steps).length keepAlive).map fun field => (field.1,trimOws field.2)) =
        some (if method = .head ∨ bodiless status then [] else lastBody steps).length := by
    rw [fields,bodyLength,valuesOf_append,valuesOf_append,coding,length,
      valuesOf_accepted free (by decide),valuesOf_accepted free (by decide)]
    by_cases none : method = .head ∨ bodiless status
    · rw [if_pos none,if_pos none]
      rfl
    · have full : ¬ bodiless status := fun empty => none (.inr empty)
      rw [if_neg none,if_neg none,if_neg full]
      exact readDecimal_toString _
  refine ⟨⟨status,(accepted steps ++ framingFields status (lastBody steps).length keepAlive).map
    fun field => (field.1,trimOws field.2),
      if method = .head ∨ bodiless status then [] else lastBody steps⟩,?_,?_⟩
  · rw [render_eq,same,headers,body]
    exact readResponse_block (by omega) heads told rest
  · rw [fields]
    refine ⟨rfl,rfl,?_,?_,rfl⟩
    · rw [valuesOf_append,connection,valuesOf_accepted free (by decide),List.nil_append]
    · rw [valuesOf_append,length,valuesOf_accepted free (by decide),List.nil_append]

theorem readResponse_render_example : ∃ read, readResponse .get
    (render .get .http11 (Response.made 200 [.header "X" " a ",.body "text/plain" [104]]) true ++
      [72]) = some (read,[72]) ∧
        Conveys .get 200 [.header "X" " a ",.body "text/plain" [104]] true read := by
  apply readResponse_render (by decide)
  intro name value member reserved held
  simp only [List.mem_cons,Step.header.injEq,List.not_mem_nil,or_false,reduceCtorEq] at member
  obtain ⟨rfl,-⟩ := member
  have others : reservedNames.all (fun reserved => !eqIgnoreAsciiCase "X" reserved) = true := by
    decide
  simpa using List.all_eq_true.mp others reserved held

end SmlMcps.Http1
