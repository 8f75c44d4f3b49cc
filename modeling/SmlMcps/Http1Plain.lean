import SmlMcps.Http1Head
import Mathlib.Data.List.TakeWhile

/-! A parser with the documented grammar: a head ends at the first empty line after the
request line, and its lines are cut at blanks and colons. It answers as the crate does
where a head has no oddities the crate would refuse, and shows that what is assumed of the
crate can be met. -/
namespace SmlMcps.Http1

open Incremental (Status Settled scan scan_positive scan_settled scan_last)

/-- Where a scan for the end of a head is. -/
inductive HeadScan where
  | blank
  | blankCr
  | line
  | lineStart
  | lineCr
  deriving DecidableEq, Repr

/-- The empty line that ends a head is the first after a line that is not empty. -/
def HeadScan.next : HeadScan → UInt8 → Option HeadScan
  | .blank, b => if b = lf then some .blank else if b = cr then some .blankCr else some .line
  | .blankCr, b => if b = lf then some .blank else some .line
  | .line, b => if b = lf then some .lineStart else some .line
  | .lineStart, b => if b = lf then none else if b = cr then some .lineCr else some .line
  | .lineCr, b => if b = lf then none else some .line

theorem HeadScan.next_accepts (s : HeadScan) (b : UInt8) (accepted : s.next b = none) :
    b = lf := by
  by_contra other
  cases s with
  | blank | lineStart =>
    simp only [HeadScan.next,other,if_false] at accepted
    split at accepted <;> cases accepted
  | blankCr | line | lineCr =>
    simp only [HeadScan.next,other,if_false] at accepted
    cases accepted

def plainText (bytes : List UInt8) : String := String.ofList (bytes.map fun b => Char.ofNat b.toNat)

def isBlank (b : UInt8) : Bool := b == 0x20 || b == 9

def plainField (line : List UInt8) : String × List UInt8 :=
  let (name,value) := line.span (· != 0x3a)
  (plainText name,(((value.drop 1).dropWhile isBlank).reverse.dropWhile isBlank).reverse)

def plainVersion (bytes : List UInt8) : Option Nat :=
  if bytes = asBytes "HTTP/1.1" then some 1
  else if bytes = asBytes "HTTP/1.0" then some 0
  else none

/-- What a whole head says. -/
def plainHead (room : Nat) (head : List UInt8) : Except ParseError RawRequest :=
  let lines := ((head.splitOn lf).map fun line => line.filter (· != cr)).dropWhile List.isEmpty
  match lines with
  | [] => .error .token
  | requestLine :: rest =>
    let fields := rest.takeWhile fun line => !line.isEmpty
    if room < fields.length then .error .tooManyHeaders
    else match requestLine.splitOn 0x20 with
      | [method,path,version] =>
        match plainVersion version with
        | some minor => .ok ⟨plainText method,plainText path,minor,fields.map plainField⟩
        | none => .error .version
      | _ => .error .token

def plainParse (room : Nat) (bytes : List UInt8) : Status ParseError RawRequest :=
  match scan HeadScan.next .blank bytes with
  | none => .incomplete
  | some length =>
    match plainHead room (bytes.take length) with
    | .ok raw => .complete length raw
    | .error e => .error e

/-- Up to sixteen hex digits, and an extension after a semicolon. -/
def plainChunkSize (bytes : List UInt8) : Status Unit Nat :=
  let digits := bytes.takeWhile isHexDigit
  let rest := bytes.drop digits.length
  if 16 < digits.length then .error ()
  else if rest = crlf || (rest.head? == some 0x3b && rest.contains lf) then
    .complete bytes.length (hexValue digits)
  else .error ()

def plain : Httparse := ⟨plainParse,plainChunkSize⟩

theorem plainParse_complete {room : Nat} {bytes : List UInt8} {length : Nat} {raw : RawRequest}
    (parsed : plainParse room bytes = .complete length raw) :
    scan HeadScan.next .blank bytes = some length ∧
      plainHead room (bytes.take length) = .ok raw := by
  simp only [plainParse] at parsed
  split at parsed
  · cases parsed
  · rename_i found
    split at parsed
    · rename_i said
      cases parsed
      exact ⟨found,said⟩
    · cases parsed

theorem takeWhile_hex_crlf (line : List UInt8) :
    (line ++ crlf).takeWhile isHexDigit = line.takeWhile isHexDigit := by
  induction line with
  | nil => rfl
  | cons first rest ih => simp only [List.cons_append,List.takeWhile_cons,ih]

theorem plain_documented : plain.Documented where
  settled room := by
    refine ⟨fun parsed => (scan_positive (plainParse_complete parsed).1).2,?_⟩
    intro xs ys length raw parsed agree
    obtain ⟨found,said⟩ := plainParse_complete parsed
    simp only [plain,plainParse,scan_settled found agree,agree,said]
  endsLine parsed := scan_last HeadScan.next_accepts (plainParse_complete parsed).1
  sized := by
    intro line length size answered present
    simp only [plain,plainChunkSize,takeWhile_hex_crlf] at answered
    split at answered
    · cases answered
    split at answered <;> cases answered
    rfl

end SmlMcps.Http1
