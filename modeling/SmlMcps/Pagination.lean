import SmlMcps.JsonRpc

/-! Cursor pagination. A cursor is an offset in decimal, encoded by the codec the
crate is built with; the codec is a parameter, and a decoded cursor that is not
UTF-8 counts as one that does not decode. -/
namespace SmlMcps

/-- The transport encoding of a cursor's text. -/
structure CursorCodec where
  encode : String → String
  decode : String → Option String

/-- The integer parser of the standard library for 64-bit unsigned types: an optional
`+`, at least one digit, and no overflow. -/
def parseUnsigned (text : List Char) : Option Nat :=
  let digits := match text with
    | '+' :: rest => rest
    | other => other
  if digits.isEmpty || !digits.all Char.isDigit then none
  else
    let value := digits.foldl (fun total digit => total * 10 + (digit.toNat - 48)) 0
    if value < 2^64 then some value else none

theorem foldl_digits (digits : List Char) :
    digits.foldl (fun total digit => total * 10 + (digit.toNat - 48)) 0 =
      Nat.ofDigitChars 10 digits 0 := by
  have zero : '0'.toNat = 48 := rfl
  rw [Nat.ofDigitChars_eq_foldl]
  simp only [Nat.mul_comm 10,zero]

/-- Digits alone read as their decimal value, if it is in range. -/
theorem parseUnsigned_of_digits {digits : List Char} (present : digits ≠ [])
    (decimal : ∀ digit ∈ digits, digit.isDigit = true) :
    parseUnsigned digits = if Nat.ofDigitChars 10 digits 0 < 2^64 then
      some (Nat.ofDigitChars 10 digits 0) else none := by
  unfold parseUnsigned
  split
  · exact absurd (decimal '+' (by simp)) (by decide)
  · simp [present,List.all_eq_true.mpr decimal,foldl_digits]

/-- What reads as a number is its digits, perhaps after a plus sign. -/
theorem parseUnsigned_some {text : List Char} {value : Nat} (read : parseUnsigned text = some value) :
    ∃ digits, (text = digits ∨ text = '+' :: digits) ∧ digits ≠ [] ∧
      (∀ digit ∈ digits, digit.isDigit = true) ∧ value = Nat.ofDigitChars 10 digits 0 := by
  have described : ∀ digits : List Char, (if digits.isEmpty || !digits.all Char.isDigit then none
      else
        let total := digits.foldl (fun total digit => total * 10 + (digit.toNat - 48)) 0
        if total < 2^64 then some total else none) = some value →
      digits ≠ [] ∧ (∀ digit ∈ digits, digit.isDigit = true) ∧
        value = Nat.ofDigitChars 10 digits 0 := by
    intro digits found
    rw [foldl_digits] at found
    split at found
    · cases found
    · rename_i fine
      simp only [Bool.or_eq_true,List.isEmpty_iff,Bool.not_eq_true',not_or,Bool.not_eq_false] at fine
      refine ⟨fine.1,List.all_eq_true.mp fine.2,?_⟩
      simp only at found
      split at found
      · exact (Option.some.inj found).symm
      · cases found
  unfold parseUnsigned at read
  split at read
  · rename_i rest
    exact ⟨rest,.inr rfl,described rest read⟩
  · exact ⟨text,.inl rfl,described text read⟩

/-- What a number is rendered as reads back as the number, if it is in range. -/
theorem parseUnsigned_toDigits_eq (value : Nat) :
    parseUnsigned (Nat.toDigits 10 value) = if value < 2^64 then some value else none := by
  have decimal : ∀ digit ∈ Nat.toDigits 10 value, digit.isDigit = true :=
    fun digit member => Nat.isDigit_of_mem_toDigits (by omega) (by omega) member
  rw [parseUnsigned_of_digits Nat.toDigits_ne_nil decimal,Nat.ofDigitChars_ten_toDigits]

theorem parseUnsigned_toDigits {value : Nat} (small : value < 2^64) :
    parseUnsigned (Nat.toDigits 10 value) = some value := by
  rw [parseUnsigned_toDigits_eq,if_pos small]

def defaultPageSize : Nat := 50

structure PageState where
  offset : Nat
  limit : Nat
  deriving DecidableEq, Repr

namespace PageState

/-- A zero page would hand back a cursor to the same offset for ever. -/
def startingAt (offset pageSize : Nat) : PageState := ⟨offset,max pageSize 1⟩

def decodeCursor (codec : CursorCodec) (cursor : String) : Option Nat :=
  (codec.decode cursor).bind fun text => parseUnsigned text.toList

def encodeCursor (codec : CursorCodec) (offset : Nat) : String := codec.encode (toString offset)

def fromCursor (codec : CursorCodec) (cursor : Option String) (pageSize : Nat) :
    Except McpError PageState :=
  match cursor with
  | none => .ok (startingAt 0 pageSize)
  | some cursor =>
    match decodeCursor codec cursor with
    | some offset => .ok (startingAt offset pageSize)
    | none => .error (.invalidParams ("Invalid cursor: " ++ cursor))

def nextCursor (codec : CursorCodec) (state : PageState) (totalItems returnedCount : Nat) :
    Option String :=
  let nextOffset := state.offset + returnedCount
  if nextOffset < totalItems then some (encodeCursor codec nextOffset) else none

end PageState

/-- A page of `items` and the cursor after it. A cursor past the end is refused;
offset zero of an empty list is an empty page. -/
def paginate (codec : CursorCodec) (items : List α) (state : PageState) :
    Except McpError (List α × Option String) :=
  if 0 < state.offset ∧ items.length ≤ state.offset then
    .error (.invalidParams ("Invalid cursor: no item at offset " ++ toString state.offset))
  else if items.length ≤ state.offset then .ok ([],none)
  else
    let page := (items.drop state.offset).take state.limit
    .ok (page,state.nextCursor codec items.length page.length)

end SmlMcps
