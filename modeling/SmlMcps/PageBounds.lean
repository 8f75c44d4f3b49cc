import SmlMcps.TaskWalk

/-! Page computation on machine integers. The end of a page is the sum of an offset that
comes from the client and a limit that comes from the configuration, and nothing keeps the
sum in range: where it leaves it, a checked build stops at the addition and an unchecked
one at the slice. Elsewhere the computation is the one on natural numbers. -/
namespace SmlMcps

inductive Panic where
  | addOverflow
  | sliceOrder (start finish : Nat)
  | sliceEnd (finish length : Nat)
  deriving DecidableEq, Repr

/-- `usize` addition, in a build that checks for overflow and in one that wraps. -/
def addUsize (checked : Bool) (left right : Nat) : Except Panic Nat :=
  if left + right < 2^64 then .ok (left + right)
  else if checked then .error .addOverflow
  else .ok ((left + right) % 2^64)

/-- `items[start..finish].to_vec()`. -/
def sliceOf (items : List α) (start finish : Nat) : Except Panic (List α) :=
  if finish < start then .error (.sliceOrder start finish)
  else if items.length < finish then .error (.sliceEnd finish items.length)
  else .ok ((items.take finish).drop start)

section
variable (checked : Bool) (codec : CursorCodec)

def PageState.nextCursorIn (state : PageState) (totalItems returnedCount : Nat) :
    Except Panic (Option String) := do
  let nextOffset ← addUsize checked state.offset returnedCount
  return if nextOffset < totalItems then some (PageState.encodeCursor codec nextOffset) else none

def paginateIn (items : List α) (state : PageState) :
    Except Panic (Except McpError (List α × Option String)) :=
  let total := items.length
  if 0 < state.offset ∧ total ≤ state.offset then
    return .error (.invalidParams ("Invalid cursor: no item at offset " ++ toString state.offset))
  else if total ≤ state.offset then return .ok ([],none)
  else do
    let sum ← addUsize checked state.offset state.limit
    let page ← sliceOf items state.offset (min sum total)
    let next ← state.nextCursorIn checked codec total page.length
    return .ok (page,next)

/-- The page a list operation computes for a cursor. -/
def pageFor (items : List α) (cursor : Option String) (pageSize : Nat) :
    Except Panic (Except McpError (List α × Option String)) :=
  match PageState.fromCursor codec cursor pageSize with
  | .error e => return .error e
  | .ok state => paginateIn checked codec items state

end

section
variable {α : Type} {checked : Bool} {codec : CursorCodec} {items : List α} {state : PageState}

theorem addUsize_small {left right : Nat} (small : left + right < 2^64) :
    addUsize checked left right = .ok (left + right) := if_pos small

theorem sliceOf_page (within : state.offset < items.length) :
    sliceOf items state.offset (min (state.offset + state.limit) items.length) =
      .ok ((items.drop state.offset).take state.limit) := by
  rw [sliceOf,if_neg (by omega),if_neg (by omega),List.drop_take]
  congr 1
  apply List.take_eq_take_iff.mpr
  rw [List.length_drop]
  omega

/-- Where the end of the page is in range, the computation is the one on natural
numbers. -/
theorem paginateIn_eq (short : items.length < 2^64)
    (fits : state.offset < items.length → state.offset + state.limit < 2^64) :
    paginateIn checked codec items state = .ok (paginate codec items state) := by
  simp only [paginateIn,paginate]
  by_cases past : 0 < state.offset ∧ items.length ≤ state.offset
  · rw [if_pos past,if_pos past]
    rfl
  rw [if_neg past,if_neg past]
  by_cases beyond : items.length ≤ state.offset
  · rw [if_pos beyond,if_pos beyond]
    rfl
  rw [if_neg beyond,if_neg beyond]
  have within : state.offset < items.length := by omega
  have page := @sliceOf_page _ items state within
  have shown : state.offset + ((items.drop state.offset).take state.limit).length < 2^64 := by
    rw [List.length_take,List.length_drop]
    omega
  simp only [bind,Except.bind,addUsize_small (fits within),page,PageState.nextCursorIn,
    addUsize_small shown]
  rfl

/-- Where it is not, every build stops: a checked one at the sum, another at a slice whose
end is before its start. -/
theorem paginateIn_panics (within : state.offset < items.length) (limit : state.limit < 2^64)
    (exceeded : 2^64 ≤ state.offset + state.limit) :
    ∃ panic, paginateIn checked codec items state = .error panic := by
  have past : ¬(0 < state.offset ∧ items.length ≤ state.offset) := by omega
  have beyond : ¬items.length ≤ state.offset := by omega
  simp only [paginateIn]
  rw [if_neg past,if_neg beyond]
  cases checked with
  | true =>
    refine ⟨.addOverflow,?_⟩
    simp only [addUsize,Nat.not_lt.mpr exceeded,if_false,if_true]
    rfl
  | false =>
    have before : min ((state.offset + state.limit) % 2^64) items.length < state.offset := by
      omega
    refine ⟨.sliceOrder state.offset (min ((state.offset + state.limit) % 2^64) items.length),?_⟩
    simp only [addUsize,Nat.not_lt.mpr exceeded,if_false,Bool.false_eq_true,bind,Except.bind,sliceOf,
      before,if_true]

/-- A page computation that ends, with an error for the cursor or with a page within the
list. -/
def Safe (items : List α) (computed : Except Panic (Except McpError (List α × Option String))) :
    Prop :=
  ∃ answer, computed = .ok answer ∧ ∀ page next, answer = .ok (page,next) → page <:+: items

/-- The offset of an accepted cursor; a list operation without one starts at zero. -/
def offsetOf (codec : CursorCodec) : Option String → Option Nat
  | none => some 0
  | some cursor => PageState.decodeCursor codec cursor

theorem paginate_within {page : List α} {next : Option String}
    (ok : paginate codec items state = .ok (page,next)) : page <:+: items := by
  obtain ⟨rfl,-⟩ := paginate_ok ok
  exact (List.take_prefix _ _).isInfix.trans (List.drop_suffix _ _).isInfix

theorem paginateIn_safe_iff (checked : Bool) (codec : CursorCodec) (short : items.length < 2^64)
    (limit : state.limit < 2^64) : Safe items (paginateIn checked codec items state) ↔
      (state.offset < items.length → state.offset + state.limit < 2^64) := by
  constructor
  · rintro ⟨answer,computed,-⟩ within
    by_contra exceeded
    obtain ⟨panic,stopped⟩ := @paginateIn_panics _ checked codec items state within limit (by omega)
    rw [stopped] at computed
    cases computed
  · intro fits
    exact ⟨_,paginateIn_eq short fits,fun page next ok => paginate_within ok⟩

theorem pageFor_at {cursor : Option String} {offset : Nat}
    (read : offsetOf codec cursor = some offset) (pageSize : Nat) :
    pageFor checked codec items cursor pageSize =
      paginateIn checked codec items (PageState.startingAt offset pageSize) := by
  cases cursor with
  | none =>
    cases read
    rfl
  | some cursor =>
    simp only [offsetOf] at read
    simp only [pageFor,PageState.fromCursor,read]

/-- In every build, for every cursor, page size and list: the page is computed without a
panic, as an error for the cursor or within the list, exactly if the cursor is not one for
an offset inside the list from which the page size leads out of the machine's range. -/
theorem page_safe_iff (checked : Bool) (codec : CursorCodec) (items : List α)
    (cursor : Option String) {pageSize : Nat} (size : pageSize < 2^64)
    (short : items.length < 2^64) :
    Safe items (pageFor checked codec items cursor pageSize) ↔
      ∀ offset, offsetOf codec cursor = some offset → offset < items.length →
        offset + max pageSize 1 < 2^64 := by
  cases read : offsetOf codec cursor with
  | none =>
    cases cursor with
    | none => cases read
    | some cursor =>
      simp only [offsetOf] at read
      simp only [pageFor,PageState.fromCursor,read]
      exact iff_of_true ⟨_,rfl,by simp⟩ (by simp)
  | some offset =>
    rw [pageFor_at read]
    have limit : (PageState.startingAt offset pageSize).limit < 2^64 := by
      simp only [PageState.startingAt]
      omega
    rw [paginateIn_safe_iff checked codec short limit]
    simp [PageState.startingAt]

theorem page_safe_iff_second : Safe [0,1] (pageFor true digitCodec [0,1] (some "MQ") 50) ↔
    ∀ offset, offsetOf digitCodec (some "MQ") = some offset → offset < 2 →
      offset + max 50 1 < 2^64 :=
  page_safe_iff true digitCodec [0,1] (some "MQ") (by decide) (by decide)

/-- A page size of `usize::MAX`, and the cursor of the second of two items. -/
theorem second_page_panics : pageFor true digitCodec [0,1] (some "MQ") (2^64 - 1) =
      .error .addOverflow ∧
    pageFor false digitCodec [0,1] (some "MQ") (2^64 - 1) = .error (.sliceOrder 1 0) := by
  decide +kernel

end

end SmlMcps
