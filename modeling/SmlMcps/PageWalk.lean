import SmlMcps.PageBounds

/-! A client that follows the cursors. As long as no page's end leaves the machine's range,
the pages from an accepted cursor are the rest of the list, cut into pieces, and there is
a last one. -/
namespace SmlMcps

inductive WalkEnd where
  | done
  | refused (e : McpError)
  | stopped (panic : Panic)
  | unfinished (cursor : Option String)
  deriving DecidableEq

/-- The pages of at most `rounds` requests, each with the cursor of the answer before. -/
def follow (checked : Bool) (codec : CursorCodec) (items : List α) (pageSize : Nat) :
    (rounds : Nat) → Option String → List (List α) × WalkEnd
  | 0, cursor => ([],.unfinished cursor)
  | rounds + 1, cursor =>
    match pageFor checked codec items cursor pageSize with
    | .error panic => ([],.stopped panic)
    | .ok (.error e) => ([],.refused e)
    | .ok (.ok (page,none)) => ([page],.done)
    | .ok (.ok (page,some next)) =>
      let (pages,ended) := follow checked codec items pageSize rounds (some next)
      (page :: pages,ended)

/-- No page of a walk from `start` ends out of the machine's range. -/
def FitsFrom (total pageSize start : Nat) : Prop :=
  ∀ round, start + round * max pageSize 1 < total → start + (round + 1) * max pageSize 1 < 2^64

section
variable {α : Type} {checked : Bool} {codec : CursorCodec} {items : List α} {pageSize : Nat}
  {start : Nat} {cursor : Option String}

theorem FitsFrom.first (fits : FitsFrom items.length pageSize start) :
    start < items.length → start + max pageSize 1 < 2^64 := fun within => by
  simpa using fits 0 (by simpa using within)

theorem FitsFrom.next (fits : FitsFrom items.length pageSize start) :
    FitsFrom items.length pageSize (start + max pageSize 1) := fun round within => by
  have further := fits (round + 1)
  simp only [Nat.add_mul,Nat.one_mul] at further ⊢
  omega

theorem decodeCursor_issued (roundTrips : codec.RoundTrips) {offset : Nat}
    (small : offset < 2^64) :
    PageState.decodeCursor codec (PageState.encodeCursor codec offset) = some offset := by
  rw [PageState.decodeCursor,PageState.encodeCursor,roundTrips,Option.bind_some,
    Nat.toString_eq_repr,Nat.toList_repr,parseUnsigned_toDigits small]

theorem paginate_page {state : PageState} (within : state.offset < items.length) :
    paginate codec items state = .ok ((items.drop state.offset).take state.limit,
      if state.offset + state.limit < items.length
        then some (PageState.encodeCursor codec (state.offset + state.limit)) else none) := by
  have beyond : ¬items.length ≤ state.offset := by omega
  simp only [paginate,beyond,and_false,if_false,PageState.nextCursor,List.length_take,List.length_drop]
  by_cases more : state.offset + state.limit < items.length
  · have whole : min state.limit (items.length - state.offset) = state.limit := by omega
    rw [whole]
  · have ends : ¬state.offset + min state.limit (items.length - state.offset) < items.length := by
      omega
    rw [if_neg ends,if_neg more]

theorem pageFor_within (short : items.length < 2^64) (read : offsetOf codec cursor = some start)
    (within : start < items.length) (fits : start + max pageSize 1 < 2^64) :
    pageFor checked codec items cursor pageSize =
      .ok (.ok ((items.drop start).take (max pageSize 1),
        if start + max pageSize 1 < items.length
          then some (PageState.encodeCursor codec (start + max pageSize 1)) else none)) := by
  have page := @paginate_page _ codec items (PageState.startingAt start pageSize) within
  rw [pageFor_at read,paginateIn_eq short fun _ => fits,page]
  rfl

/-- From an accepted offset: the walk ends, and its pages are the rest of the list. -/
theorem follow_from (roundTrips : codec.RoundTrips) (short : items.length < 2^64)
    (read : offsetOf codec cursor = some start) (accepted : start = 0 ∨ start < items.length)
    (fits : FitsFrom items.length pageSize start) :
    ∃ pages, (∀ rounds, items.length - start < rounds →
        follow checked codec items pageSize rounds cursor = (pages,.done)) ∧
      pages.flatten = items.drop start := by
  induction left : items.length - start using Nat.strong_induction_on generalizing start cursor with
  | h left ih =>
    by_cases within : start < items.length
    · have page := @pageFor_within _ checked _ _ _ _ _ short read within (fits.first within)
      by_cases more : start + max pageSize 1 < items.length
      · rw [if_pos more] at page
        have again : offsetOf codec (some (PageState.encodeCursor codec
            (start + max pageSize 1))) = some (start + max pageSize 1) :=
          decodeCursor_issued roundTrips (by omega)
        obtain ⟨pages,walked,rest⟩ := ih _ (by omega) again (.inr more) fits.next rfl
        refine ⟨(items.drop start).take (max pageSize 1) :: pages,fun rounds enough => ?_,?_⟩
        · obtain ⟨rounds,rfl⟩ : ∃ before, rounds = before + 1 := ⟨rounds - 1,by omega⟩
          simp only [follow,page,walked rounds (by omega)]
        · rw [List.flatten_cons,rest,← List.drop_drop,List.take_append_drop]
      · rw [if_neg more] at page
        refine ⟨[(items.drop start).take (max pageSize 1)],fun rounds enough => ?_,?_⟩
        · obtain ⟨rounds,rfl⟩ : ∃ before, rounds = before + 1 := ⟨rounds - 1,by omega⟩
          simp only [follow,page]
        · rw [List.flatten_singleton,List.take_of_length_le]
          rw [List.length_drop]
          omega
    · obtain rfl : start = 0 := accepted.resolve_right within
      obtain rfl : items = [] := List.length_eq_zero_iff.mp (by omega)
      refine ⟨[[]],fun rounds enough => ?_,rfl⟩
      obtain ⟨rounds,rfl⟩ : ∃ before, rounds = before + 1 := ⟨rounds - 1,by omega⟩
      have page : pageFor checked codec ([] : List α) cursor pageSize = .ok (.ok ([],none)) :=
        pageFor_at read pageSize
      simp only [follow,page]

/-- A cursor that is answered with a page is one for an offset inside the list, or at its
start. -/
theorem accepted_offset {page : List α} {next : Option String}
    (accepted : pageFor checked codec items cursor pageSize = .ok (.ok (page,next))) :
    ∃ start, offsetOf codec cursor = some start ∧ (start = 0 ∨ start < items.length) := by
  cases read : offsetOf codec cursor with
  | none =>
    cases cursor with
    | none => cases read
    | some cursor =>
      simp only [offsetOf] at read
      simp only [pageFor,PageState.fromCursor,read] at accepted
      cases accepted
  | some start =>
    refine ⟨start,rfl,?_⟩
    by_contra outside
    have past : 0 < (PageState.startingAt start pageSize).offset ∧
        items.length ≤ (PageState.startingAt start pageSize).offset := by
      simp only [PageState.startingAt]
      omega
    rw [pageFor_at read] at accepted
    simp only [paginateIn,past,and_self,if_true] at accepted
    cases accepted

theorem issued_offset (roundTrips : codec.RoundTrips) (short : items.length < 2^64)
    (size : max pageSize 1 < 2^64) {page : List α} {issued : String}
    (accepted : pageFor checked codec items cursor pageSize = .ok (.ok (page,some issued))) :
    ∃ offset, PageState.decodeCursor codec issued = some offset ∧ offset < items.length := by
  obtain ⟨start,read,inside⟩ := accepted_offset accepted
  by_cases within : start < items.length
  · have fits : start + max pageSize 1 < 2^64 := by
      by_contra exceeded
      rw [pageFor_at read] at accepted
      obtain ⟨panic,stopped⟩ := @paginateIn_panics _ checked codec items
        (PageState.startingAt start pageSize) within size (Nat.not_lt.mp exceeded)
      rw [stopped] at accepted
      cases accepted
    rw [pageFor_within short read within fits] at accepted
    simp only [Except.ok.injEq,Prod.mk.injEq] at accepted
    by_cases more : start + max pageSize 1 < items.length
    · rw [if_pos more,Option.some.injEq] at accepted
      rw [← accepted.2]
      exact ⟨_,decodeCursor_issued roundTrips fits,more⟩
    · rw [if_neg more] at accepted
      cases accepted.2
  · obtain rfl : start = 0 := inside.resolve_right within
    obtain rfl : items = [] := List.length_eq_zero_iff.mp (by omega)
    rw [pageFor_at read] at accepted
    cases accepted

/-- For every list and every page size whose pages stay in range: from no cursor, the pages
are the whole list, and from any accepted one they are the rest of it from the offset it
decodes to, in order and each item once; the walk ends after at most one request for each
item and one more, and every cursor that is issued is accepted. -/
theorem pagination_walk (checked : Bool) (codec : CursorCodec) (items : List α) (pageSize : Nat)
    (roundTrips : codec.RoundTrips) (short : items.length < 2^64) (size : pageSize < 2^64) :
    (FitsFrom items.length pageSize 0 → ∃ pages, pages.flatten = items ∧
      ∀ rounds, items.length < rounds →
        follow checked codec items pageSize rounds none = (pages,.done)) ∧
    (∀ cursor page next, pageFor checked codec items (some cursor) pageSize =
        .ok (.ok (page,next)) →
      ∃ start, PageState.decodeCursor codec cursor = some start ∧
        (FitsFrom items.length pageSize start → ∃ pages, pages.flatten = items.drop start ∧
          ∀ rounds, items.length - start < rounds →
            follow checked codec items pageSize rounds (some cursor) = (pages,.done))) ∧
    ∀ cursor page issued, pageFor checked codec items cursor pageSize =
        .ok (.ok (page,some issued)) →
      ∃ offset, PageState.decodeCursor codec issued = some offset ∧
        (offset + max pageSize 1 < 2^64 → ∃ page next,
          pageFor checked codec items (some issued) pageSize = .ok (.ok (page,next))) := by
  refine ⟨fun fits => ?_,fun cursor page next accepted => ?_,fun cursor page issued accepted => ?_⟩
  · obtain ⟨pages,walked,whole⟩ := follow_from roundTrips short (rfl : offsetOf codec none = some 0)
      (.inl rfl) fits
    exact ⟨pages,whole,walked⟩
  · obtain ⟨start,read,inside⟩ := accepted_offset accepted
    refine ⟨start,read,fun fits => ?_⟩
    obtain ⟨pages,walked,rest⟩ := follow_from roundTrips short read inside fits
    exact ⟨pages,rest,walked⟩
  · obtain ⟨offset,read,inside⟩ := issued_offset roundTrips short (by omega) accepted
    exact ⟨offset,read,fun fits => ⟨_,_,pageFor_within short read inside fits⟩⟩

theorem pagination_walk_three : ∃ pages, pages.flatten = [5,6,7] ∧ ∀ rounds, 3 < rounds →
    follow true digitCodec [5,6,7] 2 rounds none = (pages,.done) :=
  (pagination_walk true digitCodec [5,6,7] 2 digitCodec_roundTrips (by decide) (by decide)).1
    fun round within => by
      simp at within ⊢
      omega

end

end SmlMcps
