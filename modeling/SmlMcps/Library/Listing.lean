import Mathlib.Data.List.Sort
import Mathlib.Data.List.TakeWhile
import Mathlib.Order.Basic

/-! Listings: lists in strictly increasing order of a place. Two listings of the same
things are equal, and who comes first is decided by the places. A position in a listing
can be carried over to a later listing: what was behind it is still behind it exactly
when no more entries have left ahead of it than have joined. -/
namespace Listing

variable {α β : Type} [LinearOrder β]

def Ordered (place : α → β) (items : List α) : Prop :=
  items.Pairwise fun a b => place a < place b

variable {place : α → β}

theorem Ordered.eq_of_mem_iff {first second : List α} (left : Ordered place first)
    (right : Ordered place second) (same : ∀ item, item ∈ first ↔ item ∈ second) :
    first = second := by
  have antisymm : Std.Antisymm fun a b : α => place a < place b :=
    ⟨fun _ _ less greater => absurd (less.trans greater) (lt_irrefl _)⟩
  have irrefl : Std.Irrefl fun a b : α => place a < place b := ⟨fun _ => lt_irrefl _⟩
  exact List.Pairwise.eq_of_mem_iff left right same

theorem sublist_pair_of_mem {a b : α} {items : List α} (here : a ∈ items) (there : b ∈ items)
    (different : a ≠ b) : [a,b].Sublist items ∨ [b,a].Sublist items := by
  obtain ⟨front,back,rfl⟩ := List.append_of_mem here
  rcases List.mem_append.mp there with ahead | behind
  · right
    exact List.Sublist.append (List.singleton_sublist.mpr ahead)
      (List.singleton_sublist.mpr List.mem_cons_self)
  · left
    rcases List.mem_cons.mp behind with same | later
    · exact absurd same.symm different
    · exact ((List.singleton_sublist.mpr later).cons_cons a).trans (List.sublist_append_right _ _)

/-- Of two entries the one with the lesser place comes first. -/
theorem Ordered.sublist_pair_iff {items : List α} (ordered : Ordered place items) {a b : α}
    (here : a ∈ items) (there : b ∈ items) : [a,b].Sublist items ↔ place a < place b := by
  constructor
  · intro ahead
    exact List.pairwise_iff_forall_sublist.mp ordered ahead
  · intro less
    have different : a ≠ b := by
      rintro rfl
      exact lt_irrefl _ less
    rcases sublist_pair_of_mem here there different with ahead | behind
    · exact ahead
    · have greater := List.pairwise_iff_forall_sublist.mp ordered behind
      exact absurd (less.trans greater) (lt_irrefl _)

/-! ## Carrying a position over -/

/-- How many of the first `k` entries are not in the later listing. -/
def leftAhead (k : Nat) (old new : List β) : Nat :=
  ((old.take k).filter fun item => item ∉ new).length

/-- What the later listing has ahead of everything that was behind the position. -/
def ahead (k : Nat) (old new : List β) : List β := new.takeWhile fun item => item ∉ old.drop k

/-- How many of those are new. -/
def joinedAhead (k : Nat) (old new : List β) : Nat :=
  ((ahead k old new).filter fun item => item ∉ old).length

variable {k : Nat} {old new : List β}

theorem ahead_split (shared : ∃ item ∈ old.drop k, item ∈ new) :
    ∃ next rest, new = ahead k old new ++ next :: rest ∧ next ∈ old.drop k := by
  obtain ⟨item,behind,stays⟩ := shared
  have split := @List.takeWhile_append_dropWhile β (fun item => item ∉ old.drop k) new
  have stopped := List.head?_dropWhile_not (fun item => decide (item ∉ old.drop k)) new
  cases rest : new.dropWhile fun item => item ∉ old.drop k with
  | nil =>
    have passed := List.dropWhile_eq_nil_iff.mp rest item stays
    simp [behind] at passed
  | cons next later =>
    rw [rest] at split stopped
    refine ⟨next,later,split.symm,?_⟩
    simpa using stopped

theorem not_mem_drop_of_ahead {item : β} (member : item ∈ ahead k old new) :
    item ∉ old.drop k := by
  simpa using List.mem_takeWhile_imp member

/-- What is ahead and not new are the survivors of the first `k` entries. -/
theorem length_ahead (older : Ordered id old) (newer : Ordered id new)
    (within : k ≤ old.length) (shared : ∃ item ∈ old.drop k, item ∈ new) :
    (ahead k old new).length + leftAhead k old new = k + joinedAhead k old new := by
  obtain ⟨next,rest,split,behind⟩ := ahead_split shared
  have oldDistinct : old.Nodup := older.imp fun less => ne_of_lt less
  have newDistinct : new.Nodup := newer.imp fun less => ne_of_lt less
  have aheadDistinct : (ahead k old new).Nodup := by
    rw [split] at newDistinct
    exact newDistinct.of_append_left
  have ordered : Ordered id (ahead k old new ++ next :: rest) := split ▸ newer
  have oldOrdered : Ordered id (old.take k ++ old.drop k) := by
    rw [List.take_append_drop]
    exact older
  -- The survivors of the first entries are exactly the old ones ahead.
  have survivors : ∀ item, item ∈ (ahead k old new).filter (fun item => item ∈ old) ↔
      item ∈ (old.take k).filter (fun item => item ∈ new) := by
    intro item
    simp only [List.mem_filter,decide_eq_true_eq]
    constructor
    · rintro ⟨front,there⟩
      have kept : item ∈ new := by
        rw [split]
        exact List.mem_append_left _ front
      rw [← List.take_append_drop k old,List.mem_append] at there
      rcases there with first | last
      · exact ⟨first,kept⟩
      · exact absurd last (not_mem_drop_of_ahead front)
    · rintro ⟨first,kept⟩
      have less : item < next := (List.pairwise_append.mp oldOrdered).2.2 item first next behind
      rw [split,List.mem_append] at kept
      refine ⟨?_,List.mem_of_mem_take first⟩
      rcases kept with front | back
      · exact front
      · rcases List.mem_cons.mp back with rfl | later
        · exact absurd less (lt_irrefl _)
        · have greater := (List.pairwise_cons.mp (List.pairwise_append.mp ordered).2.1).1 item later
          exact absurd (less.trans greater) (lt_irrefl _)
  have counted := (List.perm_ext_iff_of_nodup (aheadDistinct.filter fun item => item ∈ old)
    ((oldDistinct.sublist (List.take_sublist k old)).filter fun item => item ∈ new)).mpr
    survivors |>.length_eq
  have aheadParts := List.length_eq_length_filter_add (l := ahead k old new)
    fun item => decide (item ∈ old)
  have oldParts := List.length_eq_length_filter_add (l := old.take k)
    fun item => decide (item ∈ new)
  have length : (old.take k).length = k := List.length_take_of_le within
  have oldNew : ((ahead k old new).filter fun item => !decide (item ∈ old)).length =
      joinedAhead k old new := by
    simp [joinedAhead]
  have gone : ((old.take k).filter fun item => !decide (item ∈ new)).length =
      leftAhead k old new := by
    simp [leftAhead]
  omega

/-- Either nothing behind the position is left, or no more have left ahead of it than
have joined. -/
def KeepsPlace (k : Nat) (old new : List β) : Prop :=
  (∃ item ∈ old.drop k, item ∈ new) → leftAhead k old new ≤ joinedAhead k old new

instance : Decidable (KeepsPlace k old new) := by
  unfold KeepsPlace
  infer_instance

/-- A position kept its place exactly when what was behind it still is. -/
theorem keepsPlace_iff (older : Ordered id old) (newer : Ordered id new)
    (within : k ≤ old.length) :
    KeepsPlace k old new ↔ ∀ item ∈ old.drop k, item ∈ new → item ∈ new.drop k := by
  have newDistinct : new.Nodup := newer.imp fun less => ne_of_lt less
  constructor
  · intro kept item behind stays
    have shared : ∃ item ∈ old.drop k, item ∈ new := ⟨item,behind,stays⟩
    obtain ⟨next,rest,split,_⟩ := ahead_split shared
    have lengths := length_ahead older newer within shared
    have enough := kept shared
    rw [split,List.mem_append] at stays
    rcases stays with front | back
    · exact absurd behind (not_mem_drop_of_ahead front)
    · rw [split,List.drop_append_of_le_length (by omega)]
      exact List.mem_append_right _ back
  · intro behind shared
    obtain ⟨next,rest,split,unseen⟩ := ahead_split shared
    have lengths := length_ahead older newer within shared
    by_contra more
    have stays : next ∈ new := by
      rw [split]
      exact List.mem_append_right _ List.mem_cons_self
    have later := behind next unseen stays
    rw [split] at newDistinct later
    have short : (ahead k old new).length < k := by omega
    rw [List.drop_append,List.drop_eq_nil_of_le (by omega),List.nil_append,
      List.drop_cons (by omega)] at later
    have fresh := (List.nodup_cons.mp newDistinct.of_append_right).1
    exact fresh (List.mem_of_mem_drop later)

end Listing
