import Mathlib.Algebra.Order.Ring.Int
import Mathlib.Data.List.Lex
import Mathlib.Data.List.Induction

/-! Decimal numerals of a fixed width. Filled up with zeros on the left, numerals of one
width are ordered as texts the way their numbers are, and a text of several such fields
is ordered field by field. -/
namespace Decimal

/-- The last `width` decimal digits of a number. -/
def numeral : Nat → Nat → List Char
  | 0, _ => []
  | width + 1, value => numeral width (value / 10) ++ [Nat.digitChar (value % 10)]

theorem numeral_zero (width : Nat) : numeral width 0 = List.replicate width '0' := by
  induction width with
  | zero => rfl
  | succ width ih =>
    rw [numeral,Nat.zero_div,ih,List.replicate_succ']
    rfl

theorem digitChar_lt_iff {a b : Nat} (small : a < 10) (small' : b < 10) :
    Nat.digitChar a < Nat.digitChar b ↔ a < b := by
  rw [Char.lt_def,UInt32.lt_iff_toNat_lt]
  have one := Nat.toNat_digitChar_of_lt_ten small
  have two := Nat.toNat_digitChar_of_lt_ten small'
  simp only [Char.toNat] at one two
  omega

theorem digitChar_inj {a b : Nat} (small : a < 10) (small' : b < 10) :
    Nat.digitChar a = Nat.digitChar b ↔ a = b := by
  constructor
  · intro same
    have one := Nat.toNat_digitChar_of_lt_ten small
    have two := Nat.toNat_digitChar_of_lt_ten small'
    rw [same] at one
    omega
  · rintro rfl
    rfl

/-- A field decides the order of two texts, or leaves it to what follows. -/
theorem numeral_append_lt_iff (width : Nat) {a b : Nat} (fits : a < 10 ^ width)
    (fits' : b < 10 ^ width) {xs ys : List Char} :
    numeral width a ++ xs < numeral width b ++ ys ↔ a < b ∨ a = b ∧ xs < ys := by
  induction width generalizing a b xs ys with
  | zero =>
    have none : a = 0 := by simpa using fits
    have none' : b = 0 := by simpa using fits'
    simp [numeral,none,none']
  | succ width ih =>
    have power : 10 ^ (width + 1) = 10 * 10 ^ width := Nat.pow_succ'
    have front : a / 10 < 10 ^ width := by omega
    have front' : b / 10 < 10 ^ width := by omega
    have last : a % 10 < 10 := Nat.mod_lt _ (by decide)
    have last' : b % 10 < 10 := Nat.mod_lt _ (by decide)
    simp only [numeral,List.append_assoc,List.singleton_append]
    rw [ih front front',List.cons_lt_cons_iff,digitChar_lt_iff last last',digitChar_inj last last']
    constructor
    · rintro (less | ⟨same,less | ⟨same',less⟩⟩)
      · left
        omega
      · left
        omega
      · right
        exact ⟨by omega,less⟩
    · rintro (less | ⟨rfl,less⟩)
      · by_cases same : a / 10 = b / 10
        · right
          exact ⟨same,.inl (by omega)⟩
        · left
          omega
      · exact .inr ⟨rfl,.inr ⟨rfl,less⟩⟩

/-- A numeral is the usual one, filled up with zeros. -/
theorem replicate_append_toDigits (width : Nat) {value : Nat} (fits : value < 10 ^ (width + 1)) :
    List.replicate (width + 1 - (Nat.toDigits 10 value).length) '0' ++ Nat.toDigits 10 value =
      numeral (width + 1) value := by
  induction width generalizing value with
  | zero =>
    have digit : value < 10 := by simpa using fits
    rw [Nat.toDigits_of_lt_base digit]
    simp [numeral,Nat.mod_eq_of_lt digit]
  | succ width ih =>
    by_cases digit : value < 10
    · rw [Nat.toDigits_of_lt_base digit,numeral,Nat.div_eq_of_lt digit,numeral_zero,
        Nat.mod_eq_of_lt digit]
      rfl
    · have power : 10 ^ (width + 2) = 10 * 10 ^ (width + 1) := Nat.pow_succ'
      have front : value / 10 < 10 ^ (width + 1) := by omega
      rw [numeral,← ih front,Nat.toDigits_of_base_le (by decide) (by omega)]
      simp [Nat.add_sub_add_right]

/-! ## Plain numerals -/

/-- Digits with no needless zero in front. -/
structure Plain (digits : List Char) : Prop where
  present : digits ≠ []
  decimal : ∀ digit ∈ digits, digit.isDigit = true
  front : digits.head? = some '0' → digits = ['0']

theorem plain_toDigits (value : Nat) : Plain (Nat.toDigits 10 value) := by
  refine ⟨Nat.toDigits_ne_nil,fun digit member => ?_,?_⟩
  · exact Nat.isDigit_of_mem_toDigits (by omega) (by omega) member
  · induction value using Nat.strongRecOn with
    | _ value ih =>
      intro zero
      by_cases digit : value < 10
      · rw [Nat.toDigits_of_lt_base digit] at zero ⊢
        exact congrArg (· :: []) (Option.some.inj zero)
      · -- the digit in front is that of the number without its last digit
        have big : 10 ≤ value := Nat.le_of_not_lt digit
        rw [Nat.toDigits_of_base_le (by decide) big,
          List.head?_append_of_ne_nil _ Nat.toDigits_ne_nil] at zero
        have single := ih (value / 10) (Nat.div_lt_self (by omega) (by decide)) zero
        have none : value / 10 = 0 := calc
          value / 10 = Nat.ofDigitChars 10 (Nat.toDigits 10 (value / 10)) 0 :=
            Nat.ofDigitChars_ten_toDigits.symm
          _ = Nat.ofDigitChars 10 ['0'] 0 := by rw [single]
          _ = 0 := rfl
        omega

theorem ofDigitChars_concat (front : List Char) (last : Char) :
    Nat.ofDigitChars 10 (front ++ [last]) 0 =
      10 * Nat.ofDigitChars 10 front 0 + (last.toNat - 48) := by
  rw [Nat.ofDigitChars_append,Nat.ofDigitChars_cons,Nat.ofDigitChars_nil]
  rfl

theorem digitChar_of_isDigit {digit : Char} (decimal : digit.isDigit = true) :
    digit.toNat - 48 < 10 ∧ Nat.digitChar (digit.toNat - 48) = digit := by
  have range : 48 ≤ digit.toNat ∧ digit.toNat ≤ 57 := Char.isDigit_iff_toNat.mp decimal
  have small : digit.toNat - 48 < 10 := by omega
  refine ⟨small,?_⟩
  apply Char.toNat_inj.mp
  rw [Nat.toNat_digitChar_of_lt_ten small]
  omega

/-- A plain numeral is what its number is rendered as. -/
theorem toDigits_ofDigitChars {digits : List Char} (plain : Plain digits) :
    Nat.toDigits 10 (Nat.ofDigitChars 10 digits 0) = digits := by
  induction digits using List.reverseRecOn with
  | nil => exact (plain.present rfl).elim
  | append_singleton front last ih =>
    obtain ⟨small,char⟩ := digitChar_of_isDigit (plain.decimal last (by simp))
    rw [ofDigitChars_concat]
    by_cases alone : front = []
    · subst alone
      rw [Nat.ofDigitChars_nil,Nat.mul_zero,Nat.zero_add,Nat.toDigits_of_lt_base small,char]
      rfl
    · have nonzero : front.head? ≠ some '0' := by
        intro zero
        have whole := plain.front (by rw [List.head?_append_of_ne_nil _ alone]; exact zero)
        have length := congrArg List.length whole
        exact alone (by simpa using length)
      have shorter := ih ⟨alone,fun digit member => plain.decimal digit (by simp [member]),
        fun zero => (nonzero zero).elim⟩
      have positive : Nat.ofDigitChars 10 front 0 ≠ 0 := by
        intro zero
        rw [zero] at shorter
        exact nonzero (congrArg List.head? shorter.symm)
      rw [Nat.toDigits_of_base_le (by decide) (by omega),
        show (10 * Nat.ofDigitChars 10 front 0 + (last.toNat - 48)) / 10 =
          Nat.ofDigitChars 10 front 0 by omega,
        show (10 * Nat.ofDigitChars 10 front 0 + (last.toNat - 48)) % 10 = last.toNat - 48 by omega,
        shorter,char]

end Decimal
