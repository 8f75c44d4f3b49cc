import Mathlib.Data.List.Basic

/-! The bytes of a text. A byte below 128 in them is a character of the text, so a text
without a character has no such byte either. -/
namespace Utf8

variable {c : Char} {b : UInt8} {text : String}

/-- The bytes of an encoded character are the character itself or all from 128 on. -/
theorem toNat_of_mem (member : b ∈ String.utf8EncodeChar c) (ascii : b.toNat < 128) :
    c.toNat = b.toNat := by
  have value : c.toNat = c.val.toNat := rfl
  rw [value]
  simp only [String.utf8EncodeChar] at member
  split at member
  · rename_i small
    rw [List.mem_singleton.mp member,UInt8.toNat_ofNat']
    omega
  · split at member
    · simp only [List.mem_cons,List.not_mem_nil,or_false] at member
      rcases member with rfl | rfl <;> rw [UInt8.toNat_ofNat'] at ascii <;> omega
    · split at member
      · simp only [List.mem_cons,List.not_mem_nil,or_false] at member
        rcases member with rfl | rfl | rfl <;> rw [UInt8.toNat_ofNat'] at ascii <;> omega
      · simp only [List.mem_cons,List.not_mem_nil,or_false] at member
        rcases member with rfl | rfl | rfl | rfl <;> rw [UInt8.toNat_ofNat'] at ascii <;> omega

theorem bytes_eq (text : String) :
    text.toByteArray.data.toList = text.toList.flatMap String.utf8EncodeChar := by
  rw [← String.utf8Encode_toList,List.utf8Encode]
  simp

/-- An ASCII byte of a text is one of its characters. -/
theorem char_of_mem (member : b ∈ text.toByteArray.data.toList) (ascii : b.toNat < 128) :
    ∃ c ∈ text.toList, c.toNat = b.toNat := by
  rw [bytes_eq,List.mem_flatMap] at member
  obtain ⟨c,inside,member⟩ := member
  exact ⟨c,inside,toNat_of_mem member ascii⟩

end Utf8
