/-!
# Cutting a piece out of a text by byte offsets

A slice exists only between two offsets that lie in order on character boundaries.
-/

namespace LoxLex

def slice? (s : String) (b e : Nat) : Option String :=
  if h : b ≤ e ∧ String.Pos.Raw.IsValid s ⟨b⟩ ∧ String.Pos.Raw.IsValid s ⟨e⟩ then
    some (s.extract (s.pos ⟨b⟩ h.2.1) (s.pos ⟨e⟩ h.2.2))
  else none

/-- The bytes of the middle one of three texts cut that text out of all three. -/
theorem slice?_append (a b c : String) :
    slice? (a ++ b ++ c) a.utf8ByteSize (a.utf8ByteSize + b.utf8ByteSize) = some b := by
  have h₁ : String.Pos.Raw.IsValid (a ++ b ++ c) ⟨a.utf8ByteSize⟩ :=
    String.Pos.Raw.isValid_iff_exists_append.2 ⟨a, b ++ c, by rw [String.append_assoc], rfl⟩
  have h₂ : String.Pos.Raw.IsValid (a ++ b ++ c) ⟨a.utf8ByteSize + b.utf8ByteSize⟩ :=
    String.Pos.Raw.isValid_iff_exists_append.2
      ⟨a ++ b, c, rfl, by simp [String.rawEndPos, String.utf8ByteSize_append]⟩
  rw [slice?, dif_pos ⟨by omega, h₁, h₂⟩]
  congr 1
  apply String.toByteArray_inj.1
  apply ByteArray.ext
  simp only [String.toByteArray_extract, String.toByteArray_append, String.offset_pos,
    ← String.size_toByteArray, ByteArray.data_extract, ByteArray.data_append, ← ByteArray.size_data,
    Array.append_assoc, Array.extract_append, Nat.sub_self, Nat.add_sub_cancel_left]
  rw [Array.extract_eq_empty_of_le (by omega), Array.empty_append, Array.extract_eq_self_of_le (by simp)]
  simp

end LoxLex
