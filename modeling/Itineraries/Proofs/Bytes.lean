import Itineraries.Text.Sorted

namespace Itineraries
namespace Text

/-!
# The order of bytes

Texts are compared by their characters here, and by their bytes wherever they are stored in
UTF-8.  Both come to the same, for two reasons.  A greater character has the greater bytes,
since a longer encoding begins with a greater byte, and encodings of the same length write
the number of the character to base 64, after a first byte that only depends on the length.
And where two characters differ, what follows them in their texts is not looked at any more:
no encoding is the beginning of another one.
-/

def bytes (text : String) : List UInt8 :=
  text.toByteArray.data.toList

theorem bytes_eq_flatMap (text : String) :
    bytes text = text.toList.flatMap String.utf8EncodeChar := by
  have written : text.toByteArray = text.toList.utf8Encode := by
    rw [← String.toByteArray_ofList, String.ofList_toList]
  rw [bytes, written, List.utf8Encode, List.data_toByteArray]

/-! ## Characters -/

/-- Lists of bytes are compared by their first bytes, and these by their numbers. -/
private theorem cons_byte_lt_iff {number other : Nat} (small : number < 256)
    (otherSmall : other < 256) (rest otherRest : List UInt8) :
    UInt8.ofNat number :: rest < UInt8.ofNat other :: otherRest ↔
      number < other ∨ number = other ∧ rest < otherRest := by
  rw [List.cons_lt_cons_iff, UInt8.lt_iff_toNat_lt, ← UInt8.toNat_inj,
    UInt8.toNat_ofNat_of_lt' small, UInt8.toNat_ofNat_of_lt' otherSmall]

/-- Numbers are ordered by what stands before a digit, and only then by what stands after. -/
private theorem div_lt_or_mod_lt {number other : Nat} (less : number < other) (place : Nat) :
    number / place < other / place ∨
      number / place = other / place ∧ number % place < other % place := by
  have between : number / place ≤ other / place := Nat.div_le_div_right (Nat.le_of_lt less)
  rcases Nat.lt_or_eq_of_le between with before | same
  · exact .inl before
  · have whole := Nat.div_add_mod number place
    have otherWhole := Nat.div_add_mod other place
    rw [same] at whole
    exact .inr ⟨same, by omega⟩

/-- A greater character has greater bytes, whatever follows. -/
theorem utf8EncodeChar_append_lt {first second : Char} (smaller : first < second)
    (rest otherRest : List UInt8) :
    String.utf8EncodeChar first ++ rest < String.utf8EncodeChar second ++ otherRest := by
  have numbers : first.val.toNat < second.val.toNat := smaller
  have last : second.val.toNat < 1114112 := by
    have valid := second.valid
    simp only [UInt32.isValidChar, Nat.isValidChar] at valid
    omega
  fun_cases String.utf8EncodeChar first <;> fun_cases String.utf8EncodeChar second
  all_goals simp +zetaDelta (disch := omega) only [List.cons_append, cons_byte_lt_iff]
  case case4.case4 =>
    -- The two numbers are looked at digit by digit, down to the first that differs.
    rcases div_lt_or_mod_lt numbers 262144 with differs | ⟨same, numbers⟩
    · exact .inl (by omega)
    refine .inr ⟨by omega, ?_⟩
    rcases div_lt_or_mod_lt numbers 4096 with differs | ⟨same, numbers⟩
    · exact .inl (by omega)
    refine .inr ⟨by omega, ?_⟩
    rcases div_lt_or_mod_lt numbers 64 with differs | ⟨same, numbers⟩
    · exact .inl (by omega)
    · exact .inr ⟨by omega, .inl (by omega)⟩
  all_goals omega

/-! ## Texts -/

theorem bytes_lt_bytes_of_lt {first second : String} (smaller : first < second) :
    bytes first < bytes second := by
  rw [bytes_eq_flatMap, bytes_eq_flatMap]
  rw [String.lt_iff] at smaller
  generalize first.toList = characters at smaller ⊢
  generalize second.toList = otherCharacters at smaller ⊢
  induction smaller with
  | @nil next rest =>
    rcases List.exists_cons_of_ne_nil (String.utf8EncodeChar_ne_nil (c := next)) with
      ⟨byte, others, encoded⟩
    rw [List.flatMap_nil, List.flatMap_cons, encoded, List.cons_append]
    exact List.nil_lt_cons byte _
  | cons _ inductionHypothesis =>
    rw [List.flatMap_cons, List.flatMap_cons]
    exact List.append_left_lt inductionHypothesis
  | rel smaller =>
    rw [List.flatMap_cons, List.flatMap_cons]
    exact utf8EncodeChar_append_lt smaller _ _

theorem bytes_lt_bytes_iff {first second : String} :
    bytes first < bytes second ↔ first < second := by
  refine ⟨fun smaller => ?_, bytes_lt_bytes_of_lt⟩
  by_cases greater : second < first
  · exact absurd (bytes_lt_bytes_of_lt greater) (List.lt_asymm smaller)
  · apply Decidable.byContradiction
    intro notLess
    have same : first = second :=
      String.le_antisymm (String.not_lt.mp greater) (String.not_lt.mp notLess)
    rw [same] at smaller
    exact List.lt_irrefl _ smaller

end Text
end Itineraries
