import Mathlib.Data.String.Basic

/-!
# The order of bytes

Texts are compared letter by letter.  Comparing their bytes in UTF-8 gives the same
order: of two letters the greater one has the greater bytes, at the first byte in which
they differ, and the bytes of a letter never begin those of another.
-/

namespace SurfaceKinetics

/-- The bytes of a text in UTF-8. -/
def bytes (text : String) : List UInt8 := text.toUTF8.data.toList

theorem bytes_eq (text : String) :
    bytes text = text.toList.flatMap String.utf8EncodeChar := by
  rw [bytes, String.toUTF8_eq_toByteArray, ← String.utf8Encode_toList, List.utf8Encode,
    List.toList_data_toByteArray]

theorem toNat_ofNat {code : Nat} (small : code < 256) :
    (UInt8.ofNat code).toNat = code :=
  UInt8.toNat_ofNat_of_lt' small

/-- A greater letter has greater bytes, whatever follows them. -/
theorem utf8EncodeChar_append_lt
    {lesser greater : Char}
    (less : lesser < greater)
    (first second : List UInt8) :
    String.utf8EncodeChar lesser ++ first < String.utf8EncodeChar greater ++ second := by
  have codes : lesser.val.toNat < greater.val.toNat := less
  have bound : greater.val.toNat < 1114112 := by
    rcases greater.valid with low | high
    · exact low.trans (by decide)
    · exact high.2
  -- The codes in base 64, of which every byte but the first one keeps a digit.
  have lesserMiddle := Nat.div_div_eq_div_mul lesser.val.toNat 64 64
  have lesserHigh := Nat.div_div_eq_div_mul lesser.val.toNat 4096 64
  have greaterMiddle := Nat.div_div_eq_div_mul greater.val.toNat 64 64
  have greaterHigh := Nat.div_div_eq_div_mul greater.val.toNat 4096 64
  have lesserTop : lesser.val.toNat / 262144 % 8 = lesser.val.toNat / 262144 :=
    Nat.mod_eq_of_lt (by omega)
  have greaterTop : greater.val.toNat / 262144 % 8 = greater.val.toNat / 262144 :=
    Nat.mod_eq_of_lt (by omega)
  simp only [String.utf8EncodeChar]
  split_ifs <;>
    simp (disch := omega) only [List.cons_append, List.nil_append,
      List.cons_lt_cons_iff, UInt8.lt_iff_toNat_lt, ← UInt8.toNat_inj,
      toNat_ofNat, lesserTop, greaterTop] <;>
    omega

theorem append_lt_append_iff (start first second : List UInt8) :
    start ++ first < start ++ second ↔ first < second := by
  induction start with
  | nil => rfl
  | cons byte start induction =>
      rw [List.cons_append, List.cons_append, List.cons_lt_cons_iff, induction]
      simp

theorem flatMap_utf8EncodeChar_lt_iff (first second : List Char) :
    first.flatMap String.utf8EncodeChar < second.flatMap String.utf8EncodeChar ↔
      first < second := by
  induction first generalizing second with
  | nil =>
      cases second with
      | nil => simp
      | cons letter second =>
          refine iff_of_true ?_ (List.nil_lt_cons _ _)
          have encoded := String.utf8EncodeChar_ne_nil (c := letter)
          rcases List.exists_cons_of_ne_nil encoded with ⟨byte, others, bytesEq⟩
          rw [List.flatMap_cons, bytesEq]
          exact List.nil_lt_cons _ _
  | cons letter first induction =>
      cases second with
      | nil => simp
      | cons other second =>
          rw [List.flatMap_cons, List.flatMap_cons, List.cons_lt_cons_iff]
          rcases lt_trichotomy letter other with less | rfl | greater
          · exact iff_of_true (utf8EncodeChar_append_lt less _ _) (Or.inl less)
          · rw [append_lt_append_iff, induction]
            simp
          · refine iff_of_false ?_ ?_
            · exact List.lt_asymm (utf8EncodeChar_append_lt greater _ _)
            · rintro (less | ⟨rfl, _⟩)
              · exact less.asymm greater
              · exact lt_irrefl _ greater

/-- Texts have the order of their bytes. -/
theorem lt_iff_bytes_lt {first second : String} :
    first < second ↔ bytes first < bytes second := by
  rw [bytes_eq, bytes_eq, flatMap_utf8EncodeChar_lt_iff, String.lt_iff_toList_lt]

end SurfaceKinetics
