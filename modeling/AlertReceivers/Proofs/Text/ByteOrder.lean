import AlertReceivers.Yaml.Tag
import Mathlib.Data.Nat.Basic
import Mathlib.Tactic.SplitIfs

namespace AlertReceivers.Text

/-!
# The order of bytes

Texts are in the same order as the bytes that encode them, so what is sorted by its
characters is also sorted by its bytes.
-/

/-- Of two codes, the lower one has the lower digits in base 64, the highest digit
counting first. -/
theorem digits_lt_of_lt
    {first second : Nat}
    (below : first < second) :
    first / 262144 < second / 262144 ∨
      first / 262144 = second / 262144 ∧
        (first / 4096 % 64 < second / 4096 % 64 ∨
          first / 4096 % 64 = second / 4096 % 64 ∧
            (first / 64 % 64 < second / 64 % 64 ∨
              first / 64 % 64 = second / 64 % 64 ∧
                first % 64 < second % 64)) := by
  omega

/-- The bytes of the lower one of two characters come first, whatever follows. -/
theorem encodeChar_lt_of_lt
    {first second : Char}
    (below : first < second)
    (firstRest secondRest : List UInt8) :
    String.utf8EncodeChar first ++ firstRest <
      String.utf8EncodeChar second ++ secondRest := by
  have codesBelow : first.val.toNat < second.val.toNat := below
  have inRange : second.val.toNat < 1114112 := by
    rcases second.valid with beforeSurrogates | afterSurrogates
    · exact Nat.lt_trans beforeSurrogates (by decide)
    · exact afterSurrogates.2
  unfold String.utf8EncodeChar
  generalize first.val.toNat = firstCode at codesBelow ⊢
  generalize second.val.toNat = secondCode at codesBelow inRange ⊢
  have digitsBelow := digits_lt_of_lt codesBelow
  -- One case for the number of bytes of each of the two characters.
  simp only
  split_ifs <;>
    simp (disch := omega) only [List.cons_append, List.nil_append,
      List.cons_lt_cons_iff, UInt8.lt_iff_toNat_lt, ← UInt8.toNat_inj,
      UInt8.toNat_ofNat', Nat.reducePow, Nat.mod_eq_of_lt] <;>
    omega

/-- The order of texts is the order of their bytes. -/
theorem textBytes_lt_of_lt
    {first second : String}
    (below : first < second) :
    Yaml.textBytes first.toList < Yaml.textBytes second.toList := by
  replace below : first.toList < second.toList := below
  unfold Yaml.textBytes
  generalize first.toList = firstChars at below ⊢
  generalize second.toList = secondChars at below ⊢
  induction below with
  | @nil char rest =>
      obtain ⟨byte, more, bytes⟩ :=
        List.exists_cons_of_ne_nil (String.utf8EncodeChar_ne_nil (c := char))
      rw [List.flatMap_nil, List.flatMap_cons, bytes]
      exact List.nil_lt_cons _ _
  | rel charsBelow =>
      rw [List.flatMap_cons, List.flatMap_cons]
      exact encodeChar_lt_of_lt charsBelow _ _
  | cons _ inductionHypothesis =>
      rw [List.flatMap_cons, List.flatMap_cons]
      exact List.append_left_lt inductionHypothesis

end AlertReceivers.Text
