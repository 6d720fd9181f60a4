import Mathlib.Data.List.Basic
import Mathlib.Tactic.SplitIfs

/-!
# The order of texts

Texts are ordered by code point.  The bytes of their UTF-8 form are in the same order: the first
byte of a character grows with the length of its form, and behind it the form is a numeral to the
base 64, the most significant digit first.

## Main statements
* `utf8EncodeChar_append_lt`: of two characters the smaller one has the smaller bytes, whatever
  follows them.
* `bytesOf_lt_iff`: texts are ordered like their bytes.
-/

namespace TopicGate

/-- The bytes of a text in UTF-8. -/
def bytesOf (text : String) : List UInt8 := text.toUTF8.data.toList

theorem bytesOf_eq_flatMap (text : String) :
    bytesOf text = text.toList.flatMap String.utf8EncodeChar := by
  rw [bytesOf, String.toUTF8_eq_toByteArray, ← String.utf8Encode_toList, List.utf8Encode,
    List.toList_data_toByteArray]

/-! ## §1 Single characters -/

theorem ofNat_lt_ofNat_iff {m n : Nat} (hm : m < 256) (hn : n < 256) :
    UInt8.ofNat m < UInt8.ofNat n ↔ m < n := by
  rw [UInt8.lt_iff_toNat_lt, UInt8.toNat_ofNat', UInt8.toNat_ofNat', Nat.mod_eq_of_lt hm,
    Nat.mod_eq_of_lt hn]

theorem ofNat_eq_ofNat_iff {m n : Nat} (hm : m < 256) (hn : n < 256) :
    UInt8.ofNat m = UInt8.ofNat n ↔ m = n := by
  rw [← UInt8.toNat_inj, UInt8.toNat_ofNat', UInt8.toNat_ofNat', Nat.mod_eq_of_lt hm,
    Nat.mod_eq_of_lt hn]

/-- The smaller of two numbers is the smaller one without the last digit to the base 64, or it
differs in this digit alone. -/
theorem div_lt_or_mod_lt {m n : Nat} (h : m < n) :
    m / 64 < n / 64 ∨ m / 64 = n / 64 ∧ m % 64 < n % 64 := by
  omega

/-- Four digits of two numbers, compared from the most significant one. -/
theorem digits_lt {m n : Nat} (h : m < n) :
    m / 64 / 64 / 64 < n / 64 / 64 / 64 ∨ m / 64 / 64 / 64 = n / 64 / 64 / 64 ∧
      (m / 64 / 64 % 64 < n / 64 / 64 % 64 ∨ m / 64 / 64 % 64 = n / 64 / 64 % 64 ∧
        (m / 64 % 64 < n / 64 % 64 ∨ m / 64 % 64 = n / 64 % 64 ∧ m % 64 < n % 64)) := by
  rcases div_lt_or_mod_lt h with h | ⟨h, hlast⟩
  · rcases div_lt_or_mod_lt h with h | ⟨h, hlast⟩
    · rcases div_lt_or_mod_lt h with h | ⟨h, hlast⟩
      · exact Or.inl h
      · exact Or.inr ⟨h, Or.inl hlast⟩
    · exact Or.inr ⟨by rw [h], Or.inr ⟨by rw [h], Or.inl hlast⟩⟩
  · exact Or.inr ⟨by rw [h], Or.inr ⟨by rw [h], Or.inr ⟨by rw [h], hlast⟩⟩⟩

/-- Of two characters the smaller one has the smaller bytes, whatever follows them. -/
theorem utf8EncodeChar_append_lt {c d : Char} (h : c < d) (rest others : List UInt8) :
    String.utf8EncodeChar c ++ rest < String.utf8EncodeChar d ++ others := by
  have hlt : c.val.toNat < d.val.toNat := h
  have hvalid : d.val.toNat < 0x110000 := by
    rcases d.valid with hd | hd
    · exact Nat.lt_trans hd (by decide)
    · exact hd.2
  unfold String.utf8EncodeChar
  generalize c.val.toNat = m at hlt
  generalize d.val.toNat = n at hlt hvalid
  have hdigits := digits_lt hlt
  have hsquare : ∀ k, k / 4096 = k / 64 / 64 := fun k => by rw [Nat.div_div_eq_div_mul]
  have hcube : ∀ k, k / 262144 = k / 64 / 64 / 64 := fun k => by
    rw [Nat.div_div_eq_div_mul, Nat.div_div_eq_div_mul]
  simp only [hsquare, hcube]
  -- One case for each pair of lengths; the bytes become numbers, and the first digit decides.
  split_ifs <;>
    simp (disch := omega) only [List.cons_append, List.nil_append, List.cons_lt_cons_iff,
      ofNat_lt_ofNat_iff, ofNat_eq_ofNat_iff] <;>
    omega

/-! ## §2 Texts -/

theorem flatMap_utf8EncodeChar_lt {text other : List Char} (h : text < other) :
    text.flatMap String.utf8EncodeChar < other.flatMap String.utf8EncodeChar := by
  induction h with
  | @nil c others =>
    -- Every character has a byte.
    rw [List.flatMap_nil, List.flatMap_cons]
    cases hbytes : String.utf8EncodeChar c with
    | nil => exact absurd hbytes String.utf8EncodeChar_ne_nil
    | cons byte bytes => exact .nil
  | rel hlt =>
    rw [List.flatMap_cons, List.flatMap_cons]
    exact utf8EncodeChar_append_lt hlt _ _
  | cons _ ih =>
    rw [List.flatMap_cons, List.flatMap_cons]
    exact List.append_left_lt ih

theorem bytesOf_lt_of_lt {text other : String} (h : text < other) :
    bytesOf text < bytesOf other := by
  rw [bytesOf_eq_flatMap, bytesOf_eq_flatMap]
  exact flatMap_utf8EncodeChar_lt h

/-- Texts are ordered like their bytes. -/
theorem bytesOf_lt_iff {text other : String} : bytesOf text < bytesOf other ↔ text < other := by
  refine ⟨fun h => ?_, bytesOf_lt_of_lt⟩
  by_contra hnot
  rcases Decidable.em (other < text) with hlt | hle
  · exact List.lt_asymm h (bytesOf_lt_of_lt hlt)
  · obtain rfl := String.le_antisymm (String.not_lt.mp hle) (String.not_lt.mp hnot)
    exact List.lt_irrefl _ h

end TopicGate
