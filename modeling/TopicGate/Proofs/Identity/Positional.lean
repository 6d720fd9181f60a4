import TopicGate.Proofs.Identity.Numeral
import Mathlib.Data.Nat.Digits.Lemmas

/-!
# The values of numerals

A text over an alphabet is a numeral of some number in the base that the alphabet gives, however long
it is.  It is read as that number if the number has at most 64 bits, and not at all otherwise: the
reader, which looks at every value on the way, gives up exactly if the last one is too large.  A
number has many numerals, all of them its own one behind symbols that stand for zero.

## Main definitions
* `positionalValue`: the value of a numeral, of any size.
* `Denotes`: the numerals of a number.

## Main statements
* `numeralValue?_eq_some_iff`: what is read.
* `Denotes.exists_zeros`: the numerals of a number are its own one behind zeros.
* `numerals_exact`: both, with the way back for every number of 64 bits.
-/

namespace TopicGate.Identity

/-! ## §1 Values -/

/-- The value of a numeral, most significant symbol first, in the base that the alphabet gives.  A
symbol, which may be a byte or any other character, stands for its place in the alphabet. -/
def positionalValue (alphabet symbols : List Char) : Nat :=
  Nat.ofDigits alphabet.length (symbols.map fun c => alphabet.idxOf c).reverse

variable {alphabet : List Char}

@[simp] theorem positionalValue_nil (alphabet : List Char) : positionalValue alphabet [] = 0 := rfl

/-- A further symbol moves the others up by one place. -/
theorem positionalValue_concat (alphabet symbols : List Char) (c : Char) :
    positionalValue alphabet (symbols ++ [c]) =
      positionalValue alphabet symbols * alphabet.length + alphabet.idxOf c := by
  rw [positionalValue, List.map_append, List.map_singleton, List.reverse_append,
    List.reverse_singleton, List.singleton_append, Nat.ofDigits_cons, positionalValue]
  ring

theorem positionalValue_singleton (alphabet : List Char) (c : Char) :
    positionalValue alphabet [c] = alphabet.idxOf c := by
  rw [← List.nil_append [c], positionalValue_concat, positionalValue_nil]
  omega

/-- A numeral is zero only if all of its symbols stand for zero. -/
theorem idxOf_eq_zero (hsize : 0 < alphabet.length) {symbols : List Char}
    (h : positionalValue alphabet symbols = 0) {c : Char} (hc : c ∈ symbols) :
    alphabet.idxOf c = 0 := by
  induction symbols using List.reverseRecOn with
  | nil => cases hc
  | append_singleton symbols last ih =>
    rw [positionalValue_concat, Nat.add_eq_zero_iff, Nat.mul_eq_zero] at h
    obtain ⟨hsymbols, hlast⟩ := h
    rcases List.mem_append.mp hc with hc | hc
    · exact ih (hsymbols.resolve_right (by omega)) hc
    · rwa [List.mem_singleton.mp hc]

/-! ## §2 Reading -/

/-- A symbol is found at its place, unless it is foreign. -/
theorem idxOf?_eq_ite (alphabet : List Char) (c : Char) :
    alphabet.idxOf? c = if c ∈ alphabet then some (alphabet.idxOf c) else none := by
  split
  · next hc =>
    obtain ⟨i, hi⟩ := Option.isSome_iff_exists.mp (List.isSome_idxOf?.mpr hc)
    rw [List.idxOf_eq_getD_idxOf?, hi, Option.getD_some]
  · next hc => exact List.idxOf?_eq_none_iff.mpr hc

theorem appendSymbol?_eq_some_iff {before v : Nat} {c : Char} :
    appendSymbol? alphabet before c = some v ↔
      c ∈ alphabet ∧ before * alphabet.length + alphabet.idxOf c = v ∧ v < UInt64.size := by
  rw [appendSymbol?, idxOf?_eq_ite]
  by_cases hc : c ∈ alphabet
  · simp only [hc, if_true, Option.bind_eq_bind, Option.bind_some, true_and,
      Option.ite_none_right_eq_some, Option.some.injEq]
    constructor
    · rintro ⟨hlt, rfl⟩
      exact ⟨rfl, hlt⟩
    · rintro ⟨rfl, hlt⟩
      exact ⟨hlt, rfl⟩
  · simp [hc]

/-- **What is read.**  A text is read as a number exactly if it is written in the alphabet, the
number is its value, and has at most 64 bits. -/
theorem numeralValue?_eq_some_iff (hsize : 0 < alphabet.length) {symbols : List Char} {v : Nat} :
    numeralValue? alphabet symbols = some v ↔
      (∀ c ∈ symbols, c ∈ alphabet) ∧ positionalValue alphabet symbols = v ∧ v < UInt64.size := by
  induction symbols using List.reverseRecOn generalizing v with
  | nil =>
    simp only [numeralValue?, List.foldlM_nil, positionalValue_nil]
    constructor
    · intro h
      cases h
      exact ⟨by simp, rfl, by decide⟩
    · rintro ⟨-, rfl, -⟩
      rfl
  | append_singleton symbols c ih =>
    rw [numeralValue?_concat, Option.bind_eq_some_iff, positionalValue_concat]
    constructor
    · rintro ⟨before, hbefore, hv⟩
      obtain ⟨hsymbols, rfl, -⟩ := ih.mp hbefore
      obtain ⟨hc, hvalue, hlt⟩ := appendSymbol?_eq_some_iff.mp hv
      refine ⟨?_, hvalue, hlt⟩
      simpa [or_imp, forall_and] using ⟨hsymbols, hc⟩
    · rintro ⟨hmem, hvalue, hlt⟩
      -- Values only grow on the way, so that none before the last one is too large.
      have hgrow : positionalValue alphabet symbols ≤
          positionalValue alphabet symbols * alphabet.length := Nat.le_mul_of_pos_right _ hsize
      refine ⟨positionalValue alphabet symbols, ih.mpr ⟨?_, rfl, by omega⟩, ?_⟩
      · exact fun d hd => hmem d (List.mem_append_left _ hd)
      · exact appendSymbol?_eq_some_iff.mpr ⟨hmem c (by simp), hvalue, hlt⟩

/-! ## §3 Reading in words -/

/-- The product of two words, if it is a word. -/
def mulWord? (a b : UInt64) : Option UInt64 :=
  if a.toNat * b.toNat < UInt64.size then some (a * b) else none

/-- The sum of two words, if it is a word. -/
def addWord? (a b : UInt64) : Option UInt64 :=
  if a.toNat + b.toNat < UInt64.size then some (a + b) else none

/-- Appends a symbol to a numeral whose value is a word: both the product with the base and the sum
have to be words. -/
def appendWord? (alphabet : List Char) (before : UInt64) (symbol : Char) : Option UInt64 :=
  (alphabet.idxOf? symbol).bind fun position =>
    (mulWord? before (UInt64.ofNat alphabet.length)).bind fun product =>
      addWord? product (UInt64.ofNat position)

theorem mulWord?_of_lt {a b : UInt64} (h : a.toNat * b.toNat < UInt64.size) :
    ∃ product, mulWord? a b = some product ∧ product.toNat = a.toNat * b.toNat := by
  refine ⟨a * b, if_pos h, ?_⟩
  rw [UInt64.toNat_mul]
  exact Nat.mod_eq_of_lt h

theorem map_toNat_addWord? (a b : UInt64) : (addWord? a b).map UInt64.toNat =
    if a.toNat + b.toNat < UInt64.size then some (a.toNat + b.toNat) else none := by
  unfold addWord?
  split
  · next h =>
    rw [Option.map_some, UInt64.toNat_add]
    exact congrArg some (Nat.mod_eq_of_lt h)
  · rfl

/-- The product is a word whenever the sum is one, so that it makes no difference where a value that
is too large is found. -/
theorem map_toNat_appendWord? (hsize : alphabet.length ≤ 256) (before : UInt64) (c : Char) :
    (appendWord? alphabet before c).map UInt64.toNat = appendSymbol? alphabet before.toNat c := by
  rw [appendWord?, appendSymbol?]
  cases hposition : alphabet.idxOf? c with
  | none => rfl
  | some position =>
    obtain ⟨hlt, -⟩ := List.idxOf?_eq_some_iff.mp hposition
    have hbase : (UInt64.ofNat alphabet.length).toNat = alphabet.length :=
      UInt64.toNat_ofNat_of_lt (lt_of_le_of_lt hsize (by decide))
    have hplace : (UInt64.ofNat position).toNat = position :=
      UInt64.toNat_ofNat_of_lt (lt_of_lt_of_le hlt (le_trans hsize (by decide)))
    simp only [Option.bind_eq_bind, Option.bind_some]
    by_cases hproduct : before.toNat * alphabet.length < UInt64.size
    · obtain ⟨product, hword, hvalue⟩ := mulWord?_of_lt (hbase ▸ hproduct)
      rw [hbase] at hvalue
      rw [hword, Option.bind_some, map_toNat_addWord?, hvalue, hplace]
    · have hlarge : mulWord? before (UInt64.ofNat alphabet.length) = none :=
        if_neg (by rwa [hbase])
      rw [hlarge, Option.bind_none, Option.map_none, if_neg (by omega)]

/-- The value of a numeral, computed in words. -/
def wordValue? (alphabet symbols : List Char) : Option UInt64 :=
  symbols.foldlM (appendWord? alphabet) 0

/-- **No word wraps.**  Words give the same value as numbers of any size. -/
theorem map_toNat_wordValue? (hsize : alphabet.length ≤ 256) (symbols : List Char) :
    (wordValue? alphabet symbols).map UInt64.toNat = numeralValue? alphabet symbols := by
  induction symbols using List.reverseRecOn with
  | nil => rfl
  | append_singleton symbols c ih =>
    have hconcat : wordValue? alphabet (symbols ++ [c]) =
        (wordValue? alphabet symbols).bind (appendWord? alphabet · c) := by
      simp [wordValue?, List.foldlM_append]
    rw [hconcat, numeralValue?_concat, ← ih]
    cases wordValue? alphabet symbols with
    | none => rfl
    | some before => exact map_toNat_appendWord? hsize before c

/-! ## §4 The numerals of a number -/

/-- A numeral of a number: a text over the alphabet, not empty, with that value. -/
structure Denotes (alphabet symbols : List Char) (n : Nat) : Prop where
  ne_nil : symbols ≠ []
  mem : ∀ c ∈ symbols, c ∈ alphabet
  value : positionalValue alphabet symbols = n

/-- The place of a symbol is written with that symbol. -/
theorem numeral_idxOf {c : Char} (hc : c ∈ alphabet) :
    numeral alphabet (alphabet.idxOf c) = [c] := by
  have hlt : alphabet.idxOf c < alphabet.length := List.idxOf_lt_length_iff.mpr hc
  rw [numeral_of_lt hlt, List.getElem_idxOf]

/-- What a number writes is a numeral of it. -/
theorem numeral_denotes (hnodup : alphabet.Nodup) (hsize : 2 ≤ alphabet.length) (n : Nat) :
    Denotes alphabet (numeral alphabet n) n := by
  refine ⟨?_, fun c hc => mem_of_mem_numeral hsize hc, ?_⟩
  · apply List.ne_nil_of_length_pos
    rw [length_numeral hsize, digitCount]
    split
    · exact Nat.one_pos
    · next hn => exact List.length_pos_iff.mpr (Nat.digits_ne_nil_iff_ne_zero.mpr hn)
  · induction n using Nat.strong_induction_on with
    | _ n ih =>
      by_cases h : n < alphabet.length
      · rw [numeral_of_lt h, positionalValue_singleton, hnodup.idxOf_getElem]
      · have hquotient := ih (n / alphabet.length) (Nat.div_lt_self (by omega) (by omega))
        rw [numeral_of_le hsize (by omega), positionalValue_concat, hquotient, List.get_eq_getElem,
          hnodup.idxOf_getElem]
        exact Nat.div_add_mod' n alphabet.length

/-- A number that is put together from a quotient and a symbol is written with the symbol behind the
quotient, unless the quotient is zero. -/
theorem numeral_mul_add (hsize : 2 ≤ alphabet.length) {quotient : Nat} (hquotient : quotient ≠ 0)
    {c : Char} (hc : c ∈ alphabet) :
    numeral alphabet (quotient * alphabet.length + alphabet.idxOf c) =
      numeral alphabet quotient ++ [c] := by
  have hlt : alphabet.idxOf c < alphabet.length := List.idxOf_lt_length_iff.mpr hc
  have hle : alphabet.length ≤ quotient * alphabet.length :=
    Nat.le_mul_of_pos_left _ (Nat.pos_of_ne_zero hquotient)
  have hdiv : (quotient * alphabet.length + alphabet.idxOf c) / alphabet.length = quotient := by
    rw [Nat.mul_comm, Nat.mul_add_div (by omega), Nat.div_eq_of_lt hlt, Nat.add_zero]
  have hmod : (quotient * alphabet.length + alphabet.idxOf c) % alphabet.length =
      alphabet.idxOf c := by
    rw [Nat.mul_comm, Nat.mul_add_mod, Nat.mod_eq_of_lt hlt]
  rw [numeral_of_le hsize (by omega), hdiv, List.get_eq_getElem]
  simp only [hmod, List.getElem_idxOf]

/-- **Leading zeros.**  Every numeral of a number is the one that it writes, behind symbols that stand
for zero. -/
theorem Denotes.exists_zeros (hsize : 2 ≤ alphabet.length) {symbols : List Char} {n : Nat}
    (h : Denotes alphabet symbols n) :
    ∃ zeros, symbols = zeros ++ numeral alphabet n ∧ ∀ c ∈ zeros, alphabet.idxOf c = 0 := by
  obtain ⟨hne, hmem, hvalue⟩ := h
  induction symbols using List.reverseRecOn generalizing n with
  | nil => exact absurd rfl hne
  | append_singleton symbols c ih =>
    have hc : c ∈ alphabet := hmem c (by simp)
    have hsymbols : ∀ d ∈ symbols, d ∈ alphabet := fun d hd => hmem d (List.mem_append_left _ hd)
    rw [positionalValue_concat] at hvalue
    subst hvalue
    by_cases hzero : positionalValue alphabet symbols = 0
    · -- All symbols before the last one stand for zero.
      rw [hzero, Nat.zero_mul, Nat.zero_add, numeral_idxOf hc]
      exact ⟨symbols, rfl, fun d hd => idxOf_eq_zero (by omega) hzero hd⟩
    · -- The last symbol is behind the numeral of the others.
      have hnil : symbols ≠ [] := by
        rintro rfl
        exact hzero rfl
      obtain ⟨zeros, heq, hzeros⟩ := ih hnil hsymbols rfl
      refine ⟨zeros, ?_, hzeros⟩
      rw [numeral_mul_add hsize hzero hc, ← List.append_assoc, ← heq]

/-- The numeral that a number writes is the only one that is not longer. -/
theorem Denotes.eq_or_length_lt (hsize : 2 ≤ alphabet.length) {symbols : List Char} {n : Nat}
    (h : Denotes alphabet symbols n) :
    symbols = numeral alphabet n ∨ (numeral alphabet n).length < symbols.length := by
  obtain ⟨zeros, rfl, -⟩ := h.exists_zeros hsize
  by_cases hnil : zeros = []
  · exact Or.inl (by rw [hnil, List.nil_append])
  · have hzeros : 0 < zeros.length := List.length_pos_iff.mpr hnil
    rw [List.length_append]
    exact Or.inr (by omega)

/-! ## §5 Reading and writing -/

/-- **Numerals are exact.**  Over an alphabet without repeated symbols, a text is read as a number
exactly if it is written in the alphabet and the number is its value, of at most 64 bits; computed in
words of 64 bits the value is the same.  What a number of 64 bits writes is the unique shortest of its
numerals, and it is read back as that number. -/
theorem numerals_exact (hnodup : alphabet.Nodup) (hsize : 2 ≤ alphabet.length)
    (hbytes : alphabet.length ≤ 256) :
    (∀ (symbols : List Char) (v : Nat), numeralValue? alphabet symbols = some v ↔
      (∀ c ∈ symbols, c ∈ alphabet) ∧ positionalValue alphabet symbols = v ∧ v < 2 ^ 64) ∧
    (∀ symbols : List Char,
      (wordValue? alphabet symbols).map UInt64.toNat = numeralValue? alphabet symbols) ∧
    ∀ n : UInt64,
      Denotes alphabet (numeral alphabet n.toNat) n.toNat ∧
      (∀ symbols : List Char, Denotes alphabet symbols n.toNat →
        symbols = numeral alphabet n.toNat ∨
          (numeral alphabet n.toNat).length < symbols.length) ∧
      numeralValue? alphabet (numeral alphabet n.toNat) = some n.toNat := by
  refine ⟨fun symbols v => numeralValue?_eq_some_iff (by omega), map_toNat_wordValue? hbytes,
    fun n => ⟨numeral_denotes hnodup hsize _, fun symbols h => h.eq_or_length_lt hsize, ?_⟩⟩
  exact numeralValue?_numeral hnodup hsize n.toNat_lt

/-- The sixteen digits that write bytes. -/
def hexadecimalDigits : List Char := "0123456789abcdef".toList

/-- The largest number of 64 bits is read, with zeros in front of it as well, and the next one is
not. -/
theorem numerals_exact_hexadecimal :
    hexadecimalDigits.Nodup ∧ 2 ≤ hexadecimalDigits.length ∧ hexadecimalDigits.length ≤ 256 ∧
    numeral hexadecimalDigits 18446744073709551615 = "ffffffffffffffff".toList ∧
    numeralValue? hexadecimalDigits "ffffffffffffffff".toList = some 18446744073709551615 ∧
    numeralValue? hexadecimalDigits "00ffffffffffffffff".toList = some 18446744073709551615 ∧
    ∀ v, numeralValue? hexadecimalDigits "10000000000000000".toList ≠ some v := by
  have hnodup : hexadecimalDigits.Nodup := by decide
  have hsize : 2 ≤ hexadecimalDigits.length := by decide
  have hbytes : hexadecimalDigits.length ≤ 256 := by decide
  obtain ⟨hread, -, hwrite⟩ := numerals_exact hnodup hsize hbytes
  have hlargest : numeral hexadecimalDigits 18446744073709551615 = "ffffffffffffffff".toList := by
    decide +kernel
  have hzeros : positionalValue hexadecimalDigits "00ffffffffffffffff".toList =
      18446744073709551615 := by
    decide +kernel
  have hnext : positionalValue hexadecimalDigits "10000000000000000".toList =
      18446744073709551616 := by
    decide +kernel
  have hdigits : "00ffffffffffffffff".toList.all hexadecimalDigits.contains = true := by
    decide +kernel
  refine ⟨hnodup, hsize, hbytes, hlargest, ?_, ?_, ?_⟩
  · rw [← hlargest]
    exact (hwrite 18446744073709551615).2.2
  · refine (hread _ _).mpr ⟨fun c hc => ?_, hzeros, by omega⟩
    simpa using List.all_eq_true.mp hdigits c hc
  · intro v h
    obtain ⟨-, hvalue, hlt⟩ := (hread _ _).mp h
    omega

end TopicGate.Identity
