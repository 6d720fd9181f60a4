import TopicGate.Identity.Numeral
import Mathlib.Data.List.GetD
import Mathlib.Data.List.Induction
import Mathlib.Data.List.Nodup
import Mathlib.Data.Nat.Digits.Defs
import Mathlib.Data.Nat.Init

/-!
# Reading numerals

A number is written with as many symbols as it has digits in the base that the alphabet gives.  Over
an alphabet without repeated symbols, its numeral is read back as that number, up to the largest of
64 bits.  Reading never gives more than 64 bits.

## Main statements
* `length_numeral`: how long a numeral is.
* `numeralValue?_numeral`: a numeral is read back.
* `numeralValue?_lt`: what is read fits into 64 bits.
-/

namespace TopicGate.Identity

/-! ## §1 Writing -/

/-- A number below the size of the alphabet is one symbol. -/
theorem numeral_of_lt {alphabet : List Char} {n : Nat} (h : n < alphabet.length) :
    numeral alphabet n = [alphabet[n]] := by
  rw [numeral, dif_pos (Or.inl h), List.getD_eq_getElem _ _ h]

/-- Any other number is the numeral of its quotient, and one symbol for the remainder. -/
theorem numeral_of_le {alphabet : List Char} {n : Nat} (hsize : 2 ≤ alphabet.length)
    (h : alphabet.length ≤ n) :
    numeral alphabet n =
      numeral alphabet (n / alphabet.length) ++
        [alphabet.get ⟨n % alphabet.length, Nat.mod_lt _ (by omega)⟩] := by
  have hmod : n % alphabet.length < alphabet.length := Nat.mod_lt _ (by omega)
  rw [numeral, dif_neg (by omega), List.getD_eq_getElem _ _ hmod, List.get_eq_getElem]

/-- A numeral is written with symbols of the alphabet. -/
theorem mem_of_mem_numeral {alphabet : List Char} (hsize : 2 ≤ alphabet.length) {n : Nat}
    {c : Char} (hc : c ∈ numeral alphabet n) : c ∈ alphabet := by
  induction n using Nat.strong_induction_on with
  | _ n ih =>
    by_cases h : n < alphabet.length
    · rw [numeral_of_lt h, List.mem_singleton] at hc
      exact hc ▸ List.getElem_mem h
    · rw [numeral_of_le hsize (by omega), List.mem_append, List.mem_singleton] at hc
      rcases hc with hc | rfl
      · exact ih _ (Nat.div_lt_self (by omega) (by omega)) hc
      · exact List.get_mem _ _

/-- How many digits a number has; zero has one. -/
def digitCount (base n : Nat) : Nat :=
  if n = 0 then 1 else (Nat.digits base n).length

theorem digitCount_of_lt {base n : Nat} (h : n < base) : digitCount base n = 1 := by
  unfold digitCount
  split
  · rfl
  · next hn => rw [Nat.digits_of_lt base n hn h, List.length_singleton]

/-- A number that is not below the base has one digit more than its quotient. -/
theorem digitCount_of_le {base n : Nat} (hbase : 2 ≤ base) (h : base ≤ n) :
    digitCount base n = digitCount base (n / base) + 1 := by
  have hquotient : n / base ≠ 0 := Nat.div_ne_zero_iff.mpr ⟨by omega, h⟩
  have hdigits : Nat.digits base n = n % base :: Nat.digits base (n / base) :=
    Nat.digits_def' (by omega) (by omega)
  rw [digitCount, if_neg (by omega), hdigits, List.length_cons, digitCount, if_neg hquotient]

/-- A numeral has one symbol for each digit. -/
theorem length_numeral {alphabet : List Char} (hsize : 2 ≤ alphabet.length) (n : Nat) :
    (numeral alphabet n).length = digitCount alphabet.length n := by
  induction n using Nat.strong_induction_on with
  | _ n ih =>
    by_cases h : n < alphabet.length
    · rw [numeral_of_lt h, digitCount_of_lt h, List.length_singleton]
    · have hquotient := ih (n / alphabet.length) (Nat.div_lt_self (by omega) (by omega))
      rw [numeral_of_le hsize (by omega), digitCount_of_le hsize (by omega), List.length_append,
        List.length_singleton, hquotient]

/-! ## §2 Reading -/

/-- The last symbol is read after all others. -/
theorem numeralValue?_concat (alphabet symbols : List Char) (c : Char) :
    numeralValue? alphabet (symbols ++ [c]) =
      (numeralValue? alphabet symbols).bind (appendSymbol? alphabet · c) := by
  simp [numeralValue?, List.foldlM_append]

theorem appendSymbol?_lt {alphabet : List Char} {before v : Nat} {c : Char}
    (h : appendSymbol? alphabet before c = some v) : v < UInt64.size := by
  simp only [appendSymbol?, Option.bind_eq_bind, Option.bind_eq_some_iff] at h
  obtain ⟨position, -, hvalue⟩ := h
  split at hvalue
  · cases hvalue
    assumption
  · cases hvalue

/-- What is read fits into 64 bits. -/
theorem numeralValue?_lt {alphabet symbols : List Char} {v : Nat}
    (h : numeralValue? alphabet symbols = some v) : v < UInt64.size := by
  induction symbols using List.reverseRecOn with
  | nil =>
    cases h
    decide
  | append_singleton symbols c _ =>
    rw [numeralValue?_concat] at h
    obtain ⟨before, -, hv⟩ := Option.bind_eq_some_iff.mp h
    exact appendSymbol?_lt hv

/-- The symbol at a position stands for that position, as no symbol is repeated. -/
theorem appendSymbol?_getElem {alphabet : List Char} (hnodup : alphabet.Nodup) {before i : Nat}
    (hi : i < alphabet.length) (hvalue : before * alphabet.length + i < UInt64.size) :
    appendSymbol? alphabet before alphabet[i] = some (before * alphabet.length + i) := by
  have hposition : alphabet.idxOf? alphabet[i] = some i := by
    rw [List.idxOf?_eq_some_iff]
    refine ⟨hi, by simp, fun j hj => ?_⟩
    have hne : alphabet[j] ≠ alphabet[i] := by
      intro heq
      have := (hnodup.getElem_inj_iff).mp heq
      omega
    simpa using hne
  simp only [appendSymbol?, hposition, Option.bind_eq_bind, Option.bind_some]
  exact if_pos hvalue

/-- A numeral is read back. -/
theorem numeralValue?_numeral {alphabet : List Char} (hnodup : alphabet.Nodup)
    (hsize : 2 ≤ alphabet.length) {n : Nat} (hn : n < UInt64.size) :
    numeralValue? alphabet (numeral alphabet n) = some n := by
  induction n using Nat.strong_induction_on with
  | _ n ih =>
    by_cases h : n < alphabet.length
    · have hread : appendSymbol? alphabet 0 alphabet[n] = some (0 * alphabet.length + n) :=
        appendSymbol?_getElem hnodup h (by omega)
      rw [Nat.zero_mul, Nat.zero_add] at hread
      rw [numeral_of_lt h]
      simpa [numeralValue?] using hread
    · have hlt : n / alphabet.length < n := Nat.div_lt_self (by omega) (by omega)
      have hmod : n % alphabet.length < alphabet.length := Nat.mod_lt _ (by omega)
      have hn' : n / alphabet.length * alphabet.length + n % alphabet.length = n :=
        Nat.div_add_mod' n alphabet.length
      rw [numeral_of_le hsize (by omega), numeralValue?_concat, ih _ hlt (by omega),
        Option.bind_some, List.get_eq_getElem, appendSymbol?_getElem hnodup hmod (by omega), hn']

end TopicGate.Identity
