import TopicGate.Proofs.Identity.Canonical
import Mathlib.Algebra.Order.Floor.Div
import Mathlib.GroupTheory.GroupAction.Ring

/-!
# The symbols of a scheme

However a salt shuffles, the letters and digits are divided in the same proportions, and whatever
happens to the alphabet while codes are written, read and padded, it keeps its symbols.

## Main definitions
* `Scheme.proportioned`: the division that proportions between the parts ask for.
* `Reordering`: what is done to an alphabet while a code is written, read or padded.

## Main statements
* `ofSalt_eq_proportioned`: a scheme has the proportions.
* `reorder_perm`: any number of reorderings keeps the symbols.
* `readNumbers?_eq_mapM`, `grow_eq_padded`: the reorderings with which a code is read and padded.
* `symbols_kept`: all of this for every salt.
-/

namespace TopicGate.Identity

namespace Scheme

/-! ## §1 Proportions -/

/-- Separators and other symbols in proportion.  More than 3.5 other symbols for each separator are
too many: then as many of them become separators as are missing. -/
def proportion (separators others : List Char) : List Char × List Char :=
  if 7 * separators.length < 2 * others.length then
    let wanted := max ((2 * others.length) ⌈/⌉ 7) 2
    let missing := wanted - separators.length
    if separators.length < wanted then
      (separators ++ others.take missing, others.drop missing)
    else (separators.take wanted, others)
  else (separators, others)

theorem proportion_of_le {separators others : List Char}
    (h : 2 * others.length ≤ 7 * separators.length) :
    proportion separators others = (separators, others) :=
  if_neg (by omega)

/-- The division that proportions ask for, with a guard for every twelve symbols. -/
def proportioned (salt : String) (minLength : Nat) : Scheme :=
  let key := salt.toUTF8.toList.map UInt8.toNat
  let parts := proportion (shuffle key separatorSymbols)
    (codeSymbols.filter fun c => !separatorSymbols.contains c)
  let others := shuffle key parts.2
  let guardCount := others.length ⌈/⌉ 12
  { salt := key
    minLength
    alphabet := others.drop guardCount
    separators := parts.1
    guards := others.take guardCount }

/-- There are 48 other symbols for 14 separators, which is less than 3.5 for each, and 4 guards. -/
theorem ofSalt_eq_proportioned (salt : String) (minLength : Nat) :
    ofSalt salt minLength = proportioned salt minLength := by
  have hseparators : separatorSymbols.length = 14 := by decide
  have hguards : 48 ⌈/⌉ 12 = guardCount := by decide
  have hproportion : proportion (shuffle (salt.toUTF8.toList.map UInt8.toNat) separatorSymbols)
      (codeSymbols.filter fun c => !separatorSymbols.contains c) =
        (shuffle (salt.toUTF8.toList.map UInt8.toNat) separatorSymbols,
          codeSymbols.filter fun c => !separatorSymbols.contains c) := by
    apply proportion_of_le
    rw [length_shuffle, length_others, hseparators]
    decide
  simp only [proportioned, hproportion, length_shuffle, length_others, hguards]
  rfl

/-! ## §2 Reorderings -/

/-- What is done to the alphabet. -/
inductive Reordering where
  /-- It is reordered for the next number of a code that starts with `lottery`. -/
  | number (lottery : Char)
  /-- It is shuffled by itself for a round of padding. -/
  | padding

def Reordering.apply (scheme : Scheme) (alphabet : List Char) : Reordering → List Char
  | number lottery => scheme.reshuffle lottery alphabet
  | padding => shuffle (symbolKey alphabet) alphabet

/-- The alphabet after some reorderings. -/
def reorder (scheme : Scheme) (alphabet : List Char) (steps : List Reordering) : List Char :=
  steps.foldl (Reordering.apply scheme) alphabet

theorem Reordering.apply_perm (scheme : Scheme) (alphabet : List Char) (step : Reordering) :
    (step.apply scheme alphabet).Perm alphabet := by
  cases step with
  | number lottery => exact scheme.reshuffle_perm lottery alphabet
  | padding => exact shuffle_perm _ _

/-- Any number of reorderings keeps the symbols. -/
theorem reorder_perm (scheme : Scheme) (alphabet : List Char) (steps : List Reordering) :
    (scheme.reorder alphabet steps).Perm alphabet := by
  induction steps generalizing alphabet with
  | nil => exact List.Perm.refl _
  | cons step steps ih => exact (ih _).trans (step.apply_perm scheme alphabet)

/-- A code is padded with the alphabet that is left of one reordering for each of its numbers. -/
theorem writeNumbers_fst (scheme : Scheme) (lottery : Char) (alphabet : List Char) (i : Nat)
    (numbers : List Nat) :
    (scheme.writeNumbers lottery alphabet i numbers).1 =
      scheme.reorder alphabet (List.replicate numbers.length (.number lottery)) := by
  fun_induction writeNumbers scheme lottery alphabet i numbers with
  | case1 => rfl
  | case2 => rfl
  | case3 alphabet i n rest _ alphabet' digits last symbols hwrite ih =>
    rw [hwrite] at ih
    rw [ih]
    rfl

/-- The pieces of a code are read over the alphabets that are left of one reordering for each of
them. -/
theorem readNumbers?_eq_mapM (scheme : Scheme) (lottery : Char) (alphabet : List Char)
    (pieces : List (List Char)) (k : Nat) :
    scheme.readNumbers? lottery (scheme.reorder alphabet (List.replicate k (.number lottery))) pieces =
      (pieces.zipIdx (k + 1)).mapM fun entry =>
        numeralValue? (scheme.reorder alphabet (List.replicate entry.2 (.number lottery))) entry.1 := by
  induction pieces generalizing k with
  | nil => rfl
  | cons piece pieces ih =>
    have hnext : scheme.reshuffle lottery
        (scheme.reorder alphabet (List.replicate k (.number lottery))) =
          scheme.reorder alphabet (List.replicate (k + 1) (.number lottery)) := by
      rw [reorder, reorder, List.replicate_succ', List.foldl_append]
      rfl
    rw [readNumbers?, hnext, ih (k + 1), List.zipIdx_cons, List.mapM_cons]

/-! ## §3 Padding -/

/-- A code after some rounds of padding.  A round shuffles the alphabet once more and puts its halves
around the code. -/
def padded (scheme : Scheme) (alphabet code : List Char) : Nat → List Char
  | 0 => code
  | round + 1 =>
    let order := scheme.reorder alphabet (List.replicate (round + 1) .padding)
    order.drop (order.length / 2) ++ padded scheme alphabet code round ++
      order.take (order.length / 2)

theorem length_padded (scheme : Scheme) (alphabet code : List Char) (rounds : Nat) :
    (scheme.padded alphabet code rounds).length = code.length + rounds * alphabet.length := by
  induction rounds with
  | zero => simp [padded]
  | succ round ih =>
    have horder := (scheme.reorder_perm alphabet (List.replicate (round + 1) .padding)).length_eq
    simp only [padded, List.length_append, List.length_drop, List.length_take, ih, horder,
      Nat.add_mul]
    omega

/-- The first round may be made before the others. -/
theorem padded_succ (scheme : Scheme) (alphabet code : List Char) (rounds : Nat) :
    scheme.padded alphabet code (rounds + 1) =
      scheme.padded (shuffle (symbolKey alphabet) alphabet) (scheme.padded alphabet code 1) rounds := by
  induction rounds with
  | zero => rfl
  | succ round ih =>
    rw [padded, ih, padded]
    rfl

/-- **Rounds of padding.**  A code that is too short has as many rounds as make up for what is
missing, and the last one is cut to the least length. -/
theorem grow_eq_padded (scheme : Scheme) {minLength : Nat} {alphabet code : List Char}
    (hne : alphabet ≠ []) (hshort : code.length < minLength) :
    let text := scheme.padded alphabet code ((minLength - code.length) ⌈/⌉ alphabet.length)
    grow minLength alphabet code = (text.drop ((text.length - minLength) / 2)).take minLength := by
  fun_induction grow minLength alphabet code with
  | case1 alphabet code h alphabet' half padded' hlong =>
    have hpos : 0 < alphabet.length := List.length_pos_iff.mpr hne
    have hlength : padded'.length = code.length + 1 * alphabet.length :=
      scheme.length_padded alphabet code 1
    -- One round is enough.
    have hrounds : (minLength - code.length) ⌈/⌉ alphabet.length = 1 := by
      rw [Nat.ceilDiv_eq_add_pred_div]
      apply Nat.div_eq_of_lt_le <;> omega
    rw [hrounds]
    rfl
  | case2 alphabet code h alphabet' half padded' hlong ih =>
    have hpos : 0 < alphabet.length := List.length_pos_iff.mpr hne
    have hlength : padded'.length = code.length + 1 * alphabet.length :=
      scheme.length_padded alphabet code 1
    have hsize : alphabet'.length = alphabet.length := length_shuffle _ _
    have hrounds : (minLength - code.length) ⌈/⌉ alphabet.length =
        (minLength - padded'.length) ⌈/⌉ alphabet'.length + 1 := by
      rw [Nat.ceilDiv_eq_add_pred_div, Nat.ceilDiv_eq_add_pred_div, hsize,
        ← Nat.add_div_right _ hpos]
      congr 1
      omega
    rw [hrounds, padded_succ]
    by_cases hmore : padded'.length < minLength
    · exact ih (List.ne_nil_of_length_pos (by omega)) hmore
    · -- The round has just reached the least length.
      have hdone : minLength = padded'.length := by omega
      have hnone : (minLength - padded'.length) ⌈/⌉ alphabet'.length = 0 := by
        rw [hdone, Nat.sub_self, zero_ceilDiv]
      have htext : scheme.padded alphabet' (scheme.padded alphabet code 1) 0 = padded' := rfl
      rw [grow_of_le hdone.le, hnone, htext, hdone]
      simp only [Nat.sub_self, Nat.zero_div, List.drop_zero, List.take_length]
  | case3 alphabet code h => exact absurd ⟨hshort, hne⟩ h

end Scheme

end TopicGate.Identity

namespace TopicGate

open Identity

/-! ## §4 The symbols of a scheme -/

/-- **Symbols are kept.**  Every salt divides the 62 letters and digits into 44 symbols that write
numbers, 14 separators and 4 guards, as the proportions ask for: no part has a symbol twice, no two
parts share one, and together they are the letters and digits; the separators are the fourteen letters
in some order.  Whatever first symbol the alphabet is reordered for, however often, and however often
it is shuffled by itself, it is a permutation of the 44 symbols.  With such alphabets codes are read
and padded: each piece is read after one more reordering, a code is padded with what one reordering
for each of its numbers has left, and each round of padding shuffles that once more. -/
theorem symbols_kept (salt : String) (minLength : Nat) :
    let scheme := Scheme.ofSalt salt minLength
    scheme = Scheme.proportioned salt minLength ∧
    (scheme.alphabet.length = 44 ∧ scheme.separators.length = 14 ∧ scheme.guards.length = 4) ∧
    (scheme.alphabet.Nodup ∧ scheme.separators.Nodup ∧ scheme.guards.Nodup) ∧
    (scheme.alphabet.Disjoint scheme.separators ∧ scheme.alphabet.Disjoint scheme.guards ∧
      scheme.separators.Disjoint scheme.guards) ∧
    (scheme.alphabet ++ scheme.separators ++ scheme.guards).Perm
      "abcdefghijklmnopqrstuvwxyzABCDEFGHIJKLMNOPQRSTUVWXYZ1234567890".toList ∧
    scheme.separators.Perm "cfhistuCFHISTU".toList ∧
    (∀ steps : List Scheme.Reordering,
      (scheme.reorder scheme.alphabet steps).Perm scheme.alphabet) ∧
    (∀ numbers : List Nat, scheme.paddingAlphabet numbers =
      scheme.reorder scheme.alphabet
        (List.replicate numbers.length (.number (scheme.firstSymbol numbers)))) ∧
    (∀ (lottery : Char) (pieces : List (List Char)),
      scheme.readNumbers? lottery scheme.alphabet pieces = (pieces.zipIdx 1).mapM fun entry =>
        numeralValue? (scheme.reorder scheme.alphabet (List.replicate entry.2 (.number lottery)))
          entry.1) ∧
    ∀ (numbers : List Nat) (code : List Char),
      Scheme.grow minLength (scheme.paddingAlphabet numbers) code =
        if code.length < minLength then
          let text := scheme.padded (scheme.paddingAlphabet numbers) code
            ((minLength - code.length) ⌈/⌉ 44)
          (text.drop ((text.length - minLength) / 2)).take minLength
        else code := by
  intro scheme
  have h : scheme.IsDivision := Scheme.ofSalt_isDivision salt minLength
  obtain ⟨hseparators, hrest, -⟩ := List.nodup_append.mp h.nodup_parts
  have hparts : (scheme.alphabet ++ scheme.separators ++ scheme.guards).Perm
      (scheme.separators ++ (scheme.guards ++ scheme.alphabet)) := by
    rw [List.append_assoc, ← List.append_assoc scheme.separators]
    exact List.perm_append_comm
  refine ⟨Scheme.ofSalt_eq_proportioned salt minLength,
    ⟨h.length_alphabet, h.length_separators, h.length_guards⟩,
    ⟨h.nodup_alphabet, hseparators, (List.nodup_append.mp hrest).1⟩, ⟨?_, ?_, ?_⟩,
    hparts.trans h.perm, h.separators_perm, scheme.reorder_perm scheme.alphabet,
    fun numbers => scheme.writeNumbers_fst _ scheme.alphabet 0 numbers,
    fun lottery pieces => scheme.readNumbers?_eq_mapM lottery scheme.alphabet pieces 0,
    fun numbers code => ?_⟩
  · exact fun c hc => h.notMem_separators_of_mem_alphabet hc
  · exact fun c hc => h.notMem_guards_of_mem_alphabet hc
  · exact fun c hc => h.notMem_guards_of_mem_separators hc
  · have hlength := Scheme.length_paddingAlphabet h numbers
    split
    · next hshort =>
      rw [← hlength]
      exact scheme.grow_eq_padded (List.ne_nil_of_length_pos (by omega)) hshort
    · next hlong => exact Scheme.grow_of_le (Nat.le_of_not_lt hlong)

end TopicGate
