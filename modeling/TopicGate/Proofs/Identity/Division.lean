import TopicGate.Identity.Scheme
import Mathlib.Data.List.GetD
import Mathlib.Data.List.Nodup

/-!
# Divisions of the alphabet

A salt divides the 62 letters and digits into separators, guards and symbols that write numbers.
However the salt shuffles, no letter or digit is lost, none is used twice, and the three parts have
fixed sizes.  All that makes codes readable follows from this.

## Main statements
* `ofSalt_isDivision`: every salt makes a division.
* `reshuffle_perm`: the working alphabet of a code is always the same set of symbols.
-/

namespace TopicGate.Identity.Scheme

/-! ## §1 Divisions -/

/-- The parts of a scheme are the letters and digits, each once, with the separators chosen as
`separatorSymbols` and as many guards as `guardCount`. -/
structure IsDivision (scheme : Scheme) : Prop where
  perm : (scheme.separators ++ (scheme.guards ++ scheme.alphabet)).Perm codeSymbols
  separators_perm : scheme.separators.Perm separatorSymbols
  length_guards : scheme.guards.length = guardCount

theorem codeSymbols_nodup : codeSymbols.Nodup := by decide +kernel

/-- The separators and all other symbols together are the letters and digits. -/
theorem separatorSymbols_append_others_perm :
    (separatorSymbols ++ codeSymbols.filter fun c => !separatorSymbols.contains c).Perm
      codeSymbols := by
  decide +kernel

theorem length_others :
    (codeSymbols.filter fun c => !separatorSymbols.contains c).length = 48 := by
  decide +kernel

/-- Every salt makes a division. -/
theorem ofSalt_isDivision (salt : String) (minLength : Nat) :
    (ofSalt salt minLength).IsDivision := by
  -- The separators and the other symbols are shuffled each for themselves.
  have hseparators : (ofSalt salt minLength).separators.Perm separatorSymbols := shuffle_perm _ _
  have hrest : ((ofSalt salt minLength).guards ++ (ofSalt salt minLength).alphabet).Perm
      (codeSymbols.filter fun c => !separatorSymbols.contains c) := by
    simp only [ofSalt, List.take_append_drop]
    exact shuffle_perm _ _
  refine ⟨?_, hseparators, ?_⟩
  · exact (hseparators.append hrest).trans separatorSymbols_append_others_perm
  · simp only [ofSalt, List.length_take, length_shuffle, length_others]
    rfl

namespace IsDivision

variable {scheme : Scheme} (h : scheme.IsDivision)
include h

theorem nodup_parts : (scheme.separators ++ (scheme.guards ++ scheme.alphabet)).Nodup :=
  h.perm.nodup_iff.mpr codeSymbols_nodup

theorem nodup_alphabet : scheme.alphabet.Nodup :=
  (List.nodup_append.mp (List.nodup_append.mp h.nodup_parts).2.1).2.1

/-- There are 14 separators. -/
theorem length_separators : scheme.separators.length = 14 := by
  rw [h.separators_perm.length_eq]
  rfl

theorem separators_ne_nil : scheme.separators ≠ [] := by
  rw [← List.length_pos_iff, h.length_separators]
  decide

theorem guards_ne_nil : scheme.guards ≠ [] := by
  rw [← List.length_pos_iff, h.length_guards]
  decide

/-- There are 44 symbols that write numbers. -/
theorem length_alphabet : scheme.alphabet.length = 44 := by
  have htotal := h.perm.length_eq
  have hsymbols : codeSymbols.length = 62 := by decide +kernel
  have hguards : scheme.guards.length = 4 := h.length_guards
  simp only [List.length_append, h.length_separators, hguards, hsymbols] at htotal
  omega

theorem alphabet_ne_nil : scheme.alphabet ≠ [] := by
  rw [← List.length_pos_iff, h.length_alphabet]
  decide

/-- A symbol that writes numbers is no guard. -/
theorem notMem_guards_of_mem_alphabet {c : Char} (hc : c ∈ scheme.alphabet) :
    c ∉ scheme.guards := fun hguard =>
  List.disjoint_of_nodup_append (List.nodup_append.mp h.nodup_parts).2.1 hguard hc

/-- A symbol that writes numbers is no separator. -/
theorem notMem_separators_of_mem_alphabet {c : Char} (hc : c ∈ scheme.alphabet) :
    c ∉ scheme.separators := fun hseparator =>
  List.disjoint_of_nodup_append h.nodup_parts hseparator (List.mem_append_right _ hc)

/-- A separator is no guard. -/
theorem notMem_guards_of_mem_separators {c : Char} (hc : c ∈ scheme.separators) :
    c ∉ scheme.guards := fun hguard =>
  List.disjoint_of_nodup_append h.nodup_parts hc (List.mem_append_left _ hguard)

end IsDivision

/-- A symbol that is chosen by a remainder is one of those it is chosen from. -/
theorem getD_mod_mem {symbols : List Char} (hne : symbols ≠ []) (n : Nat) :
    symbols.getD (n % symbols.length) '0' ∈ symbols := by
  have hlt : n % symbols.length < symbols.length := Nat.mod_lt _ (List.length_pos_iff.mpr hne)
  rw [List.getD_eq_getElem _ _ hlt]
  exact List.getElem_mem hlt

/-! ## §2 Working alphabets -/

/-- A reordering of the symbols that write numbers, as they stand while a code is written or
read. -/
abbrev IsWorking (scheme : Scheme) (alphabet : List Char) : Prop :=
  alphabet.Perm scheme.alphabet

/-- Reshuffling for the next number keeps the set of symbols. -/
theorem reshuffle_perm (scheme : Scheme) (lottery : Char) (alphabet : List Char) :
    (scheme.reshuffle lottery alphabet).Perm alphabet :=
  shuffle_perm _ _

namespace IsWorking

variable {scheme : Scheme} {alphabet : List Char} (halphabet : scheme.IsWorking alphabet)
include halphabet

theorem reshuffle (lottery : Char) : scheme.IsWorking (scheme.reshuffle lottery alphabet) :=
  (scheme.reshuffle_perm lottery alphabet).trans halphabet

theorem nodup (h : scheme.IsDivision) : alphabet.Nodup :=
  halphabet.nodup_iff.mpr h.nodup_alphabet

theorem two_le_length (h : scheme.IsDivision) : 2 ≤ alphabet.length := by
  rw [halphabet.length_eq, h.length_alphabet]
  decide

theorem notMem_guards (h : scheme.IsDivision) {c : Char} (hc : c ∈ alphabet) :
    c ∉ scheme.guards :=
  h.notMem_guards_of_mem_alphabet (halphabet.mem_iff.mp hc)

theorem notMem_separators (h : scheme.IsDivision) {c : Char} (hc : c ∈ alphabet) :
    c ∉ scheme.separators :=
  h.notMem_separators_of_mem_alphabet (halphabet.mem_iff.mp hc)

end IsWorking

end TopicGate.Identity.Scheme
