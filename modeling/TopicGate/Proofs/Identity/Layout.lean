import TopicGate.Proofs.Identity.Symbols

/-!
# The layout of tokens

A token is as long as its identity needs, or as long as tokens have to be at least, and never longer.
Whatever is missing is made up for around the core: by a guard in front, by a second one behind, and
then by padding outside of both.  So the core of a token can be seen in it, and is the token that its
identity has where no least length is asked for.

## Main statements
* `Scheme.length_encode`: how long a code is.
* `Scheme.layout_encode`: how a code is laid out around its core.
* `token_layout`: length, symbols and layout of the token of every identity.
-/

namespace TopicGate.Identity.Scheme

variable {scheme : Scheme} {numbers : List Nat}

/-! ## §1 Codes -/

/-- A code is as long as its core, or as the least length asks for. -/
theorem length_encode (h : scheme.IsDivision) (hne : numbers ≠ []) :
    (scheme.encode numbers).length = max scheme.minLength (scheme.core numbers).length := by
  rw [encode_eq_grow scheme hne]
  apply length_grow_fence h.guards_ne_nil
  apply List.ne_nil_of_length_pos
  rw [length_paddingAlphabet h]
  decide

/-- A code is laid out around its core. -/
theorem layout_encode (h : scheme.IsDivision) (hne : numbers ≠ []) :
    Layout scheme.guards scheme.minLength (scheme.core numbers) (scheme.encode numbers) := by
  rw [encode_eq_grow scheme hne]
  apply layout_grow_fence h.guards_ne_nil
  intro c hc
  exact (paddingAlphabet_isWorking scheme numbers).notMem_guards h hc

/-- Where the core is long enough, the code is the core. -/
theorem encode_of_minLength_le (hne : numbers ≠ [])
    (hlong : scheme.minLength ≤ (scheme.core numbers).length) :
    scheme.encode numbers = scheme.core numbers := by
  have hfence : scheme.fence (checksum numbers) (scheme.core numbers) = scheme.core numbers := by
    simp only [fence]
    exact if_neg (by omega)
  rw [encode_eq_grow scheme hne, hfence, grow_of_le hlong]

/-! ## §2 Codes of one number -/

/-- The core of a single number is the first symbol with the numeral behind it. -/
theorem core_singleton (scheme : Scheme) (n : Nat) :
    scheme.core [n] = scheme.firstSymbol [n] ::
      numeral (scheme.reshuffle (scheme.firstSymbol [n]) scheme.alphabet) n := rfl

theorem length_core_singleton (h : scheme.IsDivision) (n : Nat) :
    (scheme.core [n]).length = digitCount 44 n + 1 := by
  have hsize : (scheme.reshuffle (scheme.firstSymbol [n]) scheme.alphabet).length = 44 := by
    rw [(scheme.reshuffle_perm _ _).length_eq, h.length_alphabet]
  rw [core_singleton, List.length_cons, length_numeral (by omega), hsize]

/-- The code of a single number has no separator, as a separator stands between two numbers. -/
theorem notMem_separators_of_mem_encode_singleton (h : scheme.IsDivision) {n : Nat} {c : Char}
    (hc : c ∈ scheme.encode [n]) : c ∉ scheme.separators := by
  have hworking : scheme.IsWorking (scheme.reshuffle (scheme.firstSymbol [n]) scheme.alphabet) :=
    scheme.reshuffle_perm _ _
  rcases mem_of_mem_encode h (List.cons_ne_nil n []) hc with hguard | halphabet | hcore
  · intro hseparator
    exact h.notMem_guards_of_mem_separators hseparator hguard
  · exact h.notMem_separators_of_mem_alphabet halphabet
  · rw [core_singleton] at hcore
    rcases List.mem_cons.mp hcore with rfl | hdigit
    · exact h.notMem_separators_of_mem_alphabet (firstSymbol_mem h [n])
    · apply hworking.notMem_separators h
      exact mem_of_mem_numeral (hworking.two_le_length h) hdigit

/-- Without a least length the salt leaves the bare core. -/
theorem encode_ofSalt_zero (salt : String) (minLength n : Nat) :
    (ofSalt salt 0).encode [n] = (ofSalt salt minLength).core [n] := by
  rw [encode_of_minLength_le (List.cons_ne_nil n []) (Nat.zero_le _)]
  rfl

end TopicGate.Identity.Scheme

namespace TopicGate

open Identity

/-! ## §3 Tokens -/

/-- **The layout of tokens.**  For every salt and least length, the token of an identity has one
symbol more than the identity has digits, or the least length if that is greater.  It is made of
letters and digits that are no separators.  It is laid out around the token that the identity has
without a least length, which is the first symbol and the digits: with no guard if that is long
enough, with one in front of it if one symbol is missing, and with one at either end of it, and
padding without guards around them, if more are missing. -/
theorem token_layout (salt : String) (minLength : Nat) (id : UInt64) :
    let scheme := Scheme.ofSalt salt minLength
    let token := scheme.encode [id.toNat]
    let core := (Scheme.ofSalt salt 0).encode [id.toNat]
    let digits := digitCount 44 id.toNat
    token.length = max minLength (digits + 1) ∧
    (∀ c ∈ token, c.isAlphanum = true ∧ c ∉ "cfhistuCFHISTU".toList) ∧
    core.length = digits + 1 ∧
    (∃ first ∈ scheme.alphabet,
      core = first :: numeral (scheme.reshuffle first scheme.alphabet) id.toNat) ∧
    Scheme.Layout scheme.guards minLength core token ∧
    token.countP scheme.guards.contains =
      if minLength ≤ digits + 1 then 0 else if minLength = digits + 2 then 1 else 2 := by
  intro scheme token core digits
  have h : scheme.IsDivision := Scheme.ofSalt_isDivision salt minLength
  have hcore : core = scheme.core [id.toNat] := Scheme.encode_ofSalt_zero salt minLength id.toNat
  have hlength : core.length = digits + 1 := by
    rw [hcore]
    exact Scheme.length_core_singleton h id.toNat
  have hlayout : Scheme.Layout scheme.guards minLength core token := by
    rw [hcore]
    exact Scheme.layout_encode h (List.cons_ne_nil _ _)
  refine ⟨?_, ?_, hlength, ⟨_, Scheme.firstSymbol_mem h _, hcore⟩, hlayout, ?_⟩
  · rw [← hlength, hcore]
    exact Scheme.length_encode h (List.cons_ne_nil _ _)
  · intro c hc
    refine ⟨Scheme.isAlphanum_of_mem_codeSymbols
      (Scheme.mem_codeSymbols_of_mem_encode h (List.cons_ne_nil _ _) hc), ?_⟩
    intro hseparator
    exact Scheme.notMem_separators_of_mem_encode_singleton h hc
      (h.separators_perm.mem_iff.mpr hseparator)
  · have hguards := hlayout.countP_guards fun c hc => Scheme.notMem_guards_of_mem_core h (hcore ▸ hc)
    rwa [hlength] at hguards

/-- Identity 1 has one digit, so that a token of eight symbols has both guards and two symbols of
padding in front and behind. -/
example : String.ofList ((Scheme.ofSalt "this is my salt" 0).encode [1]) = "NV" ∧
    (Scheme.ofSalt "this is my salt" 8).guards.contains '0' = true ∧
    String.ofList ((Scheme.ofSalt "this is my salt" 8).encode [1]) = "gB0NV05e" := by
  decide +kernel

end TopicGate
