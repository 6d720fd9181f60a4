import TopicGate.Proofs.Identity.Canonical

/-!
# The symbols of tokens

Whatever stands for an identity in a topic, its code or its digest, is made of letters and digits
and is not empty.

## Main statements
* `Scheme.mem_of_mem_encode`: what a code adds to its core.
* `Scheme.mem_codeSymbols_of_mem_encode`: a code is made of letters and digits.
* `isAlphanum_of_mem_secondaryHash`: a digest is made of letters and digits.
-/

namespace TopicGate

namespace Identity.Scheme

/-! ## §1 Codes -/

variable {scheme : Scheme} {numbers : List Nat} {c : Char}

namespace IsDivision

theorem mem_codeSymbols_of_mem_alphabet (h : scheme.IsDivision) (hc : c ∈ scheme.alphabet) :
    c ∈ codeSymbols :=
  h.perm.mem_iff.mp (List.mem_append_right _ (List.mem_append_right _ hc))

theorem mem_codeSymbols_of_mem_separators (h : scheme.IsDivision) (hc : c ∈ scheme.separators) :
    c ∈ codeSymbols :=
  h.perm.mem_iff.mp (List.mem_append_left _ hc)

theorem mem_codeSymbols_of_mem_guards (h : scheme.IsDivision) (hc : c ∈ scheme.guards) :
    c ∈ codeSymbols :=
  h.perm.mem_iff.mp (List.mem_append_right _ (List.mem_append_left _ hc))

end IsDivision

/-- A fence adds nothing but guards. -/
theorem mem_of_mem_fence (h : scheme.IsDivision) {sum : Nat} {core : List Char}
    (hc : c ∈ scheme.fence sum core) : c ∈ scheme.guards ∨ c ∈ core := by
  rcases fence_cases h.guards_ne_nil sum core with
    ⟨-, hfence⟩ | ⟨-, g, hg, hfence⟩ | ⟨-, g, hg, g', hg', hfence⟩
  · rw [hfence] at hc
    exact Or.inr hc
  · rw [hfence] at hc
    rcases List.mem_cons.mp hc with rfl | hc
    · exact Or.inl hg
    · exact Or.inr hc
  · rw [hfence] at hc
    rcases List.mem_cons.mp hc with rfl | hc
    · exact Or.inl hg
    · rcases List.mem_append.mp hc with hc | hc
      · exact Or.inr hc
      · rw [List.mem_singleton.mp hc]
        exact Or.inl hg'

/-- A code adds nothing but guards and symbols that write numbers to its core. -/
theorem mem_of_mem_encode (h : scheme.IsDivision) (hne : numbers ≠ [])
    (hc : c ∈ scheme.encode numbers) :
    c ∈ scheme.guards ∨ c ∈ scheme.alphabet ∨ c ∈ scheme.core numbers := by
  obtain ⟨front, back, hgrow, hfront, hback⟩ := grow_eq_append scheme.minLength
    (scheme.paddingAlphabet numbers) (scheme.fence (checksum numbers) (scheme.core numbers))
  have hpadding : c ∈ scheme.paddingAlphabet numbers → c ∈ scheme.alphabet :=
    (paddingAlphabet_isWorking scheme numbers).mem_iff.mp
  rw [encode_eq_grow scheme hne, hgrow] at hc
  rcases List.mem_append.mp hc with hc | hc
  · rcases List.mem_append.mp hc with hc | hc
    · exact Or.inr (Or.inl (hpadding (hfront c hc)))
    · exact (mem_of_mem_fence h hc).imp_right Or.inr
  · exact Or.inr (Or.inl (hpadding (hback c hc)))

/-- A code is made of letters and digits. -/
theorem mem_codeSymbols_of_mem_encode (h : scheme.IsDivision) (hne : numbers ≠ [])
    (hc : c ∈ scheme.encode numbers) : c ∈ codeSymbols := by
  rcases mem_of_mem_encode h hne hc with hc | hc | hc
  · exact h.mem_codeSymbols_of_mem_guards hc
  · exact h.mem_codeSymbols_of_mem_alphabet hc
  · rcases List.mem_cons.mp hc with rfl | hc
    · exact h.mem_codeSymbols_of_mem_alphabet (firstSymbol_mem h numbers)
    · rcases mem_of_mem_writeNumbers h (List.Perm.refl _) hc with hc | hc
      · exact h.mem_codeSymbols_of_mem_alphabet hc
      · exact h.mem_codeSymbols_of_mem_separators hc

/-- A code is not empty, as it has a core. -/
theorem encode_ne_nil (h : scheme.IsDivision) (hne : numbers ≠ []) : scheme.encode numbers ≠ [] := by
  intro hnil
  have hcore := coreOf_encode h hne
  rw [hnil] at hcore
  cases hcore

theorem isAlphanum_of_mem_codeSymbols (hc : c ∈ codeSymbols) : c.isAlphanum = true := by
  have hall : codeSymbols.all Char.isAlphanum = true := by decide +kernel
  exact List.all_eq_true.mp hall c hc

end Identity.Scheme

/-! ## §2 Digests -/

theorem isAlphanum_digitChar {n : Nat} (h : n < 16) : (Nat.digitChar n).isAlphanum = true := by
  have hall : ∀ n : Fin 16, (Nat.digitChar n).isAlphanum = true := by decide
  exact hall ⟨n, h⟩

/-- A digest is made of letters and digits. -/
theorem isAlphanum_of_mem_secondaryHash {id : UInt64} {c : Char}
    (hc : c ∈ (secondaryHash id).toList) : c.isAlphanum = true := by
  rw [secondaryHash, Digest.Md5.hex, String.toList_ofList, List.mem_flatMap] at hc
  obtain ⟨byte, -, hc⟩ := hc
  have hbyte : byte.toNat < 256 := byte.toNat_lt
  rcases List.mem_cons.mp hc with rfl | hc
  · exact isAlphanum_digitChar (by omega)
  · rw [List.mem_singleton.mp hc]
    exact isAlphanum_digitChar (by omega)

theorem secondaryHash_ne_empty (id : UInt64) : secondaryHash id ≠ "" := by
  intro hempty
  have hnil : (secondaryHash id).toList = [] := by
    rw [hempty]
    rfl
  rw [secondaryHash, Digest.Md5.hex, String.toList_ofList] at hnil
  cases hnil

/-! ## §3 Tokens -/

/-- A token is not empty and made of letters and digits, whatever the salts. -/
theorem IdentityCodec.encode_symbols {params : PerAudience CodecParams} {audience : Audience}
    {id : UInt64} {token : String} (h : (ofParams params).encode id audience = .ok token) :
    token ≠ "" ∧ ∀ c ∈ token.toList, c.isAlphanum = true := by
  obtain ⟨scheme, hscheme, hcode⟩ := encode_eq_ok_iff.mp h
  have hdivision := isDivision_of_get? hscheme
  constructor
  · rintro rfl
    exact Identity.Scheme.encode_ne_nil hdivision (by simp) hcode
  · intro c hc
    rw [← hcode] at hc
    exact Identity.Scheme.isAlphanum_of_mem_codeSymbols
      (Identity.Scheme.mem_codeSymbols_of_mem_encode hdivision (by simp) hc)

end TopicGate
