import TopicGate.Proofs.Identity.Canonical

/-!
# Salts that make one scheme

A shuffle reads one value of its key for each position that it fills, and no salt is used on more
than 48 symbols.  Salts that differ only behind their first 47 bytes therefore make one scheme: under
such salts the audiences of a deployment share their tokens.

## Main statements
* `shuffle_append`: how much of a key a shuffle reads.
* `Scheme.ofSalt_alike`, `Scheme.Alike.encode_eq`: one code for both salts.
* `tokens_shared_of_saltsAgree`: a token of one audience is read by the other.
-/

namespace TopicGate.Identity

/-! ## §1 What a shuffle reads of its key -/

variable {α : Type}

theorem shuffleFrom_append {key : List Nat} (rest : List Nat) {i v : Nat} (h : v + i ≤ key.length)
    (p : Nat) (xs : Array α) :
    shuffleFrom (key ++ rest).toArray i v p xs = shuffleFrom key.toArray i v p xs := by
  induction i generalizing v p xs with
  | zero => rfl
  | succ i ih =>
    have hv : v < key.length := by omega
    have hlong : v % (key ++ rest).toArray.size = v := by
      rw [List.size_toArray, List.length_append]
      exact Nat.mod_eq_of_lt (by omega)
    have hshort : v % key.toArray.size = v := by
      rw [List.size_toArray]
      exact Nat.mod_eq_of_lt hv
    have hvalue : (key ++ rest).toArray.getD v 0 = key.toArray.getD v 0 := by
      rw [Array.getD_eq_getD_getElem?, Array.getD_eq_getD_getElem?, List.getElem?_toArray,
        List.getElem?_toArray, List.getElem?_append_left hv]
    simp only [shuffleFrom, hlong, hshort, hvalue]
    exact ih (by omega) _ _

/-- A shuffle reads one value of its key for each position but the first. -/
theorem shuffle_append {key : List Nat} (hne : key ≠ []) (rest : List Nat) {xs : List α}
    (h : xs.length ≤ key.length + 1) : shuffle (key ++ rest) xs = shuffle key xs := by
  have hne' : key ++ rest ≠ [] := List.append_ne_nil_of_left_ne_nil hne rest
  rw [shuffle, shuffle, if_neg hne, if_neg hne', shuffleFrom_append rest (by omega)]

/-! ## §2 Salts that agree -/

/-- Two salts with the same 47 bytes in front. -/
def SaltsAgree (salt salt' : String) : Prop :=
  ∃ shared : List UInt8, shared.length = 47 ∧ shared <+: salt.toUTF8.toList ∧
    shared <+: salt'.toUTF8.toList

namespace Scheme

/-- Schemes that write the same codes: they differ at most in what is never read of their salts. -/
structure Alike (scheme scheme' : Scheme) : Prop where
  minLength : scheme.minLength = scheme'.minLength
  alphabet : scheme.alphabet = scheme'.alphabet
  separators : scheme.separators = scheme'.separators
  guards : scheme.guards = scheme'.guards
  reshuffle : ∀ (lottery : Char) {alphabet : List Char}, alphabet.length = 44 →
    scheme.reshuffle lottery alphabet = scheme'.reshuffle lottery alphabet

/-- The key of a working alphabet reaches over the first 43 values of a longer salt. -/
theorem reshuffle_eq {scheme : Scheme} {shared rest : List Nat} (hsalt : scheme.salt = shared ++ rest)
    (hlength : shared.length = 47) (lottery : Char) {alphabet : List Char}
    (halphabet : alphabet.length = 44) :
    scheme.reshuffle lottery alphabet =
      shuffle ((lottery.toNat :: shared).take alphabet.length) alphabet := by
  have hkey : (lottery.toNat :: (scheme.salt ++ symbolKey alphabet)).take alphabet.length =
      (lottery.toNat :: shared).take alphabet.length := by
    rw [hsalt, List.append_assoc, ← List.cons_append, List.take_append_of_le_length]
    rw [List.length_cons]
    omega
  rw [Scheme.reshuffle, hkey]

/-- Salts that agree make alike schemes. -/
theorem ofSalt_alike {salt salt' : String} (h : SaltsAgree salt salt') (minLength : Nat) :
    (ofSalt salt minLength).Alike (ofSalt salt' minLength) := by
  obtain ⟨bytes, hlength, ⟨rest, hrest⟩, ⟨rest', hrest'⟩⟩ := h
  have hkey : salt.toUTF8.toList.map UInt8.toNat =
      bytes.map UInt8.toNat ++ rest.map UInt8.toNat := by
    rw [← hrest, List.map_append]
  have hkey' : salt'.toUTF8.toList.map UInt8.toNat =
      bytes.map UInt8.toNat ++ rest'.map UInt8.toNat := by
    rw [← hrest', List.map_append]
  have hshared : (bytes.map UInt8.toNat).length = 47 := by rw [List.length_map, hlength]
  have hne : bytes.map UInt8.toNat ≠ [] := by
    rw [← List.length_pos_iff, hshared]
    decide
  -- Both shuffles of the division are short enough for the shared bytes.
  have hshuffle : ∀ {symbols : List Char}, symbols.length ≤ 48 →
      shuffle (salt.toUTF8.toList.map UInt8.toNat) symbols =
        shuffle (salt'.toUTF8.toList.map UInt8.toNat) symbols := by
    intro symbols hsymbols
    rw [hkey, hkey', shuffle_append hne _ (by omega), shuffle_append hne _ (by omega)]
  have hothers := hshuffle length_others.le
  refine ⟨rfl, ?_, hshuffle (by decide), ?_, ?_⟩
  · exact congrArg (List.drop guardCount) hothers
  · exact congrArg (List.take guardCount) hothers
  · intro lottery alphabet halphabet
    rw [reshuffle_eq hkey hshared lottery halphabet, reshuffle_eq hkey' hshared lottery halphabet]

namespace Alike

variable {scheme scheme' : Scheme} (h : scheme.Alike scheme')
include h

theorem separatorFor_eq (n i : Nat) (digits : List Char) :
    scheme.separatorFor n i digits = scheme'.separatorFor n i digits := by
  rw [separatorFor, separatorFor, h.separators]

theorem fence_eq (sum : Nat) (core : List Char) : scheme.fence sum core = scheme'.fence sum core := by
  rw [fence, fence, h.guards, h.minLength]

theorem writeNumbers_eq (lottery : Char) {alphabet : List Char} (halphabet : alphabet.length = 44)
    (i : Nat) (numbers : List Nat) :
    scheme.writeNumbers lottery alphabet i numbers =
      scheme'.writeNumbers lottery alphabet i numbers := by
  induction numbers generalizing alphabet i with
  | nil => rfl
  | cons n numbers ih =>
    cases numbers with
    | nil => rw [writeNumbers, writeNumbers, h.reshuffle lottery halphabet]
    | cons m numbers =>
      have hlength : (scheme'.reshuffle lottery alphabet).length = 44 := by
        rw [(scheme'.reshuffle_perm lottery alphabet).length_eq, halphabet]
      have hcons : ∀ s : Scheme, s.writeNumbers lottery alphabet i (n :: m :: numbers) =
          let alphabet := s.reshuffle lottery alphabet
          let digits := numeral alphabet n
          let behind := s.writeNumbers lottery alphabet (i + 1) (m :: numbers)
          (behind.1, digits ++ s.separatorFor n i digits :: behind.2) := fun _ => rfl
      simp only [hcons, h.reshuffle lottery halphabet, ih hlength, h.separatorFor_eq]

/-- Alike schemes have one code for each list of numbers. -/
theorem encode_eq (hdivision : scheme.IsDivision) (numbers : List Nat) :
    scheme.encode numbers = scheme'.encode numbers := by
  have hlength : scheme'.alphabet.length = 44 := by
    rw [← h.alphabet]
    exact hdivision.length_alphabet
  rw [encode, encode]
  simp only [h.alphabet, h.minLength, h.fence_eq, h.writeNumbers_eq _ hlength]

end Alike

end Scheme

end TopicGate.Identity

namespace TopicGate

open Identity

/-! ## §3 Tokens of two audiences -/

/-- **Audiences share the tokens of salts that agree.**  A token of one audience is read by the other
as the same identity exactly if it is the token of this identity there.  For salts with the same 47
bytes in front and one least length this is so for every identity. -/
theorem tokens_shared_of_saltsAgree {params : PerAudience CodecParams} {audience : Audience}
    {p p' : CodecParams} (hp : params.get? audience = some p)
    (hp' : params.get? audience.peer = some p') :
    (∀ id token, (IdentityCodec.ofParams params).encode id audience = .ok token →
      ((IdentityCodec.ofParams params).decode token audience.peer = .ok id ↔
        (IdentityCodec.ofParams params).encode id audience.peer = .ok token)) ∧
    (SaltsAgree p.salt p'.salt → p.length = p'.length →
      ∀ id, ∃ token, (IdentityCodec.ofParams params).encode id audience = .ok token ∧
        (IdentityCodec.ofParams params).decode token audience.peer = .ok id) := by
  refine ⟨fun id token _ => ⟨IdentityCodec.encode_of_decode, IdentityCodec.decode_of_encode⟩, ?_⟩
  intro hsalts hlengths id
  have hcode := (Scheme.ofSalt_alike hsalts p.length.toNat).encode_eq
    (Scheme.ofSalt_isDivision _ _) [id.toNat]
  refine ⟨_, IdentityCodec.encode_ofParams hp id, IdentityCodec.decode_of_encode ?_⟩
  rw [IdentityCodec.encode_ofParams hp' id, hcode, hlengths]

/-- Salts that are told apart by the names of the audiences at their end. -/
def longSalts : PerAudience CodecParams where
  driver := some ⟨"identity-token-salt-of-the-production-deployment-driver", 15⟩
  passenger := some ⟨"identity-token-salt-of-the-production-deployment-passenger", 15⟩

/-- Under such salts every driver is read as a passenger. -/
theorem tokens_shared_of_saltsAgree_long :
    SaltsAgree "identity-token-salt-of-the-production-deployment-driver"
        "identity-token-salt-of-the-production-deployment-passenger" ∧
      ∀ id, ∃ token, (IdentityCodec.ofParams longSalts).encode id .driver = .ok token ∧
        (IdentityCodec.ofParams longSalts).decode token .passenger = .ok id := by
  have hsalts : SaltsAgree "identity-token-salt-of-the-production-deployment-driver"
      "identity-token-salt-of-the-production-deployment-passenger" := by
    refine ⟨"identity-token-salt-of-the-production-deploymen".toUTF8.toList, ?_, ?_, ?_⟩
    all_goals decide +kernel
  have hdriver : longSalts.get? .driver =
      some ⟨"identity-token-salt-of-the-production-deployment-driver", 15⟩ := rfl
  have hpassenger : longSalts.get? Audience.driver.peer =
      some ⟨"identity-token-salt-of-the-production-deployment-passenger", 15⟩ := rfl
  exact ⟨hsalts, (tokens_shared_of_saltsAgree hdriver hpassenger).2 hsalts rfl⟩

/-- Driver 42 is read as passenger 42, although the salts differ. -/
theorem token_read_by_passenger :
    "identity-token-salt-of-the-production-deployment-driver" ≠
        "identity-token-salt-of-the-production-deployment-passenger" ∧
      (IdentityCodec.ofParams longSalts).encode 42 .driver = .ok "lR8aGqKPlKpoD7O" ∧
      (IdentityCodec.ofParams longSalts).decode "lR8aGqKPlKpoD7O" .passenger = .ok 42 :=
  ⟨by decide, by decide +kernel, by decide +kernel⟩

end TopicGate
