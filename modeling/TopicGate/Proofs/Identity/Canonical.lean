import TopicGate.Identity.Codec
import TopicGate.Proofs.Identity.Numeral
import TopicGate.Proofs.Identity.Padding
import Mathlib.Algebra.Group.Action.Defs
import Mathlib.Algebra.Order.BigOperators.Group.List
import Mathlib.Algebra.Order.Group.Nat

/-!
# Canonical codes

A list of numbers has exactly one code: whatever is read was written, and whatever is written is
read.  For identities this means one token per audience; a code of several numbers, or one with
other padding, stands for no identity.

## Main statements
* `decode?_encode`: a code is read back.
* `encode_of_decode?`: what is read has that code.
* `codes_canonical`: both, for every salt, and for the tokens of every codec.
-/

namespace TopicGate.Identity.Scheme

variable {scheme : Scheme}

/-! ## §1 The symbols of a core -/

/-- The alphabet behind the last number is a working one again. -/
theorem writeNumbers_fst_isWorking (lottery : Char) {alphabet : List Char}
    (halphabet : scheme.IsWorking alphabet) (i : Nat) (numbers : List Nat) :
    scheme.IsWorking (scheme.writeNumbers lottery alphabet i numbers).1 := by
  fun_induction writeNumbers scheme lottery alphabet i numbers with
  | case1 => exact halphabet
  | case2 => exact halphabet.reshuffle lottery
  | case3 alphabet i n rest _ alphabet' digits last symbols hwrite ih =>
    rw [hwrite] at ih
    exact ih (halphabet.reshuffle lottery)

/-- Numbers are written with digits and separators. -/
theorem mem_of_mem_writeNumbers (h : scheme.IsDivision) {lottery : Char} {alphabet : List Char}
    (halphabet : scheme.IsWorking alphabet) {i : Nat} {numbers : List Nat} {c : Char}
    (hc : c ∈ (scheme.writeNumbers lottery alphabet i numbers).2) :
    c ∈ scheme.alphabet ∨ c ∈ scheme.separators := by
  have hdigit : ∀ {alphabet : List Char}, scheme.IsWorking alphabet → ∀ {n : Nat},
      c ∈ numeral alphabet n → c ∈ scheme.alphabet := fun halphabet _ hc =>
    halphabet.mem_iff.mp (mem_of_mem_numeral (halphabet.two_le_length h) hc)
  -- A symbol is a digit of a number, a separator, or belongs to the numbers behind.
  fun_induction writeNumbers scheme lottery alphabet i numbers with
  | case1 => simp at hc
  | case2 => exact Or.inl (hdigit (halphabet.reshuffle lottery) hc)
  | case3 alphabet i n rest _ alphabet' digits last symbols hwrite ih =>
    rw [hwrite] at ih
    rcases List.mem_append.mp hc with hc | hc
    · exact Or.inl (hdigit (halphabet.reshuffle lottery) hc)
    · rcases List.mem_cons.mp hc with rfl | hc
      · exact Or.inr (getD_mod_mem h.separators_ne_nil _)
      · exact ih (halphabet.reshuffle lottery) hc

/-- Numbers are written without guards. -/
theorem notMem_guards_of_mem_writeNumbers (h : scheme.IsDivision) {lottery : Char}
    {alphabet : List Char} (halphabet : scheme.IsWorking alphabet) {i : Nat} {numbers : List Nat}
    {c : Char} (hc : c ∈ (scheme.writeNumbers lottery alphabet i numbers).2) :
    c ∉ scheme.guards := by
  rcases mem_of_mem_writeNumbers h halphabet hc with hdigit | hseparator
  · exact h.notMem_guards_of_mem_alphabet hdigit
  · exact h.notMem_guards_of_mem_separators hseparator

/-! ## §2 Reading what was written -/

/-- Between the separators stand the numerals of the numbers, each over the alphabet that is current
when it is read. -/
theorem readNumbers?_writeNumbers (h : scheme.IsDivision) (lottery : Char)
    {alphabet : List Char} (halphabet : scheme.IsWorking alphabet) (i : Nat)
    {numbers : List Nat} (hne : numbers ≠ []) (hlt : ∀ n ∈ numbers, n < UInt64.size) :
    scheme.readNumbers? lottery alphabet
      (splitAtMarks scheme.separators.contains
        (scheme.writeNumbers lottery alphabet i numbers).2) = some numbers := by
  have hdigits : ∀ {alphabet : List Char}, scheme.IsWorking alphabet → ∀ n,
      ∀ c ∈ numeral alphabet n, c ∉ scheme.separators := fun halphabet n c hc =>
    halphabet.notMem_separators h (mem_of_mem_numeral (halphabet.two_le_length h) hc)
  have hread : ∀ {alphabet : List Char}, scheme.IsWorking alphabet → ∀ n < UInt64.size,
      numeralValue? alphabet (numeral alphabet n) = some n := fun halphabet n hn =>
    numeralValue?_numeral (halphabet.nodup h) (halphabet.two_le_length h) hn
  -- The induction follows the writer; the reader reshuffles its alphabet in step with it.
  fun_induction writeNumbers scheme lottery alphabet i numbers with
  | case1 => exact absurd rfl hne
  | case2 alphabet i n alphabet' =>
    -- Behind the last number there is no separator.
    have halphabet' := halphabet.reshuffle lottery
    rw [splitAtMarks_of_notMem (hdigits halphabet' n)]
    simp [readNumbers?, hread halphabet' n (hlt n List.mem_cons_self)]
  | case3 alphabet i n rest hrest alphabet' digits last symbols hwrite ih =>
    have halphabet' := halphabet.reshuffle lottery
    have hrest_ne : rest ≠ [] := fun heq => hrest heq
    have ih := ih halphabet' hrest_ne fun m hm => hlt m (List.mem_cons_of_mem _ hm)
    rw [hwrite] at ih
    -- The digits hold no separator, so that the first one found is the one behind them.
    have hseparator : scheme.separatorFor n i digits ∈ scheme.separators :=
      getD_mod_mem h.separators_ne_nil _
    rw [splitAtMarks_append_cons (hdigits halphabet' n) hseparator]
    simp only [readNumbers?, hread halphabet' n (hlt n List.mem_cons_self)]
    simp [alphabet', ih]

/-- The symbol that a code starts from. -/
def firstSymbol (scheme : Scheme) (numbers : List Nat) : Char :=
  scheme.alphabet.getD (checksum numbers % scheme.alphabet.length) '0'

/-- The core of a code: its first symbol with the numbers behind it. -/
def core (scheme : Scheme) (numbers : List Nat) : List Char :=
  let first := scheme.firstSymbol numbers
  first :: (scheme.writeNumbers first scheme.alphabet 0 numbers).2

/-- The alphabet behind the last number, which pads a code. -/
def paddingAlphabet (scheme : Scheme) (numbers : List Nat) : List Char :=
  (scheme.writeNumbers (scheme.firstSymbol numbers) scheme.alphabet 0 numbers).1

/-- A code is its core, fenced and grown. -/
theorem encode_eq_grow (scheme : Scheme) {numbers : List Nat} (hne : numbers ≠ []) :
    scheme.encode numbers = grow scheme.minLength (scheme.paddingAlphabet numbers)
      (scheme.fence (checksum numbers) (scheme.core numbers)) := by
  rw [encode, if_neg hne]
  rfl

theorem firstSymbol_mem (h : scheme.IsDivision) (numbers : List Nat) :
    scheme.firstSymbol numbers ∈ scheme.alphabet :=
  getD_mod_mem h.alphabet_ne_nil (checksum numbers)

theorem paddingAlphabet_isWorking (scheme : Scheme) (numbers : List Nat) :
    scheme.IsWorking (scheme.paddingAlphabet numbers) :=
  writeNumbers_fst_isWorking _ (List.Perm.refl _) 0 numbers

theorem length_paddingAlphabet (h : scheme.IsDivision) (numbers : List Nat) :
    (scheme.paddingAlphabet numbers).length = 44 := by
  rw [(paddingAlphabet_isWorking scheme numbers).length_eq, h.length_alphabet]

theorem notMem_guards_of_mem_core (h : scheme.IsDivision) {numbers : List Nat} {c : Char}
    (hc : c ∈ scheme.core numbers) : c ∉ scheme.guards := by
  rcases List.mem_cons.mp hc with rfl | hc
  · exact h.notMem_guards_of_mem_alphabet (firstSymbol_mem h numbers)
  · exact notMem_guards_of_mem_writeNumbers h (List.Perm.refl _) hc

/-- The core of a code is what it was made from. -/
theorem coreOf_encode (h : scheme.IsDivision) {numbers : List Nat} (hne : numbers ≠ []) :
    scheme.coreOf (scheme.encode numbers) = scheme.core numbers := by
  rw [encode_eq_grow scheme hne]
  -- Neither the padding nor the core holds a guard, so the guards found are those of the fence.
  apply coreOf_grow_fence h.guards_ne_nil
  · intro c hc
    exact (paddingAlphabet_isWorking scheme numbers).notMem_guards h hc
  · intro c hc
    exact notMem_guards_of_mem_core h hc

/-- A code is read back. -/
theorem decode?_encode (h : scheme.IsDivision) {numbers : List Nat} (hne : numbers ≠ [])
    (hlt : ∀ n ∈ numbers, n < UInt64.size) : scheme.decode? (scheme.encode numbers) = some numbers := by
  have hread := readNumbers?_writeNumbers h (scheme.firstSymbol numbers) (List.Perm.refl _) 0 hne hlt
  rw [decode?, coreOf_encode h hne]
  simp [core, hread]

/-! ## §3 Codes are written for what they are read as -/

/-- What is read has that code. -/
theorem encode_of_decode? {code : List Char} {numbers : List Nat}
    (h : scheme.decode? code = some numbers) : scheme.encode numbers = code := by
  unfold decode? at h
  split at h
  · cases h
  · simp only [Option.bind_eq_bind, Option.bind_eq_some_iff] at h
    obtain ⟨read, -, hread⟩ := h
    -- What was read is written again, and only an equal code is accepted.
    split at hread
    · cases hread
      assumption
    · cases hread

theorem lt_of_readNumbers? {lottery : Char} {alphabet : List Char} {pieces : List (List Char)}
    {numbers : List Nat} (h : scheme.readNumbers? lottery alphabet pieces = some numbers) :
    ∀ n ∈ numbers, n < UInt64.size := by
  induction pieces generalizing alphabet numbers with
  | nil =>
    cases h
    simp
  | cons piece pieces ih =>
    simp only [readNumbers?, Option.bind_eq_bind, Option.bind_eq_some_iff] at h
    obtain ⟨n, hn, rest, hrest, heq⟩ := h
    cases heq
    intro m hm
    rcases List.mem_cons.mp hm with rfl | hm
    · exact numeralValue?_lt hn
    · apply ih hrest
      exact hm

/-- Only numbers of 64 bits are read. -/
theorem lt_of_decode? {code : List Char} {numbers : List Nat}
    (h : scheme.decode? code = some numbers) : ∀ n ∈ numbers, n < UInt64.size := by
  unfold decode? at h
  split at h
  · cases h
  · simp only [Option.bind_eq_bind, Option.bind_eq_some_iff] at h
    obtain ⟨read, hread, heq⟩ := h
    split at heq
    · cases heq
      exact lt_of_readNumbers? hread
    · cases heq

/-- Reading a code gives the numbers exactly if writing the numbers gives the code. -/
theorem decode?_eq_some_iff (h : scheme.IsDivision) {code : List Char} {numbers : List Nat}
    (hne : numbers ≠ []) (hlt : ∀ n ∈ numbers, n < UInt64.size) :
    scheme.decode? code = some numbers ↔ scheme.encode numbers = code := by
  constructor
  · exact encode_of_decode?
  · rintro rfl
    exact decode?_encode h hne hlt

theorem foldl_add_le {α : Type} {weight : α → Nat} {bound : Nat} {entries : List α}
    (h : ∀ entry ∈ entries, weight entry ≤ bound) (start : Nat) :
    entries.foldl (fun sum entry => sum + weight entry) start ≤ start + entries.length * bound := by
  induction entries generalizing start with
  | nil => simp
  | cons entry entries ih =>
    have hentry := h entry List.mem_cons_self
    have hentries := ih (fun e he => h e (List.mem_cons_of_mem _ he)) (start + weight entry)
    rw [List.foldl_cons, List.length_cons, Nat.add_mul]
    omega

/-- The checksum of fewer than `2 ^ 31` numbers leaves room for a symbol in 64 bits. -/
theorem checksum_lt {numbers : List Nat} (h : numbers.length < 2 ^ 31) :
    checksum numbers < 2 ^ 63 := by
  -- A number adds less than its position and a hundred.
  have hweight : ∀ entry ∈ numbers.zipIdx, entry.1 % (entry.2 + 100) ≤ 2 ^ 31 + 100 := by
    intro entry hentry
    have hposition : entry.2 < numbers.length := by simpa using (List.mem_zipIdx hentry).2.1
    have hmod : entry.1 % (entry.2 + 100) < entry.2 + 100 := Nat.mod_lt _ (by omega)
    omega
  have hsum := foldl_add_le hweight 0
  rw [List.length_zipIdx, Nat.zero_add] at hsum
  calc checksum numbers ≤ numbers.length * (2 ^ 31 + 100) := hsum
    _ ≤ 2 ^ 31 * (2 ^ 31 + 100) := Nat.mul_le_mul_right _ h.le
    _ < 2 ^ 63 := by decide

end TopicGate.Identity.Scheme

namespace TopicGate.IdentityCodec

open Identity

/-! ## §4 Tokens -/

variable {codec : IdentityCodec} {audience : Audience} {id : UInt64} {token : String}

theorem encode_eq_ok_iff : codec.encode id audience = .ok token ↔
    ∃ scheme, codec.schemes.get? audience = some scheme ∧
      scheme.encode [id.toNat] = token.toList := by
  unfold encode IdentityCodec.scheme
  cases codec.schemes.get? audience with
  | none => simp [bind, Except.bind]
  | some scheme =>
    simp only [bind, Except.bind, pure, Except.pure, Except.ok.injEq, Option.some.injEq,
      exists_eq_left']
    constructor
    · rintro rfl
      exact String.toList_ofList.symm
    · intro h
      rw [h, String.ofList_toList]

theorem decode_eq_ok_iff : codec.decode token audience = .ok id ↔
    ∃ scheme, codec.schemes.get? audience = some scheme ∧
      scheme.decode? token.toList = some [id.toNat] := by
  unfold decode IdentityCodec.scheme
  cases codec.schemes.get? audience with
  | none => simp [bind, Except.bind]
  | some scheme =>
    simp only [bind, Except.bind, Option.some.injEq, exists_eq_left']
    split
    · next n hn =>
      -- What is read fits into 64 bits, so that no two numbers become one identity.
      have hlt : n < UInt64.size := Scheme.lt_of_decode? hn n List.mem_cons_self
      simp only [pure, Except.pure, Except.ok.injEq, hn, Option.some.injEq, List.cons.injEq,
        and_true]
      constructor
      · rintro rfl
        exact (UInt64.toNat_ofNat_of_lt hlt).symm
      · rintro rfl
        exact UInt64.ofNat_toNat
    · next hnone =>
      simp only [throw, throwThe, MonadExceptOf.throw, reduceCtorEq, false_iff]
      exact hnone _

/-- The token that an identity was read from is the identity's token, in every codec. -/
theorem encode_of_decode (h : codec.decode token audience = .ok id) :
    codec.encode id audience = .ok token := by
  obtain ⟨scheme, hscheme, hread⟩ := decode_eq_ok_iff.mp h
  exact encode_eq_ok_iff.mpr ⟨scheme, hscheme, Scheme.encode_of_decode? hread⟩

/-- The scheme of an audience is made from its parameters. -/
theorem get?_schemes_ofParams (params : PerAudience CodecParams) (audience : Audience) :
    (ofParams params).schemes.get? audience =
      (params.get? audience).map fun p => Scheme.ofSalt p.salt p.length.toNat := by
  rw [ofParams, PerAudience.get?_map]

/-- The schemes of a codec are made from salts, so they are divisions. -/
theorem isDivision_of_get? {params : PerAudience CodecParams} {scheme : Scheme}
    (h : (ofParams params).schemes.get? audience = some scheme) : scheme.IsDivision := by
  rw [get?_schemes_ofParams] at h
  obtain ⟨p, -, rfl⟩ := Option.map_eq_some_iff.mp h
  exact Scheme.ofSalt_isDivision _ _

/-- An identity is read from its token. -/
theorem decode_of_encode {params : PerAudience CodecParams}
    (h : (ofParams params).encode id audience = .ok token) :
    (ofParams params).decode token audience = .ok id := by
  obtain ⟨scheme, hscheme, hwrite⟩ := encode_eq_ok_iff.mp h
  apply decode_eq_ok_iff.mpr
  refine ⟨scheme, hscheme, ?_⟩
  rw [Scheme.decode?_eq_some_iff (isDivision_of_get? hscheme) (by simp) (by simpa using id.toNat_lt)]
  exact hwrite

/-- The token of an identity is its code under the parameters of the audience. -/
theorem encode_ofParams {params : PerAudience CodecParams} {p : CodecParams}
    (hp : params.get? audience = some p) (id : UInt64) :
    (ofParams params).encode id audience =
      .ok (String.ofList ((Scheme.ofSalt p.salt p.length.toNat).encode [id.toNat])) := by
  have hscheme : (ofParams params).schemes.get? audience =
      some (Scheme.ofSalt p.salt p.length.toNat) := by
    rw [get?_schemes_ofParams, hp, Option.map_some]
  exact encode_eq_ok_iff.mpr ⟨_, hscheme, String.toList_ofList.symm⟩

/-- Every identity has a token for an audience with parameters. -/
theorem exists_encode {params : PerAudience CodecParams} (id : UInt64)
    (h : (params.get? audience).isSome = true) :
    ∃ token, (ofParams params).encode id audience = .ok token := by
  obtain ⟨p, hp⟩ := Option.isSome_iff_exists.mp h
  exact ⟨_, encode_ofParams hp id⟩

end TopicGate.IdentityCodec

namespace TopicGate

open Identity

/-- **One code per list, one token per identity.**  For every salt and least length, a text is read
as a list of 64-bit numbers exactly if it is the code of the list, and no 64-bit sum overflows on
the way; and for every codec a text is read as an identity exactly if it is the identity's token. -/
theorem codes_canonical :
    (∀ (salt : String) (minLength : Nat) (numbers : List UInt64) (text : String),
      numbers ≠ [] → numbers.length < 2 ^ 31 →
        Scheme.checksum (numbers.map UInt64.toNat) < 2 ^ 63 ∧
        ((Scheme.ofSalt salt minLength).decode? text.toList = some (numbers.map UInt64.toNat) ↔
          String.ofList ((Scheme.ofSalt salt minLength).encode (numbers.map UInt64.toNat)) =
            text)) ∧
    ∀ (params : PerAudience CodecParams) (audience : Audience) (id : UInt64) (token : String),
      (IdentityCodec.ofParams params).decode token audience = .ok id ↔
        (IdentityCodec.ofParams params).encode id audience = .ok token := by
  refine ⟨fun salt minLength numbers text hne hlength => ?_, fun params audience id token => ?_⟩
  · have hne' : numbers.map UInt64.toNat ≠ [] := by simpa using hne
    have hlt : ∀ n ∈ numbers.map UInt64.toNat, n < UInt64.size := by
      intro n hn
      obtain ⟨m, -, rfl⟩ := List.mem_map.mp hn
      exact m.toNat_lt
    refine ⟨Scheme.checksum_lt (by simpa using hlength), ?_⟩
    rw [Scheme.decode?_eq_some_iff (Scheme.ofSalt_isDivision salt minLength) hne' hlt]
    constructor
    · intro h
      rw [h, String.ofList_toList]
    · rintro rfl
      exact String.toList_ofList.symm
  · constructor
    · exact IdentityCodec.encode_of_decode
    · exact IdentityCodec.decode_of_encode

/-- Four numbers under a real salt have the one code that stands for them. -/
theorem codes_canonical_four_numbers :
    ([683, 94108, 123, 5] : List UInt64) ≠ [] ∧
    ([683, 94108, 123, 5] : List UInt64).length < 2 ^ 31 ∧
    (Scheme.ofSalt "this is my salt" 0).decode? "aBMswoO2UB3Sj".toList =
      some [683, 94108, 123, 5] := by
  have hwrite : String.ofList ((Scheme.ofSalt "this is my salt" 0).encode
      (([683, 94108, 123, 5] : List UInt64).map UInt64.toNat)) = "aBMswoO2UB3Sj" := by
    decide +kernel
  exact ⟨by decide, by decide,
    (codes_canonical.1 "this is my salt" 0 [683, 94108, 123, 5] "aBMswoO2UB3Sj" (by decide)
      (by decide)).2.mpr hwrite⟩

end TopicGate
