import TopicGate.Proofs.Identity.Division

/-!
# Fences and padding

A code that is too short is fenced by guards and grown on both sides.  Growing never reaches into
the fence, and what it adds holds no guard, so the core of a code is found between its guards.

## Main definitions
* `Layout`: how a code is laid out around its core.

## Main statements
* `grow_eq_append`: growing adds symbols of the alphabet at both ends and takes nothing away.
* `length_grow`: it goes on until the least length is reached, and no further.
* `layout_grow_fence`: the layout of a fenced and grown code.
* `coreOf_grow_fence`: the core of a fenced and grown code is the one it was made from.
-/

namespace TopicGate.Identity.Scheme

/-! ## §1 Growing -/

theorem grow_of_le {minLength : Nat} {alphabet code : List Char} (h : minLength ≤ code.length) :
    grow minLength alphabet code = code := by
  rw [grow, if_neg (by omega)]

/-- The middle of a padded text still holds the text: a piece of length `n` is cut evenly, and
less than the padding is cut. -/
theorem drop_take_padded {front code back : List Char} {n : Nat} (hshort : code.length < n)
    (hlong : n < (front ++ code ++ back).length) (hback : back.length ≤ front.length)
    (hfront : front.length ≤ back.length + 1) :
    ((front ++ code ++ back).drop (((front ++ code ++ back).length - n) / 2)).take n =
      front.drop (((front ++ code ++ back).length - n) / 2) ++ code ++
        back.take (n - (front.length - ((front ++ code ++ back).length - n) / 2) - code.length) := by
  simp only [List.length_append] at hlong ⊢
  -- The excess is at most twice the front, and half of it is cut there.
  set cut := (front.length + code.length + back.length - n) / 2 with hcut
  have hcut_le : cut ≤ front.length := by omega
  rw [List.append_assoc, List.drop_append_of_le_length hcut_le, List.take_append, List.take_append]
  have hkeep : (front.drop cut).take n = front.drop cut :=
    List.take_of_length_le (by simp only [List.length_drop]; omega)
  have hcode : code.take (n - (front.drop cut).length) = code :=
    List.take_of_length_le (by simp only [List.length_drop]; omega)
  rw [hkeep, hcode, List.length_drop, List.append_assoc]

/-- Growing adds symbols of the alphabet at both ends and takes nothing away. -/
theorem grow_eq_append (minLength : Nat) (alphabet code : List Char) :
    ∃ front back, grow minLength alphabet code = front ++ code ++ back ∧
      (∀ c ∈ front, c ∈ alphabet) ∧ ∀ c ∈ back, c ∈ alphabet := by
  fun_induction grow minLength alphabet code with
  | case1 alphabet code hshort alphabet' half padded hlong =>
    -- The last round is cut to length, and the cut falls into the halves of the alphabet.
    have hmem : ∀ c, c ∈ alphabet' ↔ c ∈ alphabet := fun c => (shuffle_perm _ _).mem_iff
    refine ⟨_, _, drop_take_padded hshort.1 hlong ?_ ?_, ?_, ?_⟩
    · simp only [List.length_take, List.length_drop]
      omega
    · simp only [List.length_take, List.length_drop]
      omega
    · intro c hc
      apply (hmem c).mp
      exact List.mem_of_mem_drop (List.mem_of_mem_drop hc)
    · intro c hc
      apply (hmem c).mp
      exact List.mem_of_mem_take (List.mem_of_mem_take hc)
  | case2 alphabet code hshort alphabet' half padded hlong ih =>
    -- What the later rounds add stands outside of what this one adds.
    have hmem : ∀ c, c ∈ alphabet' ↔ c ∈ alphabet := fun c => (shuffle_perm _ _).mem_iff
    obtain ⟨front, back, heq, hfront, hback⟩ := ih
    refine ⟨front ++ alphabet'.drop half, alphabet'.take half ++ back, ?_, ?_, ?_⟩
    · rw [heq]
      simp only [padded, List.append_assoc]
    · intro c hc
      apply (hmem c).mp
      rcases List.mem_append.mp hc with hc | hc
      · exact hfront c hc
      · exact List.mem_of_mem_drop hc
    · intro c hc
      apply (hmem c).mp
      rcases List.mem_append.mp hc with hc | hc
      · exact List.mem_of_mem_take hc
      · exact hback c hc
  | case3 alphabet code hlong =>
    -- Nothing is left to add.
    exact ⟨[], [], by simp, by simp, by simp⟩

/-- Growing goes on until the least length is reached, and no further: the last round is cut to it,
wherever it falls between the halves of the alphabet. -/
theorem length_grow (minLength : Nat) {alphabet : List Char} (halphabet : alphabet ≠ [])
    (code : List Char) : (grow minLength alphabet code).length = max minLength code.length := by
  fun_induction grow minLength alphabet code with
  | case1 alphabet code hshort alphabet' half padded hlong =>
    simp only [List.length_take, List.length_drop]
    omega
  | case2 alphabet code hshort alphabet' half padded hlong ih =>
    -- A round that overshoots would have been cut, so the rest starts from a code that is too short or
    -- just long enough.
    have halphabet' : alphabet' ≠ [] := by
      apply List.ne_nil_of_length_pos
      rw [length_shuffle]
      exact List.length_pos_iff.mpr halphabet
    rw [ih halphabet']
    omega
  | case3 alphabet code hlong =>
    have henough : minLength ≤ code.length := by
      simpa [halphabet] using hlong
    omega

/-! ## §2 Fencing -/

/-- How a core is fenced depends on how much it falls short: not at all, by one symbol, or by
more. -/
theorem fence_cases {scheme : Scheme} (hguards : scheme.guards ≠ []) (sum : Nat)
    (core : List Char) :
    (scheme.minLength ≤ core.length ∧ scheme.fence sum core = core) ∨
    (scheme.minLength = core.length + 1 ∧
      ∃ g ∈ scheme.guards, scheme.fence sum core = g :: core) ∨
    (core.length + 1 < scheme.minLength ∧
      ∃ g ∈ scheme.guards, ∃ g' ∈ scheme.guards,
        scheme.fence sum core = g :: (core ++ [g'])) := by
  simp only [fence, List.length_cons]
  by_cases hshort : core.length < scheme.minLength
  · rw [if_pos hshort]
    by_cases hshorter : core.length + 1 < scheme.minLength
    · rw [if_pos hshorter]
      exact Or.inr (Or.inr ⟨hshorter, _, getD_mod_mem hguards _, _, getD_mod_mem hguards _, rfl⟩)
    · rw [if_neg hshorter]
      exact Or.inr (Or.inl ⟨by omega, _, getD_mod_mem hguards _, rfl⟩)
  · rw [if_neg hshort]
    exact Or.inl ⟨by omega, rfl⟩

/-! ## §3 Layouts -/

/-- How a code of a least length is laid out around its core. -/
inductive Layout (guards : List Char) (minLength : Nat) (core : List Char) : List Char → Prop where
  /-- A core that is long enough stands by itself. -/
  | bare (hlong : minLength ≤ core.length) : Layout guards minLength core core
  /-- If one symbol is missing, it is a guard in front. -/
  | guarded {g : Char} (hshort : minLength = core.length + 1) (hg : g ∈ guards) :
      Layout guards minLength core (g :: core)
  /-- If more are missing, the core stands between two guards, and all else outside of them. -/
  | padded {front back : List Char} {g g' : Char} (hshort : core.length + 1 < minLength)
      (hg : g ∈ guards) (hg' : g' ∈ guards) (hfront : ∀ c ∈ front, c ∉ guards)
      (hback : ∀ c ∈ back, c ∉ guards) :
      Layout guards minLength core (front ++ g :: (core ++ g' :: back))

/-- A code that is fenced and grown with an alphabet without guards is laid out. -/
theorem layout_grow_fence {scheme : Scheme} (hguards : scheme.guards ≠ []) {alphabet : List Char}
    (halphabet : ∀ c ∈ alphabet, c ∉ scheme.guards) (sum : Nat) (core : List Char) :
    Layout scheme.guards scheme.minLength core
      (grow scheme.minLength alphabet (scheme.fence sum core)) := by
  rcases fence_cases hguards sum core with
    ⟨hlong, hfence⟩ | ⟨hlong, g, hg, hfence⟩ | ⟨hshort, g, hg, g', hg', hfence⟩
  · -- Long enough: neither fence nor padding.
    rw [hfence, grow_of_le hlong]
    exact .bare hlong
  · -- One symbol short: a guard in front makes up for it.
    rw [hfence, grow_of_le (by simp only [List.length_cons]; omega)]
    exact .guarded hlong hg
  · -- Shorter still: the core stands between two guards, and the padding outside of them.
    obtain ⟨front, back, hgrow, hfront, hback⟩ :=
      grow_eq_append scheme.minLength alphabet (scheme.fence sum core)
    have hshape : grow scheme.minLength alphabet (scheme.fence sum core) =
        front ++ g :: (core ++ g' :: back) := by
      rw [hgrow, hfence]
      simp
    rw [hshape]
    exact .padded hshort hg hg' (fun c hc => halphabet c (hfront c hc))
      (fun c hc => halphabet c (hback c hc))

/-- A fenced code is never longer than it has to be. -/
theorem length_grow_fence {scheme : Scheme} (hguards : scheme.guards ≠ []) {alphabet : List Char}
    (halphabet : alphabet ≠ []) (sum : Nat) (core : List Char) :
    (grow scheme.minLength alphabet (scheme.fence sum core)).length =
      max scheme.minLength core.length := by
  rw [length_grow _ halphabet]
  rcases fence_cases hguards sum core with
    ⟨-, hfence⟩ | ⟨hshort, g, -, hfence⟩ | ⟨hshort, g, -, g', -, hfence⟩
  · rw [hfence]
  · rw [hfence, List.length_cons]
    omega
  · rw [hfence, List.length_cons, List.length_append, List.length_singleton]
    omega

/-- The guards of a code are those of its layout, if the core holds none. -/
theorem Layout.countP_guards {guards core code : List Char} {minLength : Nat}
    (h : Layout guards minLength core code) (hcore : ∀ c ∈ core, c ∉ guards) :
    code.countP guards.contains =
      if minLength ≤ core.length then 0 else if minLength = core.length + 1 then 1 else 2 := by
  have hnone : ∀ {text : List Char}, (∀ c ∈ text, c ∉ guards) → text.countP guards.contains = 0 := by
    intro text htext
    simpa [List.countP_eq_zero] using htext
  cases h with
  | bare hlong => rw [if_pos hlong, hnone hcore]
  | guarded hshort hg =>
    rw [if_neg (by omega), if_pos hshort]
    simp [hg, hnone hcore]
  | padded hshort hg hg' hfront hback =>
    rw [if_neg (by omega), if_neg (by omega)]
    simp [hg, hg', hnone hcore, hnone hfront, hnone hback]

/-! ## §4 Finding the core -/

theorem splitAtMarks_eq_splitOnP (isMark : Char → Bool) (text : List Char) :
    splitAtMarks isMark text = text.splitOnP isMark := by
  induction text with
  | nil => rfl
  | cons c rest ih =>
    rw [splitAtMarks, List.splitOnP_cons_eq_if_modifyHead, ih]
    split
    · rfl
    · cases hpieces : rest.splitOnP isMark with
      | nil => exact absurd hpieces (List.splitOnP_ne_nil _ _)
      | cons piece pieces => rfl

/-- A text without marks is one piece. -/
theorem splitAtMarks_of_notMem {marks text : List Char} (h : ∀ c ∈ text, c ∉ marks) :
    splitAtMarks marks.contains text = [text] := by
  rw [splitAtMarks_eq_splitOnP]
  exact List.splitOnP_eq_singleton fun c hc => by simpa using h c hc

/-- The text before the first mark is the first piece. -/
theorem splitAtMarks_append_cons {marks front : List Char} (h : ∀ c ∈ front, c ∉ marks)
    {mark : Char} (hmark : mark ∈ marks) (rest : List Char) :
    splitAtMarks marks.contains (front ++ mark :: rest) =
      front :: splitAtMarks marks.contains rest := by
  rw [splitAtMarks_eq_splitOnP, splitAtMarks_eq_splitOnP]
  exact List.splitOnP_append_cons_of_forall_mem (fun c hc => by simpa using h c hc) mark
    (by simpa using hmark) rest

variable {scheme : Scheme}

theorem coreOf_of_no_guard {core : List Char} (hcore : ∀ c ∈ core, c ∉ scheme.guards) :
    scheme.coreOf core = core := by
  simp only [coreOf, splitAtMarks_of_notMem hcore]

/-- A core behind one guard, or between two, is found. -/
theorem coreOf_guard_cons {g : Char} {core : List Char} (hg : g ∈ scheme.guards)
    (hcore : ∀ c ∈ core, c ∉ scheme.guards) : scheme.coreOf (g :: core) = core := by
  have hsplit : splitAtMarks scheme.guards.contains ([] ++ g :: core) = [[], core] := by
    rw [splitAtMarks_append_cons (by simp) hg, splitAtMarks_of_notMem hcore]
  rw [List.nil_append] at hsplit
  simp only [coreOf, hsplit]

theorem coreOf_fenced {g g' : Char} {front core back : List Char} (hg : g ∈ scheme.guards)
    (hg' : g' ∈ scheme.guards) (hfront : ∀ c ∈ front, c ∉ scheme.guards)
    (hcore : ∀ c ∈ core, c ∉ scheme.guards) (hback : ∀ c ∈ back, c ∉ scheme.guards) :
    scheme.coreOf (front ++ g :: (core ++ g' :: back)) = core := by
  have hsplit : splitAtMarks scheme.guards.contains (front ++ g :: (core ++ g' :: back)) =
      [front, core, back] := by
    rw [splitAtMarks_append_cons hfront hg, splitAtMarks_append_cons hcore hg',
      splitAtMarks_of_notMem hback]
  simp only [coreOf, hsplit]

/-- The core of a laid out code is found, if it holds no guard itself. -/
theorem Layout.coreOf_eq {core code : List Char} {minLength : Nat}
    (h : Layout scheme.guards minLength core code) (hcore : ∀ c ∈ core, c ∉ scheme.guards) :
    scheme.coreOf code = core := by
  cases h with
  | bare => exact coreOf_of_no_guard hcore
  | guarded _ hg => exact coreOf_guard_cons hg hcore
  | padded _ hg hg' hfront hback => exact coreOf_fenced hg hg' hfront hcore hback

/-- The core of a fenced and grown code is the one it was made from, if neither the core nor the
alphabet that pads it holds a guard. -/
theorem coreOf_grow_fence (hguards : scheme.guards ≠ []) {alphabet core : List Char}
    (halphabet : ∀ c ∈ alphabet, c ∉ scheme.guards) (hcore : ∀ c ∈ core, c ∉ scheme.guards)
    (sum : Nat) :
    scheme.coreOf (grow scheme.minLength alphabet (scheme.fence sum core)) = core :=
  (layout_grow_fence hguards halphabet sum core).coreOf_eq hcore

end TopicGate.Identity.Scheme
