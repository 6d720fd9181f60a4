import TopicGate.Topic.Pattern
import Mathlib.Data.List.Basic

/-!
# Cuts

The table of cuts against a relation that says what a cut is.  The table is read only through the
equations of `cut?`, one for each kind of step; from them every cut that is found is a cut, a cut is
found where there is one, and no other cut has longer earlier pieces.

## Main statements
* `cut?_choice`, `cut?_run_cons`: how a cut is found.
* `isCut_of_cut?`, `exists_cut?_of_isCut`: one is found exactly if there is one.
* `cut?_eq_some_iff`: the cut that is found is the longest one.
* `append_inj_of_countP_eq`: counted marks tell where a text is divided.
-/

namespace TopicGate

/-! ## §1 The equations of the search -/

/-- The tables of the tails are the tails of the table. -/
theorem cutTable_drop_one (steps : List Step) (c : Char) (rest : List Char) :
    (cutTable steps (c :: rest)).drop 1 = cutTable steps rest := by
  induction steps with
  | nil => rfl
  | cons step steps ih =>
    show (step.extend (c :: rest) (cutTable steps (c :: rest))).drop 1 =
      step.extend rest (cutTable steps rest)
    simp only [Step.extend, List.drop_one, List.tail_cons] at ih ⊢
    rw [ih]

theorem cutTable_drop (steps : List Step) {k : Nat} {text : List Char} (hk : k ≤ text.length) :
    (cutTable steps text).drop k = cutTable steps (text.drop k) := by
  induction k generalizing text with
  | zero => rfl
  | succ k ih =>
    cases text with
    | nil => simp at hk
    | cons c rest =>
      have hk' : k ≤ rest.length := by simpa using hk
      rw [List.drop_succ_cons, ← ih hk', ← cutTable_drop_one steps c rest, List.drop_drop,
        Nat.add_comm]

theorem cut?_nil (text : List Char) : cut? [] text = if text = [] then some [] else none := by
  cases text <;> rfl

/-- The best cut depends on the tables of the later steps and on the best cut of the tail. -/
theorem cut?_cons (step : Step) (steps : List Step) (c : Char) (rest : List Char) :
    cut? (step :: steps) (c :: rest) =
      step.best (c :: rest) (cutTable steps (c :: rest)) (cut? (step :: steps) rest) := by
  have htable : cutTable (step :: steps) (c :: rest) =
      step.extend (c :: rest) (cutTable steps (c :: rest)) := rfl
  rw [cut?, htable, Step.extend, cutTable_drop_one]
  rfl

theorem best_choice (texts : List (List Char)) (steps : List Step) (text : List Char)
    (next : Option Cut) :
    (Step.choice texts).best text (cutTable steps text) next = texts.findSome? fun choice =>
      if choice.isPrefixOf text then (cut? steps (text.drop choice.length)).map (choice :: ·)
      else none := by
  rw [Step.best]
  congr 1
  funext choice
  split
  · next hprefix =>
    have hlength : choice.length ≤ text.length :=
      (List.isPrefixOf_iff_prefix.mp hprefix).length_le
    rw [cutTable_drop steps hlength]
    rfl
  · rfl

/-- A step that must be one of some texts takes the first of them behind which a cut goes on. -/
theorem cut?_choice (texts : List (List Char)) (steps : List Step) (text : List Char) :
    cut? (.choice texts :: steps) text = texts.findSome? fun choice =>
      if choice.isPrefixOf text then (cut? steps (text.drop choice.length)).map (choice :: ·)
      else none := by
  cases text with
  | nil => exact best_choice texts steps [] none
  | cons c rest => rw [cut?_cons, best_choice]

theorem cut?_run_nil (accepts : Char → Bool) (steps : List Step) :
    cut? (.run accepts :: steps) [] = none := rfl

/-- A run takes a character more as long as a cut goes on behind it. -/
theorem cut?_run_cons (accepts : Char → Bool) (steps : List Step) (c : Char) (rest : List Char) :
    cut? (.run accepts :: steps) (c :: rest) =
      if accepts c then
        match cut? (.run accepts :: steps) rest with
        | some cut => some (cut.grow c)
        | none => (cut? steps rest).map ([c] :: ·)
      else none := by
  simp only [cut?_cons, Step.best, cutTable_drop_one]
  rfl

/-! ## §2 Cuts -/

/-- What a step takes: one of its texts, or one or more characters of its class. -/
def Step.Takes : Step → List Char → Prop
  | .choice texts, piece => piece ∈ texts
  | .run accepts, piece => piece ≠ [] ∧ ∀ c ∈ piece, accepts c = true

/-- A text is cut into consecutive pieces, each taken by its step. -/
inductive IsCut : List Step → List Char → Cut → Prop
  | nil : IsCut [] [] []
  | cons {step : Step} {steps : List Step} {piece text : List Char} {pieces : Cut} :
      step.Takes piece → IsCut steps text pieces →
      IsCut (step :: steps) (piece ++ text) (piece :: pieces)

/-- Of two cuts, the one with the longer piece where the two part for the first time. -/
inductive Cut.Outgrows : Cut → Cut → Prop
  | head {piece piece' : List Char} {pieces pieces' : Cut} :
      piece'.length < piece.length → Outgrows (piece :: pieces) (piece' :: pieces')
  | tail {piece : List Char} {pieces pieces' : Cut} :
      Outgrows pieces pieces' → Outgrows (piece :: pieces) (piece :: pieces')

theorem Cut.Outgrows.asymm {cut cut' : Cut} (h : cut.Outgrows cut') : ¬cut'.Outgrows cut := by
  induction h with
  | head hlt =>
    intro h'
    cases h' with
    | head hlt' => omega
    | tail => omega
  | tail _ ih =>
    intro h'
    cases h' with
    | head hlt' => omega
    | tail h' => exact ih h'

/-- A cut that no other cut of the text outgrows. -/
structure IsLongestCut (steps : List Step) (text : List Char) (cut : Cut) : Prop where
  isCut : IsCut steps text cut
  longest : ∀ other, IsCut steps text other → other = cut ∨ cut.Outgrows other

namespace IsCut

variable {steps : List Step} {text : List Char} {cut : Cut}

theorem length_eq (h : IsCut steps text cut) : cut.length = steps.length := by
  induction h with
  | nil => rfl
  | cons _ _ ih => rw [List.length_cons, List.length_cons, ih]

theorem of_cons {step : Step} (h : IsCut (step :: steps) text cut) :
    ∃ piece pieces rest, cut = piece :: pieces ∧ text = piece ++ rest ∧ step.Takes piece ∧
      IsCut steps rest pieces := by
  cases h with
  | cons htakes hrest => exact ⟨_, _, _, rfl, rfl, htakes, hrest⟩

/-- A run may take one character more in front. -/
theorem grow {accepts : Char → Bool} {c : Char} (hc : accepts c = true)
    (h : IsCut (.run accepts :: steps) text cut) :
    IsCut (.run accepts :: steps) (c :: text) (cut.grow c) := by
  obtain ⟨piece, pieces, rest, rfl, rfl, ⟨-, haccepts⟩, hrest⟩ := h.of_cons
  have htakes : (Step.run accepts).Takes (c :: piece) := by
    refine ⟨by simp, ?_⟩
    intro d hd
    rcases List.mem_cons.mp hd with rfl | hd
    · exact hc
    · exact haccepts d hd
  exact IsCut.cons htakes hrest

end IsCut

/-! ## §3 What is found is a cut -/

/-- Every cut that is found is a cut. -/
theorem isCut_of_cut? {steps : List Step} {text : List Char} {cut : Cut}
    (h : cut? steps text = some cut) : IsCut steps text cut := by
  induction steps generalizing text cut with
  | nil =>
    rw [cut?_nil] at h
    split at h
    · next htext =>
      cases h
      exact htext ▸ IsCut.nil
    · cases h
  | cons step steps ih =>
    cases step with
    | choice texts =>
      -- The text that was chosen stands in front, and the rest is cut by the later steps.
      rw [cut?_choice] at h
      obtain ⟨choice, hchoice, hfound⟩ := List.exists_of_findSome?_eq_some h
      split at hfound
      · next hprefix =>
        obtain ⟨pieces, hpieces, rfl⟩ := Option.map_eq_some_iff.mp hfound
        obtain ⟨rest, rfl⟩ := List.isPrefixOf_iff_prefix.mp hprefix
        rw [List.drop_left] at hpieces
        exact IsCut.cons hchoice (ih hpieces)
      · cases hfound
    | run accepts =>
      -- A run is followed character by character.
      induction text generalizing cut with
      | nil =>
        rw [cut?_run_nil] at h
        cases h
      | cons c rest ihrun =>
        rw [cut?_run_cons] at h
        split at h
        · next hc =>
          split at h
          · next cut' hcut' =>
            cases h
            exact (ihrun hcut').grow hc
          · -- No longer run leads to a cut, so the run ends here.
            obtain ⟨pieces, hpieces, rfl⟩ := Option.map_eq_some_iff.mp h
            have htakes : (Step.run accepts).Takes [c] := ⟨by simp, by simpa using hc⟩
            exact IsCut.cons htakes (ih hpieces)
        · cases h

/-- A run that takes the first character takes nothing else, or goes on as a run. -/
theorem IsCut.of_run_cons {accepts : Char → Bool} {steps : List Step} {c : Char}
    {rest : List Char} {cut : Cut} (h : IsCut (.run accepts :: steps) (c :: rest) cut) :
    accepts c = true ∧
      ((∃ pieces, cut = [c] :: pieces ∧ IsCut steps rest pieces) ∨
        ∃ cut', cut = cut'.grow c ∧ IsCut (.run accepts :: steps) rest cut') := by
  obtain ⟨piece, pieces, behind, rfl, htext, ⟨hne, haccepts⟩, hrest⟩ := h.of_cons
  cases piece with
  | nil => exact absurd rfl hne
  | cons d piece =>
    obtain ⟨rfl, rfl⟩ := List.cons.inj htext
    refine ⟨haccepts c List.mem_cons_self, ?_⟩
    -- The run ends with this character, or the rest of its piece is a run again.
    by_cases hpiece : piece = []
    · subst hpiece
      exact Or.inl ⟨pieces, rfl, hrest⟩
    · refine Or.inr ⟨piece :: pieces, rfl, ?_⟩
      apply IsCut.cons _ hrest
      refine ⟨hpiece, ?_⟩
      intro d hd
      exact haccepts d (List.mem_cons_of_mem _ hd)

/-- Where there is a cut, one is found. -/
theorem exists_cut?_of_isCut {steps : List Step} {text : List Char} {cut : Cut}
    (h : IsCut steps text cut) : ∃ found, cut? steps text = some found := by
  induction steps generalizing text cut with
  | nil =>
    cases h
    exact ⟨[], rfl⟩
  | cons step steps ih =>
    cases step with
    | choice texts =>
      obtain ⟨piece, pieces, rest, rfl, rfl, hpiece, hrest⟩ := h.of_cons
      obtain ⟨found, hfound⟩ := ih hrest
      -- A choice that leads to a cut need not be the first one, but one is found.
      rw [cut?_choice, ← Option.isSome_iff_exists, List.findSome?_isSome_iff]
      refine ⟨piece, hpiece, ?_⟩
      rw [if_pos (List.isPrefixOf_iff_prefix.mpr (List.prefix_append _ _)), List.drop_left, hfound]
      rfl
    | run accepts =>
      induction text generalizing cut with
      | nil =>
        obtain ⟨piece, pieces, rest, rfl, htext, ⟨hne, -⟩, -⟩ := h.of_cons
        exact absurd (List.append_eq_nil_iff.mp htext.symm).1 hne
      | cons c rest ihrun =>
        obtain ⟨hc, ⟨pieces, rfl, hrest⟩ | ⟨cut', rfl, hcut'⟩⟩ := h.of_run_cons
        · obtain ⟨found, hfound⟩ := ih hrest
          rw [cut?_run_cons, if_pos hc, hfound]
          cases cut? (.run accepts :: steps) rest <;> exact ⟨_, rfl⟩
        · obtain ⟨found, hfound⟩ := ihrun hcut'
          rw [cut?_run_cons, if_pos hc, hfound]
          exact ⟨_, rfl⟩

/-! ## §4 What is found is the longest cut -/

/-- No text of a choice begins another one, so that there is never a choice to make. -/
def Step.IsClear : Step → Prop
  | .choice texts => ∀ a ∈ texts, ∀ b ∈ texts, a <+: b → a = b
  | .run _ => True

/-- Two texts of a clear choice that begin the same text are one. -/
theorem Step.IsClear.eq_of_prefix {texts : List (List Char)} (h : (Step.choice texts).IsClear)
    {a b text : List Char} (ha : a ∈ texts) (hb : b ∈ texts) (hat : a <+: text)
    (hbt : b <+: text) : a = b := by
  rcases List.prefix_or_prefix_of_prefix hat hbt with hab | hba
  · exact h a ha b hb hab
  · exact (h b hb a ha hba).symm

/-- One character more in front of both first pieces changes nothing. -/
theorem Cut.Outgrows.grow {cut cut' : Cut} (c : Char) (h : cut.Outgrows cut') :
    (cut.grow c).Outgrows (cut'.grow c) := by
  cases h with
  | head hlt => exact .head (by simpa using hlt)
  | tail h => exact .tail h

/-- Where choices are clear, no other cut has longer earlier pieces than the one that is found. -/
theorem outgrows_of_cut? {steps : List Step} (hclear : ∀ step ∈ steps, step.IsClear)
    {text : List Char} {cut other : Cut} (h : cut? steps text = some cut)
    (hother : IsCut steps text other) : other = cut ∨ cut.Outgrows other := by
  induction steps generalizing text cut other with
  | nil =>
    cases hother
    cases h
    exact Or.inl rfl
  | cons step steps ih =>
    have ih := fun {text cut other} => @ih (fun step hstep => hclear step (.tail _ hstep))
      text cut other
    cases step with
    | choice texts =>
      -- The other cut takes the same choice, since no choice begins another one.
      have hclear := hclear _ List.mem_cons_self
      obtain ⟨piece, pieces, rest, rfl, rfl, hpiece, hrest⟩ := hother.of_cons
      rw [cut?_choice] at h
      obtain ⟨choice, hchoice, hfound⟩ := List.exists_of_findSome?_eq_some h
      split at hfound
      · next hprefix =>
        have heq : choice = piece := hclear.eq_of_prefix hchoice hpiece
          (List.isPrefixOf_iff_prefix.mp hprefix) (List.prefix_append _ _)
        subst heq
        obtain ⟨pieces', hpieces', rfl⟩ := Option.map_eq_some_iff.mp hfound
        rw [List.drop_left] at hpieces'
        exact (ih hpieces' hrest).imp (congrArg (choice :: ·)) Cut.Outgrows.tail
      · cases hfound
    | run accepts =>
      induction text generalizing cut other with
      | nil =>
        rw [cut?_run_nil] at h
        cases h
      | cons c rest ihrun =>
        obtain ⟨hc, hother'⟩ := hother.of_run_cons
        rw [cut?_run_cons, if_pos hc] at h
        split at h
        · next cut' hcut' =>
          cases h
          rcases hother' with ⟨pieces, rfl, -⟩ | ⟨other', rfl, hother'⟩
          · -- The run that is found goes on, the other one stops.
            obtain ⟨piece, pieces', -, rfl, -, ⟨hne, -⟩, -⟩ := (isCut_of_cut? hcut').of_cons
            exact Or.inr (.head (by simpa using List.length_pos_iff.mpr hne))
          · -- Both go on, and what holds of the rest holds with one character more.
            exact (ihrun hcut' hother').imp (congrArg (Cut.grow c)) (Cut.Outgrows.grow c)
        · next hnone =>
          -- The run that is found stops, so no other one can go on.
          obtain ⟨pieces', hpieces', rfl⟩ := Option.map_eq_some_iff.mp h
          rcases hother' with ⟨pieces, rfl, hrest⟩ | ⟨other', rfl, hother'⟩
          · exact (ih hpieces' hrest).imp (congrArg ([c] :: ·)) Cut.Outgrows.tail
          · obtain ⟨found, hfound⟩ := exists_cut?_of_isCut hother'
            rw [hnone] at hfound
            cases hfound

/-- Where choices are clear, the cut that is found is the longest one. -/
theorem cut?_eq_some_iff {steps : List Step} (hclear : ∀ step ∈ steps, step.IsClear)
    {text : List Char} {cut : Cut} : cut? steps text = some cut ↔ IsLongestCut steps text cut := by
  constructor
  · intro h
    exact ⟨isCut_of_cut? h, fun other hother => outgrows_of_cut? hclear h hother⟩
  · intro h
    obtain ⟨found, hfound⟩ := exists_cut?_of_isCut h.isCut
    -- Two longest cuts would outgrow each other.
    rcases outgrows_of_cut? hclear hfound h.isCut with rfl | hgrows
    · exact hfound
    · rcases h.longest found (isCut_of_cut? hfound) with rfl | hgrows'
      · exact hfound
      · exact absurd hgrows hgrows'.asymm

/-! ## §5 Where a text is divided -/

/-- A text is divided in one way only behind a given number of marked characters, in front of the
next one. -/
theorem append_inj_of_countP_eq {isMark : Char → Bool} {text text' rest rest' : List Char}
    {mark mark' : Char} (h : text ++ mark :: rest = text' ++ mark' :: rest')
    (hmark : isMark mark = true) (hmark' : isMark mark' = true)
    (hcount : text.countP isMark = text'.countP isMark) :
    text = text' ∧ mark :: rest = mark' :: rest' := by
  induction text generalizing text' with
  | nil =>
    cases text' with
    | nil => exact ⟨rfl, h⟩
    | cons c text' =>
      obtain rfl : mark = c := (List.cons.inj h).1
      rw [List.countP_nil, List.countP_cons_of_pos hmark] at hcount
      omega
  | cons c text ih =>
    cases text' with
    | nil =>
      obtain rfl : c = mark' := (List.cons.inj h).1
      rw [List.countP_nil, List.countP_cons_of_pos hmark'] at hcount
      omega
    | cons c' text' =>
      obtain ⟨rfl, hrest⟩ := List.cons.inj h
      rw [List.countP_cons, List.countP_cons] at hcount
      obtain ⟨rfl, hmarks⟩ := ih hrest (by omega)
      exact ⟨rfl, hmarks⟩

/-- A text is divided in one way only in front of the first mark. -/
theorem append_inj_of_notMem {mark : Char} {text text' rest rest' : List Char} (hmark : mark ∉ text)
    (hmark' : mark ∉ text') (h : text ++ mark :: rest = text' ++ mark :: rest') :
    text = text' ∧ rest = rest' := by
  have hcount : text.countP (· == mark) = text'.countP (· == mark) :=
    (List.count_eq_zero.mpr hmark).trans (List.count_eq_zero.mpr hmark').symm
  obtain ⟨htexts, hrests⟩ := @append_inj_of_countP_eq (· == mark) text text' rest rest' mark mark h
    (beq_self_eq_true mark) (beq_self_eq_true mark) hcount
  exact ⟨htexts, (List.cons.inj hrests).2⟩

/-- The same from the end of a text. -/
theorem append_inj_of_countP_eq' {isMark : Char → Bool} {text text' rest rest' : List Char}
    {mark mark' : Char} (h : rest ++ mark :: text = rest' ++ mark' :: text')
    (hmark : isMark mark = true) (hmark' : isMark mark' = true)
    (hcount : text.countP isMark = text'.countP isMark) :
    rest = rest' ∧ mark :: text = mark' :: text' := by
  have hreverse : text.reverse ++ mark :: rest.reverse = text'.reverse ++ mark' :: rest'.reverse := by
    simpa using congrArg List.reverse h
  obtain ⟨htexts, hrests⟩ := append_inj_of_countP_eq hreverse hmark hmark' (by simpa using hcount)
  obtain ⟨hmarks, hrests⟩ := List.cons.inj hrests
  exact ⟨List.reverse_inj.mp hrests, by rw [hmarks, List.reverse_inj.mp htexts]⟩

end TopicGate
