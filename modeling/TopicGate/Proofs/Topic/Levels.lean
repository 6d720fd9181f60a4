import TopicGate.Proofs.Topic.Language
import Mathlib.Data.List.Infix

/-!
# Levels

A topic that was written from some values may be cut into others, and what is written again from the
segments of that cut may be another topic.  Whether this can happen is told level by level from what
a template puts in front of, between and behind the segments of a level.

## Main definitions
* `RendersAgain`: a text with the pieces it was written from and those it was cut into.
* `IsSettled`: in every level the segments are told apart from the values of the caller.

## Main statements
* `RendersAgain.eq_of_isSettled`: where all levels are settled, the same text is written again.
-/

namespace TopicGate

/-! ## §1 Slots -/

/-- A place in a topic: a fixed character, or a gap for a role, an identity token or a segment. -/
inductive Slot where
  | char (c : Char)
  | role
  | token
  | segment
deriving DecidableEq

namespace Slot

/-- The pieces that may stand in a slot. -/
def Takes : Slot → List Char → Prop
  | char c, piece => piece = [c]
  | role, piece => piece = "driver".toList ∨ piece = "passenger".toList
  | token, piece => piece ≠ [] ∧ ∀ c ∈ piece, IsTokenSymbol c
  | segment, piece => piece ≠ [] ∧ ∀ c ∈ piece, c ≠ '/'

/-- What is written again: the captured piece of a segment, and the own piece of anything else. -/
def again : Slot → List Char → List Char → List Char
  | segment, _, captured => captured
  | _, own, _ => own

/-- A separator stands in no slot but its own. -/
theorem Takes.separator_notMem {slot : Slot} (hslot : slot ≠ .char '/') {piece : List Char}
    (h : slot.Takes piece) : '/' ∉ piece := by
  cases slot with
  | char c =>
    obtain rfl := h
    intro hmem
    exact hslot (congrArg Slot.char (List.mem_singleton.mp hmem).symm)
  | role =>
    rcases h with rfl | rfl
    · decide
    · decide
  | token =>
    intro hmem
    exact absurd (isTokenChar_eq_true_iff.mpr (h.2 _ hmem)) (by decide)
  | segment => exact fun hmem => h.2 _ hmem rfl

end Slot

/-- `RendersAgain slots own cut again`: the slots write `own` from pieces of their own, `cut` is cut
into pieces for them, and `again` is written from the pieces that were cut for the segments and from
the own ones of all other slots. -/
inductive RendersAgain : List Slot → List Char → List Char → List Char → Prop
  | nil : RendersAgain [] [] [] []
  | cons {slot : Slot} {slots : List Slot} {piece captured own cut again : List Char} :
      slot.Takes piece → slot.Takes captured → RendersAgain slots own cut again →
      RendersAgain (slot :: slots) (piece ++ own) (captured ++ cut)
        (slot.again piece captured ++ again)

namespace RendersAgain

variable {slots behind : List Slot} {own cut again : List Char}

theorem single {slot : Slot} {piece captured : List Char} (h : slot.Takes piece)
    (h' : slot.Takes captured) :
    RendersAgain [slot] piece captured (slot.again piece captured) := by
  simpa using cons h h' nil

/-- Fixed text is written, cut and written again as it is. -/
theorem chars (text : List Char) : RendersAgain (text.map .char) text text text := by
  induction text with
  | nil => exact nil
  | cons c text ih =>
    show RendersAgain (.char c :: text.map .char) ([c] ++ text) ([c] ++ text) ([c] ++ text)
    exact cons rfl rfl ih

theorem append {own' cut' again' : List Char} (h : RendersAgain slots own cut again)
    (h' : RendersAgain behind own' cut' again') :
    RendersAgain (slots ++ behind) (own ++ own') (cut ++ cut') (again ++ again') := by
  induction h with
  | nil => exact h'
  | cons htakes hcaptured _ ih =>
    simp only [List.cons_append, List.append_assoc]
    exact cons htakes hcaptured ih

/-- What consecutive slots write, cut and write again falls apart between them. -/
theorem of_append (h : RendersAgain (slots ++ behind) own cut again) :
    ∃ own₁ own₂ cut₁ cut₂ again₁ again₂, own = own₁ ++ own₂ ∧ cut = cut₁ ++ cut₂ ∧
      again = again₁ ++ again₂ ∧ RendersAgain slots own₁ cut₁ again₁ ∧
      RendersAgain behind own₂ cut₂ again₂ := by
  induction slots generalizing own cut again with
  | nil => exact ⟨[], own, [], cut, [], again, rfl, rfl, rfl, nil, h⟩
  | cons slot slots ih =>
    cases h with
    | cons htakes hcaptured hrest =>
      obtain ⟨own₁, own₂, cut₁, cut₂, again₁, again₂, rfl, rfl, rfl, hslots, hbehind⟩ := ih hrest
      refine ⟨_, own₂, _, cut₂, _, again₂, (List.append_assoc ..).symm, (List.append_assoc ..).symm,
        (List.append_assoc ..).symm, cons htakes hcaptured hslots, hbehind⟩

/-- Without segments, what is written again is what was written. -/
theorem again_eq_own (h : RendersAgain slots own cut again) (hsegment : Slot.segment ∉ slots) :
    again = own := by
  induction h with
  | nil => rfl
  | @cons slot _ _ _ _ _ _ _ _ _ ih =>
    rw [List.mem_cons, not_or] at hsegment
    rw [ih hsegment.2]
    cases slot with
    | segment => exact absurd rfl hsegment.1
    | char c | role | token => rfl

/-- Without values of the caller, what is written again is what was cut. -/
theorem again_eq_cut (h : RendersAgain slots own cut again) (hrole : Slot.role ∉ slots)
    (htoken : Slot.token ∉ slots) : again = cut := by
  induction h with
  | nil => rfl
  | @cons slot _ _ _ _ _ _ htakes hcaptured _ ih =>
    rw [List.mem_cons, not_or] at hrole htoken
    rw [ih hrole.2 htoken.2]
    cases slot with
    | role => exact absurd rfl hrole.1
    | token => exact absurd rfl htoken.1
    | segment => rfl
    | char c =>
      obtain rfl := htakes
      obtain rfl := hcaptured
      rfl

/-- Without fixed separators, neither text leaves its level. -/
theorem separator_notMem (h : RendersAgain slots own cut again) (hslash : Slot.char '/' ∉ slots) :
    '/' ∉ own ∧ '/' ∉ cut := by
  induction h with
  | nil => exact ⟨List.not_mem_nil, List.not_mem_nil⟩
  | cons htakes hcaptured _ ih =>
    rw [List.mem_cons, not_or] at hslash
    obtain ⟨hown, hcut⟩ := ih hslash.2
    have hslot := Ne.symm hslash.1
    exact ⟨List.not_mem_append (htakes.separator_notMem hslot) hown,
      List.not_mem_append (hcaptured.separator_notMem hslot) hcut⟩

end RendersAgain

/-! ## §2 What is told from what follows -/

/-- A character that stands in no role and in no token. -/
def isDelimiter (c : Char) : Bool := !isTokenChar c

namespace Slot.Takes

variable {slot : Slot} {piece captured rest rest' : List Char}

/-- Without segments a slot has the delimiters of its fixed text, whatever stands in it. -/
theorem countP_isDelimiter_eq (h : slot.Takes piece) (h' : slot.Takes captured)
    (hsegment : slot ≠ .segment) : piece.countP isDelimiter = captured.countP isDelimiter := by
  cases slot with
  | char c => rw [h, h']
  | role =>
    have hrole : ∀ {text : List Char}, Slot.role.Takes text → text.countP isDelimiter = 0 := by
      rintro text (rfl | rfl)
      · decide
      · decide
    rw [hrole h, hrole h']
  | token =>
    have htoken : ∀ {text : List Char}, Slot.token.Takes text → text.countP isDelimiter = 0 := by
      intro text htext
      rw [List.countP_eq_zero]
      intro c hc
      simp [isDelimiter, isTokenChar_eq_true_iff.mpr (htext.2 c hc)]
    rw [htoken h, htoken h']
  | segment => exact absurd rfl hsegment

/-- Fixed text and roles are told from where they begin or end: no name of a role begins or ends
another. -/
theorem eq_of_comparable (h : slot.Takes piece) (h' : slot.Takes captured) (htoken : slot ≠ .token)
    (hsegment : slot ≠ .segment) (hcomparable : (piece <+: captured ∨ captured <+: piece) ∨
      (piece <:+ captured ∨ captured <:+ piece)) : piece = captured := by
  cases slot with
  | char c => exact h.trans h'.symm
  | role =>
    rcases h with rfl | rfl <;> rcases h' with rfl | rfl
    · rfl
    · exact absurd hcomparable (by decide)
    · exact absurd hcomparable (by decide)
    · rfl
  | token => exact absurd rfl htoken
  | segment => exact absurd rfl hsegment

/-- Fixed text and roles are told from a text that they begin. -/
theorem append_inj (h : slot.Takes piece) (h' : slot.Takes captured) (htoken : slot ≠ .token)
    (hsegment : slot ≠ .segment) (htext : piece ++ rest = captured ++ rest') :
    piece = captured ∧ rest = rest' := by
  obtain rfl : piece = captured := h.eq_of_comparable h' htoken hsegment
    (Or.inl (List.prefix_or_prefix_of_prefix (List.prefix_append piece rest)
      (htext ▸ List.prefix_append captured rest')))
  exact ⟨rfl, List.append_cancel_left htext⟩

/-- Fixed text and roles are told from a text that they end. -/
theorem append_inj' (h : slot.Takes piece) (h' : slot.Takes captured) (htoken : slot ≠ .token)
    (hsegment : slot ≠ .segment) (htext : rest ++ piece = rest' ++ captured) :
    rest = rest' ∧ piece = captured := by
  obtain rfl : piece = captured := h.eq_of_comparable h' htoken hsegment
    (Or.inr (List.suffix_or_suffix_of_suffix (List.suffix_append rest piece)
      (htext ▸ List.suffix_append rest' captured)))
  exact ⟨List.append_cancel_right htext, rfl⟩

end Slot.Takes

/-- Slots without segments in which no token follows the last delimiter: where their text ends is
told from the text alone. -/
structure IsClosed (slots : List Slot) : Prop where
  segment : Slot.segment ∉ slots
  token : Slot.token ∉ slots ∨ ∃ before c behind, slots = before ++ .char c :: behind ∧
    isDelimiter c = true ∧ Slot.token ∉ behind

namespace RendersAgain

variable {slots : List Slot} {own cut again rest rest' : List Char}

theorem of_cons {slot : Slot} (h : RendersAgain (slot :: slots) own cut again) :
    ∃ piece captured own' cut' again', own = piece ++ own' ∧ cut = captured ++ cut' ∧
      again = slot.again piece captured ++ again' ∧ slot.Takes piece ∧ slot.Takes captured ∧
      RendersAgain slots own' cut' again' := by
  cases h with
  | cons htakes hcaptured hrest => exact ⟨_, _, _, _, _, rfl, rfl, rfl, htakes, hcaptured, hrest⟩

/-- Without segments, both texts have the delimiters of the fixed text. -/
theorem countP_isDelimiter_eq (h : RendersAgain slots own cut again)
    (hsegment : Slot.segment ∉ slots) : own.countP isDelimiter = cut.countP isDelimiter := by
  induction h with
  | nil => rfl
  | cons htakes hcaptured _ ih =>
    rw [List.mem_cons, not_or] at hsegment
    rw [List.countP_append, List.countP_append,
      htakes.countP_isDelimiter_eq hcaptured (Ne.symm hsegment.1), ih hsegment.2]

/-- Fixed text and roles at the beginning of a text are cut as they were written. -/
theorem append_inj_of_plain (h : RendersAgain slots own cut again)
    (hsegment : Slot.segment ∉ slots) (htoken : Slot.token ∉ slots)
    (htext : own ++ rest = cut ++ rest') : own = cut ∧ rest = rest' := by
  induction h with
  | nil => exact ⟨rfl, htext⟩
  | cons htakes hcaptured _ ih =>
    rw [List.mem_cons, not_or] at hsegment htoken
    rw [List.append_assoc, List.append_assoc] at htext
    obtain ⟨rfl, htexts⟩ :=
      htakes.append_inj hcaptured (Ne.symm htoken.1) (Ne.symm hsegment.1) htext
    obtain ⟨rfl, hrest⟩ := ih hsegment.2 htoken.2 htexts
    exact ⟨rfl, hrest⟩

/-- Fixed text and roles at the end of a text are cut as they were written. -/
theorem append_inj_of_plain' (h : RendersAgain slots own cut again)
    (hsegment : Slot.segment ∉ slots) (htoken : Slot.token ∉ slots)
    (htext : rest ++ own = rest' ++ cut) : rest = rest' ∧ own = cut := by
  induction slots using List.reverseRecOn generalizing own cut again rest rest' with
  | nil =>
    cases h
    exact ⟨List.append_cancel_right htext, rfl⟩
  | append_singleton slots slot ih =>
    obtain ⟨own, _, cut, _, _, _, rfl, rfl, rfl, hslots, hslot⟩ := h.of_append
    obtain ⟨piece, captured, _, _, _, rfl, rfl, rfl, htakes, hcaptured, hnil⟩ := hslot.of_cons
    cases hnil
    rw [List.mem_append, not_or, List.mem_singleton] at hsegment htoken
    rw [List.append_nil, List.append_nil, ← List.append_assoc, ← List.append_assoc] at htext
    obtain ⟨htexts, rfl⟩ :=
      htakes.append_inj' hcaptured (Ne.symm htoken.2) (Ne.symm hsegment.2) htext
    obtain ⟨hrest, rfl⟩ := ih hslots hsegment.1 htoken.1 htexts
    exact ⟨hrest, rfl⟩

/-- What closed slots write at the beginning of a text is what is cut there. -/
theorem append_inj_of_isClosed (h : RendersAgain slots own cut again) (hclosed : IsClosed slots)
    (htext : own ++ rest = cut ++ rest') : own = cut ∧ rest = rest' := by
  have hsegment := hclosed.segment
  rcases hclosed.token with htoken | ⟨before, c, behind, rfl, hc, htoken⟩
  · exact h.append_inj_of_plain hsegment htoken htext
  · rw [List.mem_append, List.mem_cons, not_or, not_or] at hsegment
    obtain ⟨own, _, cut, _, _, _, rfl, rfl, rfl, hbefore, htail⟩ := h.of_append
    obtain ⟨_, _, own', cut', _, rfl, rfl, rfl, rfl, rfl, hbehind⟩ := htail.of_cons
    have htexts : own ++ c :: (own' ++ rest) = cut ++ c :: (cut' ++ rest') := by simpa using htext
    -- Up to the last delimiter they are told by their delimiters, and fixed text and roles follow.
    obtain ⟨rfl, hbehinds⟩ := append_inj_of_countP_eq htexts hc hc
      (hbefore.countP_isDelimiter_eq hsegment.1)
    obtain ⟨rfl, hrest⟩ :=
      hbehind.append_inj_of_plain hsegment.2.2 htoken (List.cons.inj hbehinds).2
    exact ⟨rfl, hrest⟩

/-- What slots that are closed towards the front write at the end of a text is what is cut there. -/
theorem append_inj_of_isClosed' (h : RendersAgain slots own cut again)
    (hclosed : IsClosed slots.reverse) (htext : rest ++ own = rest' ++ cut) :
    rest = rest' ∧ own = cut := by
  have hsegment : Slot.segment ∉ slots := fun hmem => hclosed.segment (List.mem_reverse.mpr hmem)
  rcases hclosed.token with htoken | ⟨behind, c, before, hslots, hc, htoken⟩
  · apply h.append_inj_of_plain' hsegment _ htext
    exact fun hmem => htoken (List.mem_reverse.mpr hmem)
  · obtain rfl : slots = before.reverse ++ .char c :: behind.reverse := by
      simpa using congrArg List.reverse hslots
    rw [List.mem_append, List.mem_cons, not_or, not_or] at hsegment
    rw [← List.mem_reverse] at htoken
    obtain ⟨own, _, cut, _, _, _, rfl, rfl, rfl, hbefore, htail⟩ := h.of_append
    obtain ⟨_, _, own', cut', _, rfl, rfl, rfl, rfl, rfl, hbehind⟩ := htail.of_cons
    have htexts : rest ++ own ++ c :: own' = rest' ++ cut ++ c :: cut' := by simpa using htext
    -- From the first delimiter on they are told by their delimiters, and before it is fixed text.
    obtain ⟨hbefores, hback⟩ := append_inj_of_countP_eq' htexts hc hc
      (hbehind.countP_isDelimiter_eq hsegment.2.2)
    obtain ⟨hrest, rfl⟩ := hbefore.append_inj_of_plain' hsegment.1 htoken hbefores
    exact ⟨hrest, congrArg (own ++ ·) hback⟩

end RendersAgain

/-! ## §3 Settled levels -/

/-- A level in which the segments are told apart from the values of the caller: none of these stands
between two segments, and a delimiter stands between a segment and a token. -/
def IsSettledLevel (level : List Slot) : Prop :=
  Slot.segment ∉ level ∨ ∃ before middle behind, level = before ++ middle ++ behind ∧
    IsClosed before ∧ Slot.role ∉ middle ∧ Slot.token ∉ middle ∧ IsClosed behind.reverse

/-- All levels are settled. -/
def IsSettled (slots : List Slot) : Prop :=
  ∀ level ∈ slots.splitOn (.char '/'), IsSettledLevel level

namespace RendersAgain

variable {level slots : List Slot} {text again : List Char}

/-- A settled level is written again as it was. -/
theorem eq_of_isSettledLevel (h : RendersAgain level text text again)
    (hlevel : IsSettledLevel level) : again = text := by
  rcases hlevel with hsegment | ⟨before, middle, behind, rfl, hbefore, hrole, htoken, hbehind⟩
  · exact h.again_eq_own hsegment
  · obtain ⟨front, back, cut, cut', _, _, rfl, hcut, rfl, hfront, hback⟩ := h.of_append
    obtain ⟨own₁, own₂, cut₁, cut₂, _, _, rfl, rfl, rfl, h₁, h₂⟩ := hfront.of_append
    -- Both ends are told, so what is left in the middle is the same as well.
    obtain ⟨hcuts, rfl⟩ := hback.append_inj_of_isClosed' hbehind hcut
    obtain ⟨rfl, rfl⟩ := h₁.append_inj_of_isClosed hbefore hcuts
    rw [h₁.again_eq_own hbefore.segment, h₂.again_eq_cut hrole htoken, hback.again_eq_own]
    exact fun hmem => hbehind.segment (List.mem_reverse.mpr hmem)

/-- A separator ends the first level. -/
theorem splitOn_separator {rest : List Slot} (hlevel : Slot.char '/' ∉ level) :
    (level ++ .char '/' :: rest).splitOn (.char '/') = level :: rest.splitOn (.char '/') := by
  have hslots : ∀ slot ∈ level, (slot == Slot.char '/') = false := by
    intro slot hslot
    rw [beq_eq_false_iff_ne]
    rintro rfl
    exact hlevel hslot
  rw [List.splitOn_eq_splitOnP, List.splitOn_eq_splitOnP]
  exact List.splitOnP_append_cons_of_forall_mem hslots _ (beq_self_eq_true _) _

/-- **Settled levels are written again.**  A text that was written from own values and is cut into
other pieces is the same when it is written again with the segments of the cut. -/
theorem eq_of_isSettled (h : RendersAgain slots text text again) (hsettled : IsSettled slots) :
    again = text := by
  induction hlength : slots.length using Nat.strong_induction_on generalizing slots text again with
  | _ n ih =>
    by_cases hslash : Slot.char '/' ∈ slots
    · obtain ⟨level, rest, rfl, hlevel⟩ := List.eq_append_cons_of_mem hslash
      obtain ⟨own, _, cut, _, _, _, rfl, hcut, rfl, hfirst, htail⟩ := h.of_append
      obtain ⟨_, _, own', cut', _, rfl, rfl, rfl, rfl, rfl, hrest⟩ := htail.of_cons
      rw [IsSettled, splitOn_separator hlevel, List.forall_mem_cons] at hsettled
      -- The first level ends at the first separator in both texts.
      obtain ⟨hown, hcaptured⟩ := hfirst.separator_notMem hlevel
      have hcounts : own.count '/' = cut.count '/' := by
        rw [List.count_eq_zero.mpr hown, List.count_eq_zero.mpr hcaptured]
      obtain ⟨rfl, hbehind⟩ := append_inj_of_countP_eq hcut (by decide) (by decide) hcounts
      obtain rfl : own' = cut' := (List.cons.inj hbehind).2
      have hshorter : rest.length < n := by
        rw [← hlength, List.length_append, List.length_cons]
        omega
      rw [hfirst.eq_of_isSettledLevel hsettled.1, ih _ hshorter hrest hsettled.2 rfl]
      rfl
    · apply h.eq_of_isSettledLevel
      apply hsettled
      rw [List.splitOn_eq_singleton hslash]
      exact List.mem_singleton_self _

end RendersAgain

end TopicGate
