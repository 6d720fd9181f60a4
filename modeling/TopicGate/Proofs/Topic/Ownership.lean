import TopicGate.Topic.Ownership
import TopicGate.Proofs.Identity.Canonical
import TopicGate.Proofs.Topic.Rendering

/-!
# Own topics

A topic that is rendered from an identity tells which identity that was: under one audience no two
tokens render alike, and where a role stands before the tokens, no two audiences do.

## Main statements
* `ownsMatch_eq_true_iff`: what it means to own a topic.
* `Renders.token_eq`: one token for each rendering.
* `Renders.audience_eq`: one audience for each rendering that names a role first.
-/

namespace TopicGate

/-- A role, the caller's own or that of its peer, stands before every identity token. -/
def Template.RoleFirst (template : Template) : Prop :=
  ∃ before role behind, template.placeholders = before ++ role :: behind ∧
    (role = .audience ∨ role = .peer) ∧ Placeholder.identityToken ∉ before

namespace Ownership

/-- A topic is what the pattern renders for an audience and a token, with the segments that were
captured and no value missing. -/
def Renders (o : Ownership) (found : TopicMatch) (audience : Audience) (token topic : String) :
    Prop :=
  Template.renderParts? (o.ownFields found audience token) found.pattern.template.parts = some topic

variable {o : Ownership} {found : TopicMatch} {audience : Audience} {subject token topic : String}

/-! ## §1 Identity tokens -/

/-- Decoded and encoded again, a subject is its own token. -/
theorem identityToken_identity_eq_ok_iff :
    o.identityToken .identity subject audience = .ok token ↔
      token = subject ∧ ∃ id, o.codec.decode subject audience = .ok id := by
  unfold identityToken
  cases hdecode : o.codec.decode subject audience with
  | error e => simp [bind, Except.bind]
  | ok id =>
    have hencode := IdentityCodec.encode_of_decode hdecode
    simp only [bind, Except.bind, hencode, Except.ok.injEq, exists_eq', and_true]
    exact eq_comm

theorem identityToken_secondaryHash_eq_ok_iff :
    o.identityToken .secondaryHash subject audience = .ok token ↔
      ∃ id, o.codec.decode subject audience = .ok id ∧ token = secondaryHash id := by
  unfold identityToken
  cases o.codec.decode subject audience with
  | error e => simp [bind, Except.bind]
  | ok id =>
    simp only [bind, Except.bind, pure, Except.pure, Except.ok.injEq, exists_eq_left']
    exact eq_comm

/-! ## §2 What owning means -/

/-- A topic is the caller's own if it is rendered from the caller's audience and token; the empty
topic is nobody's. -/
theorem ownsMatch_eq_true_iff :
    o.ownsMatch found topic audience subject = true ↔
      topic ≠ "" ∧ ∃ token, o.identityToken found.pattern.hashKind subject audience = .ok token ∧
        o.Renders found audience token topic := by
  unfold ownsMatch
  cases o.identityToken found.pattern.hashKind subject audience with
  | error e => simp
  | ok token =>
    simp only [Bool.and_eq_true, bne_iff_ne, beq_iff_eq, Except.ok.injEq, exists_eq_left']
    constructor
    · rintro ⟨hne, rfl⟩
      exact ⟨hne, TopicPattern.renderParts?_of_render_eq rfl hne⟩
    · rintro ⟨hne, hrenders⟩
      have hrender : found.pattern.render (o.ownFields found audience token) = topic := by
        rw [TopicPattern.render, Template.render, hrenders, Option.getD_some]
      exact ⟨hrender ▸ hne, hrender⟩

/-! ## §3 One token for each rendering -/

variable {a b : Audience} {t t' : String}

/-- Only the token itself depends on the token. -/
theorem render?_ownFields_of_ne {part : Part} (h : part ≠ .field .identityToken) :
    part.render? (o.ownFields found a t) = part.render? (o.ownFields found a t') := by
  cases part with
  | literal text => rfl
  | field placeholder =>
    cases placeholder with
    | identityToken => exact absurd rfl h
    | company | audience | peer | segment name => rfl

/-- The lengths of two renderings differ by those of the tokens, as often as the token occurs. -/
theorem length_add_count_mul {parts : List Part} {text text' : String}
    (h : Template.renderParts? (o.ownFields found a t) parts = some text)
    (h' : Template.renderParts? (o.ownFields found a t') parts = some text') :
    text.length + parts.count (.field .identityToken) * t'.length =
      text'.length + parts.count (.field .identityToken) * t.length := by
  induction parts generalizing text text' with
  | nil =>
    cases h
    cases h'
    simp
  | cons part parts ih =>
    obtain ⟨first, rest, hfirst, hrest, rfl⟩ := renderParts?_cons_eq_some_iff.mp h
    obtain ⟨first', rest', hfirst', hrest', rfl⟩ := renderParts?_cons_eq_some_iff.mp h'
    have ih := ih hrest hrest'
    rw [String.length_append, String.length_append]
    by_cases hpart : part = .field .identityToken
    · -- One more token on either side.
      subst hpart
      obtain rfl : t = first := Option.some.inj hfirst
      obtain rfl : t' = first' := Option.some.inj hfirst'
      rw [List.count_cons_self, Nat.add_mul, Nat.add_mul]
      omega
    · -- The same text on both sides.
      rw [render?_ownFields_of_ne hpart, hfirst'] at hfirst
      obtain rfl : first' = first := Option.some.inj hfirst
      rw [List.count_cons_of_ne hpart]
      omega

/-- Tokens of one length stand in the same places, so that they can be compared. -/
theorem token_eq_of_length_eq (hlength : t.length = t'.length) {parts : List Part} {text : String}
    (hmem : Part.field .identityToken ∈ parts)
    (h : Template.renderParts? (o.ownFields found a t) parts = some text)
    (h' : Template.renderParts? (o.ownFields found a t') parts = some text) : t = t' := by
  induction parts generalizing text with
  | nil => cases hmem
  | cons part parts ih =>
    obtain ⟨first, rest, hfirst, hrest, htext⟩ := renderParts?_cons_eq_some_iff.mp h
    obtain ⟨first', rest', hfirst', hrest', htext'⟩ := renderParts?_cons_eq_some_iff.mp h'
    rw [htext] at htext'
    by_cases hpart : part = .field .identityToken
    · subst hpart
      obtain rfl : t = first := Option.some.inj hfirst
      obtain rfl : t' = first' := Option.some.inj hfirst'
      -- The first token decides: it stands in front of both texts.
      have hlists : t.toList ++ rest.toList = t'.toList ++ rest'.toList := by
        rw [← String.toList_append, htext', String.toList_append]
      have hlength : t.toList.length = t'.toList.length := by
        rw [String.length_toList, String.length_toList, hlength]
      exact String.toList_inj.mp (List.append_inj hlists hlength).1
    · rw [render?_ownFields_of_ne hpart, hfirst'] at hfirst
      obtain rfl : first' = first := Option.some.inj hfirst
      obtain rfl : rest = rest' := String.append_right_inj _ |>.mp htext'
      have hmem : Part.field .identityToken ∈ parts := by
        rcases List.mem_cons.mp hmem with heq | hmem
        · exact absurd heq.symm hpart
        · exact hmem
      exact ih hmem hrest hrest'

theorem mem_placeholders_iff {template : Template} {placeholder : Placeholder} :
    placeholder ∈ template.placeholders ↔ Part.field placeholder ∈ template.parts := by
  rw [Template.placeholders, List.mem_filterMap]
  constructor
  · rintro ⟨part, hpart, hplaceholder⟩
    cases part with
    | literal text => cases hplaceholder
    | field other =>
      cases hplaceholder
      exact hpart
  · intro h
    exact ⟨_, h, rfl⟩

/-- Under one audience a topic with a token in it is rendered from one token only. -/
theorem Renders.token_eq (h : o.Renders found a t topic) (h' : o.Renders found a t' topic)
    (htoken : .identityToken ∈ found.pattern.template.placeholders) : t = t' := by
  have hmem : Part.field .identityToken ∈ found.pattern.template.parts :=
    mem_placeholders_iff.mp htoken
  -- The token occurs at least once, so two topics of one length have tokens of one length.
  have hcount := length_add_count_mul h h'
  have hlength : t.length = t'.length :=
    Nat.eq_of_mul_eq_mul_left (List.count_pos_iff.mpr hmem) (by omega)
  exact token_eq_of_length_eq hlength hmem h h'

/-! ## §4 One audience for each rendering that names a role first -/

/-- What does not speak of the caller is rendered alike for every caller. -/
theorem render?_ownFields_of_shared {part : Part} (h : part.isIdentityScoped = false) :
    part.render? (o.ownFields found a t) = part.render? (o.ownFields found b t') := by
  cases part with
  | literal text => rfl
  | field placeholder =>
    cases placeholder with
    | audience | peer | identityToken => cases h
    | company | segment name => rfl

/-- The names of the audiences differ in their first character already. -/
theorem eq_of_name_append_eq {rest rest' : String} (h : a.name ++ rest = b.name ++ rest') :
    a = b := by
  have hlists : a.name.toList ++ rest.toList = b.name.toList ++ rest'.toList := by
    rw [← String.toList_append, h, String.toList_append]
  cases a <;> cases b
  · rfl
  · exact absurd (List.cons.inj hlists).1 (by decide)
  · exact absurd (List.cons.inj hlists).1 (by decide)
  · rfl

/-- A role in front tells the audience. -/
theorem audience_eq_of_role {role : Placeholder} (hrole : role = .audience ∨ role = .peer)
    {first first' rest rest' : String}
    (h : (Part.field role).render? (o.ownFields found a t) = some first)
    (h' : (Part.field role).render? (o.ownFields found b t') = some first')
    (htext : first ++ rest = first' ++ rest') : a = b := by
  rcases hrole with rfl | rfl
  · cases h
    cases h'
    exact eq_of_name_append_eq htext
  · cases h
    cases h'
    have hpeer : a.peer = b.peer := eq_of_name_append_eq htext
    rw [← a.peer_peer, hpeer, b.peer_peer]

theorem audience_eq_of_renderParts? {parts : List Part} {text : String}
    {before behind : List Placeholder} {role : Placeholder}
    (hparts : parts.filterMap Part.placeholder? = before ++ role :: behind)
    (hrole : role = .audience ∨ role = .peer) (hbefore : Placeholder.identityToken ∉ before)
    (h : Template.renderParts? (o.ownFields found a t) parts = some text)
    (h' : Template.renderParts? (o.ownFields found b t') parts = some text) : a = b := by
  induction parts generalizing text before with
  | nil => simp at hparts
  | cons part parts ih =>
    obtain ⟨first, rest, hfirst, hrest, htext⟩ := renderParts?_cons_eq_some_iff.mp h
    obtain ⟨first', rest', hfirst', hrest', htext'⟩ := renderParts?_cons_eq_some_iff.mp h'
    rw [htext] at htext'
    -- A part that speaks of nobody is the same text on both sides and can be taken off.
    have hskip : part.isIdentityScoped = false → ∀ {before : List Placeholder},
        parts.filterMap Part.placeholder? = before ++ role :: behind →
        Placeholder.identityToken ∉ before → a = b := by
      intro hshared before hparts hbefore
      rw [render?_ownFields_of_shared hshared, hfirst'] at hfirst
      obtain rfl : first' = first := Option.some.inj hfirst
      obtain rfl : rest = rest' := String.append_right_inj _ |>.mp htext'
      exact ih hparts hbefore hrest hrest'
    cases part with
    | literal text => exact hskip rfl hparts hbefore
    | field placeholder =>
      have hparts : placeholder :: parts.filterMap Part.placeholder? = before ++ role :: behind :=
        hparts
      cases before with
      | nil =>
        -- The role itself.
        obtain rfl : placeholder = role := (List.cons.inj hparts).1
        exact audience_eq_of_role hrole hfirst hfirst' htext'
      | cons other before =>
        -- A placeholder before the role: no token, and a role of its own decides already.
        obtain ⟨rfl, hothers⟩ := List.cons.inj hparts
        rw [List.mem_cons, not_or] at hbefore
        cases placeholder with
        | identityToken => exact absurd rfl hbefore.1
        | audience => exact audience_eq_of_role (Or.inl rfl) hfirst hfirst' htext'
        | peer => exact audience_eq_of_role (Or.inr rfl) hfirst hfirst' htext'
        | company | segment name => exact hskip rfl hothers hbefore.2

/-- A topic whose template names a role before any token is rendered for one audience only. -/
theorem Renders.audience_eq (h : o.Renders found a t topic) (h' : o.Renders found b t' topic)
    (hrole : found.pattern.template.RoleFirst) : a = b := by
  obtain ⟨before, role, behind, hplaceholders, hrole, hbefore⟩ := hrole
  exact audience_eq_of_renderParts? hplaceholders hrole hbefore h h'

end Ownership

end TopicGate
