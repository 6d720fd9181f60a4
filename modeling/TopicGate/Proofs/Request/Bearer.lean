import TopicGate.Proofs.Request.Allowed
import TopicGate.Proofs.TextMap
import TopicGate.Tenant

/-!
# What a decision reads of a token

A token speaks through two texts only, its issuer and its subject.  Its signature, the word in front
of it, its header, its other claims and the way in which the two claims are written leave no trace
in the decision.

## Main statements
* `Token.claims_signature`: the claims in front of one signature are those in front of any other.
* `Token.bare_word`: a token with the word in front of it is the token.
* `Claims.namesAlike_insert_text`: a claim may be written as the text that it is read as.
* `Tenant.decide_through_issuer_and_subject`: tokens with the same issuer and subject are decided
  alike.

## Sections
1. Ends of texts
2. The word in front of a token
3. Signatures
4. Claims
5. Decisions
-/

namespace TopicGate

/-! ## §1 Ends of texts -/

/-- What takes a start off a text does not look behind a mark that the start has not. -/
theorem isPrefixOf?_append_cons {α : Type} [BEq α] [LawfulBEq α] {start front tail : List α}
    {mark : α} (h : mark ∉ start) :
    start.isPrefixOf? (front ++ mark :: tail) =
      (start.isPrefixOf? front).map (· ++ mark :: tail) := by
  cases hfront : start.isPrefixOf? front with
  | some rest =>
    obtain rfl := List.isPrefixOf?_eq_some_iff_append_eq.mp hfront
    exact List.isPrefixOf?_eq_some_iff_append_eq.mpr (List.append_assoc ..).symm
  | none =>
    apply Option.eq_none_iff_forall_ne_some.mpr
    intro rest hrest
    have hsplit := List.isPrefixOf?_eq_some_iff_append_eq.mp hrest
    rcases List.append_eq_append_iff.mp hsplit with ⟨more, rfl, -⟩ | ⟨more, rfl, hmore⟩
    · -- The start ends before the mark.
      rw [List.isPrefixOf?_eq_some_iff_append_eq.mpr rfl] at hfront
      cases hfront
    · -- The start reaches the mark, so it ends right before it.
      cases more with
      | nil =>
        have hwhole : (front ++ []).isPrefixOf? front = some [] :=
          List.isPrefixOf?_eq_some_iff_append_eq.mpr (by simp)
        cases hfront.symm.trans hwhole
      | cons first more =>
        obtain rfl : mark = first := (List.cons.inj hmore).1
        simp at h

theorem isPrefixOf?_eq_none {start text : List Char} (h : ¬start <+: text) :
    start.isPrefixOf? text = none := by
  apply Option.eq_none_iff_forall_ne_some.mpr
  intro rest hrest
  exact h ⟨rest, List.isPrefixOf?_eq_some_iff_append_eq.mp hrest⟩

/-- Behind a dot and without blanks of its own, the end of a text has nothing to trim. -/
theorem Text.trim_append_dot {tail : List Char} (h : ∀ c ∈ tail, isBlank c = false)
    (front : List Char) :
    trim (front ++ '.' :: tail) = front.dropWhile isBlank ++ '.' :: tail := by
  have hdot : isBlank '.' = false := by decide
  have hfront : (front ++ '.' :: tail).dropWhile isBlank =
      front.dropWhile isBlank ++ '.' :: tail := by
    rw [List.dropWhile_append]
    split
    · next hnil => simp [List.isEmpty_iff.mp hnil, hdot]
    · rfl
  have hback : ∀ rest, (tail.reverse ++ '.' :: rest).dropWhile isBlank =
      tail.reverse ++ '.' :: rest := by
    intro rest
    cases hlast : tail.reverse with
    | nil => simp [hdot]
    | cons last others =>
      have hmem : last ∈ tail := List.mem_reverse.mp (by simp [hlast])
      simp [h last hmem]
  rw [trim, hfront, List.reverse_append, List.reverse_cons, List.append_assoc,
    List.singleton_append, hback]
  simp

/-! ## §2 The word in front of a token -/

namespace Token

/-- The words that may stand in front of a token. -/
def bearerWords : List String := ["Bearer ", "bearer "]

/-- A text without the word in front of it. -/
def unworded (text : List Char) : List Char :=
  match "Bearer ".toList.isPrefixOf? text with
  | some rest => rest
  | none => ("bearer ".toList.isPrefixOf? text).getD text

theorem bare_eq (token : String) : bare token = Text.trim (unworded token.toList) := rfl

/-- A word is taken off once, whatever follows it. -/
theorem unworded_append {word : String} (hword : word ∈ bearerWords) (text : List Char) :
    unworded (word.toList ++ text) = text := by
  simp only [bearerWords, List.mem_cons, List.not_mem_nil, or_false] at hword
  rcases hword with rfl | rfl <;> rfl

theorem unworded_of_not {text : List Char} (h : ∀ word ∈ bearerWords, ¬word.toList <+: text) :
    unworded text = text := by
  rw [unworded, isPrefixOf?_eq_none (h "Bearer " (by simp [bearerWords])),
    isPrefixOf?_eq_none (h "bearer " (by simp [bearerWords])), Option.getD_none]

/-- No word reaches behind a dot. -/
theorem unworded_append_dot (front tail : List Char) :
    unworded (front ++ '.' :: tail) = unworded front ++ '.' :: tail := by
  rw [unworded, unworded, isPrefixOf?_append_cons (by decide), isPrefixOf?_append_cons (by decide)]
  cases "Bearer ".toList.isPrefixOf? front with
  | some rest => rfl
  | none =>
    cases "bearer ".toList.isPrefixOf? front with
    | some rest => rfl
    | none => rfl

/-- A token with a word in front of it is the token. -/
theorem bare_word {word token : String} (hword : word ∈ bearerWords)
    (h : ∀ word ∈ bearerWords, ¬word.toList <+: token.toList) :
    bare (word ++ token) = bare token := by
  rw [bare_eq, bare_eq, String.toList_append, unworded_append hword, unworded_of_not h]

theorem claims_word {word token : String} (hword : word ∈ bearerWords)
    (h : ∀ word ∈ bearerWords, ¬word.toList <+: token.toList) (names : ClaimNames) :
    claims (word ++ token) names = claims token names := by
  rw [claims, claims, bare_word hword h]

/-! ## §3 Signatures -/

/-- A text that may stand behind the last dot of a token. -/
def IsSignature (text : String) : Prop := ∀ c ∈ text.toList, c ≠ '.' ∧ Text.isBlank c = false

theorem splitLastDot_append {tail : List Char} (h : ∀ c ∈ tail, c ≠ '.') (front : List Char) :
    splitLastDot (front ++ '.' :: tail) = some (front, tail) := by
  have hpass : ∀ c ∈ tail.reverse, (c != '.') = true := by simpa using h
  have hreverse : (front ++ '.' :: tail).reverse = tail.reverse ++ '.' :: front.reverse := by simp
  rw [splitLastDot, hreverse, List.takeWhile_append_of_pos hpass,
    List.dropWhile_append_of_pos hpass]
  simp

/-- In front of the signature is the same text behind any signature. -/
theorem splitLastDot_bare {signature : String} (h : IsSignature signature) (message : String) :
    splitLastDot (bare (message ++ "." ++ signature)) =
      some ((unworded message.toList).dropWhile Text.isBlank, signature.toList) := by
  have htext : (message ++ "." ++ signature).toList =
      message.toList ++ '.' :: signature.toList := by
    simp
  rw [bare_eq, htext, unworded_append_dot, Text.trim_append_dot fun c hc => (h c hc).2,
    splitLastDot_append fun c hc => (h c hc).1]

/-- The claims in front of one signature are those in front of any other. -/
theorem claims_signature {signature signature' : String} (h : IsSignature signature)
    (h' : IsSignature signature') (message : String) (names : ClaimNames) :
    claims (message ++ "." ++ signature) names = claims (message ++ "." ++ signature') names := by
  rw [claims, claims, splitLastDot_bare h, splitLastDot_bare h']

end Token

/-! ## §4 Claims -/

theorem Double.Decimal.text_ne_nil (d : Decimal) : d.text ≠ [] := by
  unfold Decimal.text
  dsimp only
  split
  · split
    · simp
    · simp
  · split
    · simp
    · simp

theorem Double.text_ne_empty (x : Double) : x.text ≠ "" := by
  have hbody : (if x.significand = 0 then ['0', '.', '0'] else x.shortest.text) ≠ [] := by
    split
    · simp
    · exact x.shortest.text_ne_nil
  intro h
  have hnil := congrArg String.toList h
  rw [text, String.toList_ofList] at hnil
  exact hbody (List.append_eq_nil_iff.mp hnil).2

theorem toString_int_ne_empty (n : Int) : toString n ≠ "" := by
  rw [Int.toString_eq_repr]
  cases n with
  | ofNat m => simp [Int.repr]
  | negSucc m => simp [Int.repr]

/-- A claim that names someone names it with some text. -/
theorem claimText?_ne_empty {value : Json} {text : String} (h : claimText? value = some text) :
    text ≠ "" := by
  cases value with
  | text s =>
    simp only [claimText?, Option.ite_none_left_eq_some, Option.some.injEq] at h
    exact h.2 ▸ h.1
  | int n => exact Option.some.inj h ▸ toString_int_ne_empty n
  | real x => exact Option.some.inj h ▸ x.text_ne_empty
  | bool b =>
    obtain rfl := Option.some.inj h
    cases b with
    | false => simp
    | true => simp
  | null => cases h
  | array items => cases h
  | object members => cases h

/-- What a claim is read as is read as itself. -/
theorem claimText?_text {value : Json} {text : String} (h : claimText? value = some text) :
    claimText? (.text text) = some text :=
  if_neg (claimText?_ne_empty h)

namespace Claims

variable {object object' : TextMap Json} {names : ClaimNames}

/-- Two objects name the same issuer and the same subject, in whatever way they are written. -/
def NamesAlike (names : ClaimNames) (object object' : TextMap Json) : Prop :=
  ∀ name, name = names.issuer ∨ name = names.subject →
    (object.get? name).bind claimText? = (object'.get? name).bind claimText?

theorem NamesAlike.issuer_subject_eq (h : NamesAlike names object object') :
    (ofMap object names).issuer = (ofMap object' names).issuer ∧
      (ofMap object names).subject = (ofMap object' names).subject := by
  refine ⟨h _ (Or.inl rfl), ?_⟩
  simp only [ofMap, TextMap.get?_erase]
  split
  · rfl
  · exact h _ (Or.inr rfl)

/-- A claim may be written as the text that it is read as. -/
theorem namesAlike_insert_text {name text : String} {value : Json}
    (hvalue : object.get? name = some value) (htext : claimText? value = some text) :
    NamesAlike names (object.insert name (.text text)) object := by
  intro name' _
  rw [TextMap.get?_insert]
  split
  · next heq => rw [heq, hvalue, Option.bind_some, Option.bind_some, htext, claimText?_text htext]
  · rfl

end Claims

/-- Who speaks through a token: its issuer and its subject. -/
def Token.speaker (token : String) (names : ClaimNames) :
    Except TokenError (Option String × Option String) :=
  (Token.claims token names).map fun claims => (claims.issuer, claims.subject)

theorem Token.speaker_eq_ok_iff {token : String} {names : ClaimNames}
    {issuer subject : Option String} :
    Token.speaker token names = .ok (issuer, subject) ↔
      ∃ claims, Token.claims token names = .ok claims ∧
        claims.issuer = issuer ∧ claims.subject = subject := by
  rw [speaker]
  cases Token.claims token names with
  | error e => simp [Except.map]
  | ok claims => simp [Except.map]

/-! ## §5 Decisions -/

/-- A decision looks at two claims. -/
theorem Policy.decide_eq_of_eq {claims claims' : Claims} (hissuer : claims.issuer = claims'.issuer)
    (hsubject : claims.subject = claims'.subject) (policy : Policy) (requested : AccessType)
    (topic : String) :
    policy.decide requested topic claims = policy.decide requested topic claims' := by
  rw [decide, decide, hissuer, hsubject]

namespace Tenant

variable {tenant : Tenant} {token token' : String} {requested : AccessType} {topic : String}

/-- A decision is made from the speaker of a token, or from why there is none. -/
theorem decide_eq_match_speaker :
    tenant.decide requested token topic =
      match Token.speaker token tenant.claimNames with
      | .ok (issuer, subject) => tenant.policy.decide requested topic { issuer, subject }
      | .error e => .deny (.invalidClaims e.message) := by
  rw [decide, Token.speaker]
  cases Token.claims token tenant.claimNames with
  | error e => rfl
  | ok claims => exact Policy.decide_eq_of_eq rfl rfl _ _ _

theorem decide_eq_of_speaker_eq
    (h : Token.speaker token tenant.claimNames = Token.speaker token' tenant.claimNames) :
    tenant.decide requested token topic = tenant.decide requested token' topic := by
  rw [decide_eq_match_speaker, decide_eq_match_speaker, h]

/-- **A token speaks through its issuer and its subject.**  Behind the same header and claims any
two signatures are decided alike.  The decision about a token that can be read is the decision about
its issuer and subject without anything else, so two tokens that say the same of both are decided
alike; a claim that is a number or a truth value may as well be the text of it.  A word in front of
a token that has none changes nothing. -/
theorem decide_through_issuer_and_subject (tenant : Tenant) (requested : AccessType)
    (topic : String) :
    (∀ header payload signature signature' : String,
      Token.IsSignature signature → Token.IsSignature signature' →
      tenant.decide requested (header ++ "." ++ payload ++ "." ++ signature) topic =
        tenant.decide requested (header ++ "." ++ payload ++ "." ++ signature') topic) ∧
    (∀ token claims, Token.claims token tenant.claimNames = .ok claims →
      tenant.decide requested token topic = tenant.policy.decide requested topic
        { issuer := claims.issuer, subject := claims.subject }) ∧
    (∀ token token' claims claims', Token.claims token tenant.claimNames = .ok claims →
      Token.claims token' tenant.claimNames = .ok claims' →
      claims.issuer = claims'.issuer → claims.subject = claims'.subject →
      tenant.decide requested token topic = tenant.decide requested token' topic) ∧
    (∀ (object : TextMap Json) (name : String) (value : Json) (text : String),
      object.get? name = some value → claimText? value = some text →
      tenant.policy.decide requested topic
          (Claims.ofMap (object.insert name (.text text)) tenant.claimNames) =
        tenant.policy.decide requested topic (Claims.ofMap object tenant.claimNames)) ∧
    (∀ token, (∀ word ∈ Token.bearerWords, ¬word.toList <+: token.toList) →
      ∀ word ∈ Token.bearerWords,
        tenant.decide requested (word ++ token) topic = tenant.decide requested token topic) := by
  refine ⟨?_, ?_, ?_, ?_, ?_⟩
  · intro header payload signature signature' h h'
    apply decide_eq_of_speaker_eq
    rw [Token.speaker, Token.speaker, Token.claims_signature h h']
  · intro token claims h
    rw [decide_eq_match_speaker, Token.speaker_eq_ok_iff.mpr ⟨claims, h, rfl, rfl⟩]
  · intro token token' claims claims' h h' hissuer hsubject
    apply decide_eq_of_speaker_eq
    rw [Token.speaker_eq_ok_iff.mpr ⟨claims, h, rfl, rfl⟩,
      Token.speaker_eq_ok_iff.mpr ⟨claims', h', rfl, rfl⟩, hissuer, hsubject]
  · intro object name value text hvalue htext
    obtain ⟨hissuer, hsubject⟩ := (Claims.namesAlike_insert_text hvalue htext).issuer_subject_eq
    exact Policy.decide_eq_of_eq hissuer hsubject _ _ _
  · intro token hnone word hword
    apply decide_eq_of_speaker_eq
    rw [Token.speaker, Token.speaker, Token.claims_word hword hnone]

/-! ### Two tokens of one passenger -/

def ridesTenant : Tenant where
  policy := Policy.rides
  validator := unavailableValidator

/-- The header names HS256; the claims are the issuer and, as a text, the subject. -/
def plainToken : String :=
  "eyJhbGciOiJIUzI1NiJ9.eyJpc3MiOiJwYXNzZW5nZXIiLCJzdWIiOiIxIn0.signed"

/-- The header names RS256 and a key; the subject is a number, and the token has expired. -/
def otherToken : String :=
  "eyJhbGciOiJSUzI1NiIsImtpZCI6ImsifQ.eyJzdWIiOjEsImlzcyI6InBhc3NlbmdlciIsImV4cCI6OX0.forged"

/-- Both may read the news: the first is asked, and the others say the same. -/
theorem decide_through_issuer_and_subject_news :
    ridesTenant.decide .subscribe plainToken "/news" = .allow "news" ∧
      ridesTenant.decide .subscribe otherToken "/news" = .allow "news" ∧
      ridesTenant.decide .subscribe ("Bearer " ++ otherToken) "/news" = .allow "news" := by
  obtain ⟨-, -, halike, -, hword⟩ :=
    decide_through_issuer_and_subject ridesTenant .subscribe "/news"
  have hplain : ridesTenant.decide .subscribe plainToken "/news" = .allow "news" := by
    decide +kernel
  have hspeaker : Token.speaker plainToken {} = .ok (some "passenger", some "1") := by
    decide +kernel
  have hspeaker' : Token.speaker otherToken {} = .ok (some "passenger", some "1") := by
    decide +kernel
  obtain ⟨claims, hclaims, hissuer, hsubject⟩ := Token.speaker_eq_ok_iff.mp hspeaker
  obtain ⟨claims', hclaims', hissuer', hsubject'⟩ := Token.speaker_eq_ok_iff.mp hspeaker'
  have hother : ridesTenant.decide .subscribe otherToken "/news" = .allow "news" := by
    rw [← halike _ _ _ _ hclaims hclaims' (hissuer.trans hissuer'.symm)
      (hsubject.trans hsubject'.symm)]
    exact hplain
  refine ⟨hplain, hother, ?_⟩
  rw [hword otherToken (by decide) "Bearer " (by decide)]
  exact hother

end Tenant

end TopicGate
