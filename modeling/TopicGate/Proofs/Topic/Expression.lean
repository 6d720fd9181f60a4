import TopicGate.Proofs.Topic.Lexeme
import TopicGate.Topic.Expression

/-!
# Regular expressions

A fragment of regular expressions: anchors, characters and sets of them, once or repeated, and groups
of alternatives, with or without a name.  Each expression is written as a text, and no text is written
for two of them; what it finds in a text is said by a relation that knows what stands before and
behind.

## Main definitions
* `Expression`: the expressions of the fragment, and `Expression.text` what they are written as.
* `Expression.IsWellFormed`: expressions that may be written.
* `Expression.Finds`: what an expression finds in a text, and what its named groups capture there.

## Main statements
* `Expression.text_inj`: a text is written for one expression only.
* `Expression.matches_append_iff`: expressions that follow each other match texts that do.
-/

namespace TopicGate

namespace Expression

/-! ## §1 Expressions -/

/-- What stands between the brackets of a set of characters. -/
inductive SetItem where
  | char (c : Char)
  | range (first last : Char)

/-- What stands for a single character. -/
inductive Atom where
  | char (c : Char)
  | set (items : List SetItem)
  /-- Any character that is not in the set. -/
  | complement (items : List SetItem)

/-- What stands in a sequence, groups apart. -/
inductive Term where
  | start
  | stop
  | once (atom : Atom)
  /-- One or more times. -/
  | repeated (atom : Atom)

/-- One or more sequences to choose from. -/
structure Choice where
  first : List Term
  others : List (List Term)

/-- What stands in an expression.  Groups do not stand inside of groups. -/
inductive Factor where
  | single (term : Term)
  | unnamed (choice : Choice)
  | named (name : String) (choice : Choice)

/-- The name of a group. -/
def Factor.name? : Factor → Option String
  | named name _ => some name
  | _ => none

end Expression

abbrev Expression := List Expression.Factor

namespace Expression

def names (expression : Expression) : List String := expression.filterMap Factor.name?

/-! ## §2 Texts of expressions -/

def SetItem.text : SetItem → List Char
  | char c => [c]
  | range first last => [first, '-', last]

/-- A character that would mean something else is written behind a backslash. -/
def Atom.text : Atom → List Char
  | char c => if isMeta c then ['\\', c] else [c]
  | set items => '[' :: (items.flatMap SetItem.text ++ [']'])
  | complement items => '[' :: '^' :: (items.flatMap SetItem.text ++ [']'])

def Term.text : Term → List Char
  | start => ['^']
  | stop => ['$']
  | once atom => atom.text
  | repeated atom => atom.text ++ ['+']

def Choice.text (choice : Choice) : List Char :=
  choice.first.flatMap Term.text ++ choice.others.flatMap fun terms => '|' :: terms.flatMap Term.text

def Factor.text : Factor → List Char
  | single term => term.text
  | unnamed choice => "(?:".toList ++ (choice.text ++ [')'])
  | named name choice => "(?P<".toList ++ (name.toList ++ '>' :: (choice.text ++ [')']))

def text (expression : Expression) : List Char := expression.flatMap Factor.text

/-! ## §3 Well-formed expressions -/

/-- Sets are written with characters that mean themselves. -/
def SetItem.IsWellFormed : SetItem → Prop
  | char c => isMeta c = false
  | range first last => isMeta first = false ∧ isMeta last = false ∧ first ≤ last

def Atom.IsWellFormed : Atom → Prop
  | char _ => True
  | set items | complement items => items ≠ [] ∧ ∀ item ∈ items, item.IsWellFormed

def Term.IsWellFormed : Term → Prop
  | start | stop => True
  | once atom | repeated atom => atom.IsWellFormed

structure Choice.IsWellFormed (choice : Choice) : Prop where
  first : ∀ term ∈ choice.first, term.IsWellFormed
  others : ∀ terms ∈ choice.others, ∀ term ∈ terms, term.IsWellFormed

/-- Groups are named by identifiers. -/
def Factor.IsWellFormed : Factor → Prop
  | single term => term.IsWellFormed
  | unnamed choice => choice.IsWellFormed
  | named name choice => IsIdentifier name.toList ∧ choice.IsWellFormed

/-- An expression that may be written: no name is used for two groups. -/
structure IsWellFormed (expression : Expression) : Prop where
  factors : ∀ factor ∈ expression, factor.IsWellFormed
  distinct : expression.names.Nodup

/-! ## §4 A text is written for one expression -/

/-- Texts of nodes end where they do whatever follows, as long as it may follow. -/
structure Cancels {α : Type} (text : α → List Char) (valid : α → Prop)
    (follows ends : List Char → Prop) : Prop where
  inj : ∀ {a a' : α}, valid a → valid a' → ∀ {rest rest' : List Char}, follows rest → follows rest' →
    text a ++ rest = text a' ++ rest' → a = a' ∧ rest = rest'
  follows_text : ∀ {a : α}, valid a → ∀ rest, follows (text a ++ rest)
  follows_end : ∀ {rest : List Char}, ends rest → follows rest
  not_end : ∀ {a : α}, valid a → ∀ rest, ¬ends (text a ++ rest)

namespace Cancels

variable {α : Type} {text : α → List Char} {valid : α → Prop} {follows ends : List Char → Prop}

theorem follows_flatMap (h : Cancels text valid follows ends) {nodes : List α}
    (hnodes : ∀ a ∈ nodes, valid a) {rest : List Char} (hrest : ends rest) :
    follows (nodes.flatMap text ++ rest) := by
  cases nodes with
  | nil => exact h.follows_end hrest
  | cons a nodes =>
    rw [List.flatMap_cons, List.append_assoc]
    exact h.follows_text (hnodes a List.mem_cons_self) _

/-- Then nodes in a row end where they do, in front of what ends a row. -/
theorem flatMap_inj (h : Cancels text valid follows ends) {nodes nodes' : List α}
    (hnodes : ∀ a ∈ nodes, valid a) (hnodes' : ∀ a ∈ nodes', valid a) {rest rest' : List Char}
    (hrest : ends rest) (hrest' : ends rest')
    (heq : nodes.flatMap text ++ rest = nodes'.flatMap text ++ rest') :
    nodes = nodes' ∧ rest = rest' := by
  induction nodes generalizing nodes' with
  | nil =>
    cases nodes' with
    | nil => exact ⟨rfl, heq⟩
    | cons a' nodes' =>
      rw [List.flatMap_nil, List.nil_append, List.flatMap_cons, List.append_assoc] at heq
      exact absurd (heq ▸ hrest) (h.not_end (hnodes' a' List.mem_cons_self) _)
  | cons a nodes ih =>
    obtain ⟨ha, hnodes⟩ := List.forall_mem_cons.mp hnodes
    rw [List.flatMap_cons, List.append_assoc] at heq
    cases nodes' with
    | nil =>
      rw [List.flatMap_nil, List.nil_append] at heq
      exact absurd (heq ▸ hrest') (h.not_end ha _)
    | cons a' nodes' =>
      obtain ⟨ha', htail'⟩ := List.forall_mem_cons.mp hnodes'
      rw [List.flatMap_cons, List.append_assoc] at heq
      obtain ⟨haa', htails⟩ := h.inj ha ha' (h.follows_flatMap hnodes hrest)
        (h.follows_flatMap htail' hrest') heq
      obtain ⟨hnn', hrests⟩ := ih hnodes htail' htails
      exact ⟨by rw [haa', hnn'], hrests⟩

end Cancels

theorem SetItem.head {item : SetItem} (h : item.IsWellFormed) :
    ∃ c tail, item.text = c :: tail ∧ isMeta c = false := by
  cases item with
  | char c => exact ⟨c, [], rfl, h⟩
  | range first last => exact ⟨first, _, rfl, h.1⟩

/-- Characters of a set are told apart from ranges by what follows. -/
theorem cancels_items :
    Cancels SetItem.text SetItem.IsWellFormed (·.head? ≠ some '-') (·.head? = some ']') where
  inj := by
    intro item item' h h' rest rest' hrest hrest' heq
    cases item with
    | char c =>
      cases item' with
      | char c' => simpa [SetItem.text] using heq
      | range first last =>
        obtain ⟨-, rfl⟩ := List.cons.inj heq
        exact absurd rfl hrest
    | range first last =>
      cases item' with
      | char c' =>
        obtain ⟨-, rfl⟩ := List.cons.inj heq
        exact absurd rfl hrest'
      | range first' last' => simpa [SetItem.text, and_assoc] using heq
  follows_text := by
    intro item h rest
    obtain ⟨c, tail, htext, hc⟩ := SetItem.head h
    rw [htext, List.cons_append, List.head?_cons]
    intro hdash
    obtain rfl := Option.some.inj hdash
    exact absurd hc (by decide)
  follows_end := by
    intro rest h
    rw [h]
    decide
  not_end := by
    intro item h rest
    obtain ⟨c, tail, htext, hc⟩ := SetItem.head h
    rw [htext, List.cons_append, List.head?_cons]
    intro hclose
    obtain rfl := Option.some.inj hclose
    exact absurd hc (by decide)

/-- What stands for a character begins with a character that means itself, with a backslash, or with a
bracket. -/
theorem Atom.head (atom : Atom) :
    ∃ c tail, atom.text = c :: tail ∧ (isMeta c = false ∨ c = '\\' ∨ c = '[') := by
  cases atom with
  | char c =>
    by_cases hmeta : isMeta c = true
    · exact ⟨'\\', [c], by simp [text, hmeta], by simp⟩
    · exact ⟨c, [], by simp [text, hmeta], by simpa using Or.inl hmeta⟩
  | set items => exact ⟨'[', _, rfl, by simp⟩
  | complement items => exact ⟨'[', _, rfl, by simp⟩

/-- The end of a set is found whatever follows. -/
theorem items_inj {items items' : List SetItem} (h : ∀ item ∈ items, item.IsWellFormed)
    (h' : ∀ item ∈ items', item.IsWellFormed) {rest rest' : List Char}
    (heq : items.flatMap SetItem.text ++ ']' :: rest = items'.flatMap SetItem.text ++ ']' :: rest') :
    items = items' ∧ rest = rest' := by
  obtain ⟨hitems, hrest⟩ := cancels_items.flatMap_inj h h' rfl rfl heq
  exact ⟨hitems, (List.cons.inj hrest).2⟩

/-- A set that is not empty does not begin like a complement. -/
theorem items_ne_complement {items : List SetItem} (hne : items ≠ [])
    (h : ∀ item ∈ items, item.IsWellFormed) (rest text : List Char) :
    items.flatMap SetItem.text ++ rest ≠ '^' :: text := by
  cases items with
  | nil => exact absurd rfl hne
  | cons item items =>
    obtain ⟨c, tail, htext, hc⟩ := SetItem.head (h item List.mem_cons_self)
    rw [List.flatMap_cons, htext]
    intro heq
    obtain rfl := (List.cons.inj heq).1
    exact absurd hc (by decide)

/-- No other character with a meaning stands in front of what stands for a character. -/
theorem Atom.text_append_ne (atom : Atom) {c : Char} (hmeta : isMeta c = true) (hescape : c ≠ '\\')
    (hset : c ≠ '[') (rest text : List Char) : atom.text ++ rest ≠ c :: text := by
  obtain ⟨d, tail, htext, hd⟩ := atom.head
  rw [htext]
  intro heq
  obtain rfl := (List.cons.inj heq).1
  rcases hd with hd | hd | hd
  · exact absurd hmeta (by simp [hd])
  · exact hescape hd
  · exact hset hd

theorem Atom.char_append_ne_set (c : Char) (rest text : List Char) :
    (Atom.char c).text ++ rest ≠ '[' :: text := by
  by_cases hmeta : isMeta c = true
  · simp [Atom.text, hmeta]
  · have hc : c ≠ '[' := by
      rintro rfl
      exact hmeta (by decide)
    simp [Atom.text, hmeta, hc]

theorem Atom.char_append_inj {c c' : Char} {rest rest' : List Char}
    (heq : (Atom.char c).text ++ rest = (Atom.char c').text ++ rest') : c = c' ∧ rest = rest' := by
  have hescape : isMeta '\\' = true := by decide
  by_cases hmeta : isMeta c = true
  · by_cases hmeta' : isMeta c' = true
    · simpa [Atom.text, hmeta, hmeta'] using heq
    · -- A backslash is never written for itself.
      simp only [Atom.text, hmeta, hmeta', if_true] at heq
      obtain rfl : '\\' = c' := (List.cons.inj heq).1
      exact absurd hescape hmeta'
  · by_cases hmeta' : isMeta c' = true
    · simp only [Atom.text, hmeta, hmeta', if_true] at heq
      obtain rfl : c = '\\' := (List.cons.inj heq).1
      exact absurd hescape hmeta
    · simpa [Atom.text, hmeta, hmeta'] using heq

theorem Atom.append_inj {atom atom' : Atom} (h : atom.IsWellFormed) (h' : atom'.IsWellFormed)
    {rest rest' : List Char} (heq : atom.text ++ rest = atom'.text ++ rest') :
    atom = atom' ∧ rest = rest' := by
  cases atom with
  | char c =>
    cases atom' with
    | char c' =>
      obtain ⟨rfl, hrest⟩ := Atom.char_append_inj heq
      exact ⟨rfl, hrest⟩
    | set items' | complement items' => exact absurd heq (Atom.char_append_ne_set c _ _)
  | set items =>
    cases atom' with
    | char c' => exact absurd heq.symm (Atom.char_append_ne_set c' _ _)
    | set items' =>
      obtain ⟨rfl, hrest⟩ := items_inj h.2 h'.2 (by simpa [text] using heq)
      exact ⟨rfl, hrest⟩
    | complement items' =>
      have hitems : items.flatMap SetItem.text ++ ']' :: rest =
          '^' :: (items'.flatMap SetItem.text ++ ']' :: rest') := by
        simpa [text] using heq
      exact absurd hitems (items_ne_complement h.1 h.2 _ _)
  | complement items =>
    cases atom' with
    | char c' => exact absurd heq.symm (Atom.char_append_ne_set c' _ _)
    | set items' =>
      have hitems : items'.flatMap SetItem.text ++ ']' :: rest' =
          '^' :: (items.flatMap SetItem.text ++ ']' :: rest) := by
        simpa [text] using heq.symm
      exact absurd hitems (items_ne_complement h'.1 h'.2 _ _)
    | complement items' =>
      obtain ⟨rfl, hrest⟩ := items_inj h.2 h'.2 (by simpa [text] using heq)
      exact ⟨rfl, hrest⟩

/-- What a term begins with. -/
def opensTerm (c : Char) : Bool := !isMeta c || "\\[^$".toList.contains c

theorem Term.head (term : Term) : ∃ c tail, term.text = c :: tail ∧ opensTerm c = true := by
  have hatom : ∀ atom : Atom, ∃ c tail, atom.text = c :: tail ∧ opensTerm c = true := by
    intro atom
    obtain ⟨c, tail, htext, hc⟩ := atom.head
    refine ⟨c, tail, htext, ?_⟩
    rcases hc with hc | rfl | rfl
    · simp [opensTerm, hc]
    · decide
    · decide
  cases term with
  | start => exact ⟨'^', [], rfl, by decide⟩
  | stop => exact ⟨'$', [], rfl, by decide⟩
  | once atom => exact hatom atom
  | repeated atom =>
    obtain ⟨c, tail, htext, hc⟩ := hatom atom
    exact ⟨c, tail ++ ['+'], by rw [text, htext, List.cons_append], hc⟩

/-- A term does not begin with another character. -/
theorem Term.head?_text_ne (term : Term) {c : Char} (hc : opensTerm c = false) (rest : List Char) :
    (term.text ++ rest).head? ≠ some c := by
  obtain ⟨d, tail, htext, hd⟩ := term.head
  rw [htext, List.cons_append, List.head?_cons]
  intro h
  obtain rfl := Option.some.inj h
  rw [hc] at hd
  cases hd

/-- A repetition is told apart by what follows. -/
theorem Term.append_inj {term term' : Term} (h : term.IsWellFormed) (h' : term'.IsWellFormed)
    {rest rest' : List Char} (hrest : rest.head? ≠ some '+') (hrest' : rest'.head? ≠ some '+')
    (heq : term.text ++ rest = term'.text ++ rest') : term = term' ∧ rest = rest' := by
  have hstart : ∀ (atom : Atom) (behind text : List Char), atom.text ++ behind ≠ '^' :: text :=
    fun atom => atom.text_append_ne (by decide) (by decide) (by decide)
  have hstop : ∀ (atom : Atom) (behind text : List Char), atom.text ++ behind ≠ '$' :: text :=
    fun atom => atom.text_append_ne (by decide) (by decide) (by decide)
  cases term with
  | start =>
    cases term' with
    | start => exact ⟨rfl, (List.cons.inj heq).2⟩
    | stop => exact absurd (List.cons.inj heq).1 (by decide)
    | once atom' => exact absurd heq.symm (hstart atom' _ _)
    | repeated atom' => exact absurd heq.symm (by simpa [text] using hstart atom' _ _)
  | stop =>
    cases term' with
    | start => exact absurd (List.cons.inj heq).1 (by decide)
    | stop => exact ⟨rfl, (List.cons.inj heq).2⟩
    | once atom' => exact absurd heq.symm (hstop atom' _ _)
    | repeated atom' => exact absurd heq.symm (by simpa [text] using hstop atom' _ _)
  | once atom =>
    cases term' with
    | start => exact absurd heq (hstart atom _ _)
    | stop => exact absurd heq (hstop atom _ _)
    | once atom' =>
      obtain ⟨rfl, hrests⟩ := Atom.append_inj h h' heq
      exact ⟨rfl, hrests⟩
    | repeated atom' =>
      obtain ⟨-, rfl⟩ := Atom.append_inj h h' (by simpa [text] using heq)
      exact absurd rfl hrest
  | repeated atom =>
    cases term' with
    | start => exact absurd heq (by simpa [text] using hstart atom _ _)
    | stop => exact absurd heq (by simpa [text] using hstop atom _ _)
    | once atom' =>
      obtain ⟨-, rfl⟩ := Atom.append_inj h h' (by simpa [text] using heq)
      exact absurd rfl hrest'
    | repeated atom' =>
      obtain ⟨rfl, hrests⟩ := Atom.append_inj h h' (by simpa [text] using heq)
      exact ⟨rfl, (List.cons.inj hrests).2⟩

/-- Terms in a row end with their group, or where another choice begins. -/
theorem cancels_terms :
    Cancels Term.text Term.IsWellFormed (·.head? ≠ some '+')
      (fun rest => rest.head? = some '|' ∨ rest.head? = some ')') where
  inj := Term.append_inj
  follows_text := fun {term} _ => term.head?_text_ne (by decide)
  follows_end := by
    rintro rest (h | h) <;> rw [h] <;> decide
  not_end := by
    rintro term - rest (h | h)
    · exact term.head?_text_ne (by decide) rest h
    · exact term.head?_text_ne (by decide) rest h

/-- Choices end with their group. -/
theorem cancels_choices :
    Cancels (fun terms : List Term => '|' :: terms.flatMap Term.text)
      (fun terms => ∀ term ∈ terms, term.IsWellFormed)
      (fun rest => rest.head? = some '|' ∨ rest.head? = some ')') (·.head? = some ')') where
  inj := fun h h' _ _ hrest hrest' heq =>
    cancels_terms.flatMap_inj h h' hrest hrest' (List.cons.inj heq).2
  follows_text := fun _ _ => Or.inl rfl
  follows_end := Or.inr
  not_end := fun _ _ h => by cases h

theorem Choice.append_inj {choice choice' : Choice} (h : choice.IsWellFormed)
    (h' : choice'.IsWellFormed) {rest rest' : List Char}
    (heq : choice.text ++ ')' :: rest = choice'.text ++ ')' :: rest') :
    choice = choice' ∧ rest = rest' := by
  simp only [text, List.append_assoc] at heq
  obtain ⟨hfirst, hbehind⟩ := cancels_terms.flatMap_inj h.first h'.first
    (cancels_choices.follows_flatMap h.others rfl) (cancels_choices.follows_flatMap h'.others rfl) heq
  obtain ⟨hothers, hrests⟩ := cancels_choices.flatMap_inj h.others h'.others rfl rfl hbehind
  obtain ⟨first, others⟩ := choice
  obtain ⟨first', others'⟩ := choice'
  obtain rfl : first = first' := hfirst
  obtain rfl : others = others' := hothers
  exact ⟨rfl, (List.cons.inj hrests).2⟩

/-- The character that opens a group does not begin anything else. -/
theorem Factor.append_inj {factor factor' : Factor} (h : factor.IsWellFormed)
    (h' : factor'.IsWellFormed) {rest rest' : List Char} (hrest : rest.head? ≠ some '+')
    (hrest' : rest'.head? ≠ some '+') (heq : factor.text ++ rest = factor'.text ++ rest') :
    factor = factor' ∧ rest = rest' := by
  have hgroup : ∀ (term : Term) (behind text : List Char), term.text ++ behind ≠ '(' :: text := by
    intro term behind text heq
    exact term.head?_text_ne (c := '(') (by decide) behind (by rw [heq]; rfl)
  cases factor with
  | single term =>
    cases factor' with
    | single term' =>
      obtain ⟨rfl, hrests⟩ := Term.append_inj h h' hrest hrest' heq
      exact ⟨rfl, hrests⟩
    | unnamed choice' | named name' choice' => exact absurd heq (hgroup term _ _)
  | unnamed choice =>
    cases factor' with
    | single term' => exact absurd heq.symm (hgroup term' _ _)
    | unnamed choice' =>
      obtain ⟨rfl, hrests⟩ := Choice.append_inj h h' (by simpa [text] using heq)
      exact ⟨rfl, hrests⟩
    | named name' choice' => simp [text] at heq
  | named name choice =>
    cases factor' with
    | single term' => exact absurd heq.symm (hgroup term' _ _)
    | unnamed choice' => simp [text] at heq
    | named name' choice' =>
      -- No bracket stands in a name, so it ends at the first one.
      obtain ⟨hnames, hbehind⟩ := append_inj_of_notMem (h.1.notMem (c := '>') (by decide))
        (h'.1.notMem (by decide)) (by simpa [text] using heq)
      obtain ⟨rfl, hrests⟩ := Choice.append_inj h.2 h'.2 hbehind
      obtain rfl := String.toList_inj.mp hnames
      exact ⟨rfl, hrests⟩

theorem cancels_factors :
    Cancels Factor.text Factor.IsWellFormed (·.head? ≠ some '+') (· = []) where
  inj := Factor.append_inj
  follows_text := by
    intro factor _ rest
    cases factor with
    | single term => exact term.head?_text_ne (by decide) rest
    | unnamed choice => simp [Factor.text]
    | named name choice => simp [Factor.text]
  follows_end := by
    rintro rest rfl
    decide
  not_end := by
    intro factor _ rest h
    cases factor with
    | single term =>
      obtain ⟨c, tail, htext, -⟩ := term.head
      simp [Factor.text, htext] at h
    | unnamed choice => simp [Factor.text] at h
    | named name choice => simp [Factor.text] at h

/-- **A text is written for one expression.**  Well-formed expressions with one text are one. -/
theorem text_inj {expression expression' : Expression} (h : expression.IsWellFormed)
    (h' : expression'.IsWellFormed) (heq : expression.text = expression'.text) :
    expression = expression' := by
  have htexts : expression.flatMap Factor.text ++ [] = expression'.flatMap Factor.text ++ [] := by
    rw [List.append_nil, List.append_nil]
    exact heq
  exact (cancels_factors.flatMap_inj h.factors h'.factors rfl rfl htexts).1

/-! ## §5 What an expression finds -/

def SetItem.Has (c : Char) : SetItem → Prop
  | char d => c = d
  | range first last => first ≤ c ∧ c ≤ last

def Atom.Accepts (c : Char) : Atom → Prop
  | char d => c = d
  | set items => ∃ item ∈ items, item.Has c
  | complement items => ∀ item ∈ items, ¬item.Has c

/-- What a term matches between a text before and a text behind. -/
def Term.Matches : Term → List Char → List Char → List Char → Prop
  | start, before, piece, _ => before = [] ∧ piece = []
  | stop, _, piece, behind => behind = [] ∧ piece = []
  | once atom, _, piece, _ => ∃ c, piece = [c] ∧ atom.Accepts c
  | repeated atom, _, piece, _ => piece ≠ [] ∧ ∀ c ∈ piece, atom.Accepts c

/-- Nodes in a row match consecutive pieces, each behind the ones before it. -/
inductive Sequence {α : Type} (one : α → List Char → List Char → List Char → Prop) :
    List α → List Char → List (List Char) → List Char → Prop
  | nil {before behind : List Char} : Sequence one [] before [] behind
  | cons {node : α} {nodes : List α} {before piece behind : List Char} {pieces : List (List Char)} :
      one node before piece (pieces.flatten ++ behind) →
      Sequence one nodes (before ++ piece) pieces behind →
      Sequence one (node :: nodes) before (piece :: pieces) behind

/-- One of the choices matches. -/
def Choice.Matches (choice : Choice) (before piece behind : List Char) : Prop :=
  ∃ terms ∈ choice.first :: choice.others, ∃ pieces, piece = pieces.flatten ∧
    Sequence Term.Matches terms before pieces behind

def Factor.Matches : Factor → List Char → List Char → List Char → Prop
  | single term => term.Matches
  | unnamed choice | named _ choice => choice.Matches

/-- The name of a group, with the piece that the group matches. -/
def Factor.capture? : Factor × List Char → Option (String × String)
  | (named name _, piece) => some (name, String.ofList piece)
  | _ => none

/-- An expression matches a text between others, and its named groups capture pieces of it. -/
def Matches (expression : Expression) (before text behind : List Char)
    (captures : List (String × String)) : Prop :=
  ∃ pieces, text = pieces.flatten ∧ Sequence Factor.Matches expression before pieces behind ∧
    captures = (expression.zip pieces).filterMap Factor.capture?

/-- An expression finds a match somewhere in a text. -/
def Finds (expression : Expression) (text : List Char) (captures : List (String × String)) : Prop :=
  ∃ before found behind, text = before ++ found ++ behind ∧
    expression.Matches before found behind captures

namespace Sequence

variable {α : Type} {one : α → List Char → List Char → List Char → Prop} {nodes nodes' : List α}
  {before behind : List Char} {pieces : List (List Char)}

theorem length_eq (h : Sequence one nodes before pieces behind) : pieces.length = nodes.length := by
  induction h with
  | nil => rfl
  | cons _ _ ih => rw [List.length_cons, List.length_cons, ih]

theorem singleton_iff {node : α} : Sequence one [node] before pieces behind ↔
    ∃ piece, pieces = [piece] ∧ one node before piece behind := by
  constructor
  · intro h
    cases h with
    | cons hone hnil =>
      cases hnil
      exact ⟨_, rfl, hone⟩
  · rintro ⟨piece, rfl, hone⟩
    exact .cons hone .nil

theorem append_iff : Sequence one (nodes ++ nodes') before pieces behind ↔
    ∃ first rest, pieces = first ++ rest ∧
      Sequence one nodes before first (rest.flatten ++ behind) ∧
      Sequence one nodes' (before ++ first.flatten) rest behind := by
  induction nodes generalizing before pieces with
  | nil =>
    constructor
    · intro h
      exact ⟨[], pieces, rfl, .nil, by simpa using h⟩
    · rintro ⟨first, rest, rfl, hfirst, hrest⟩
      cases hfirst
      simpa using hrest
  | cons node nodes ih =>
    constructor
    · intro h
      cases h with
      | cons hone hnodes =>
        obtain ⟨first, rest, rfl, hfirst, hrest⟩ := ih.mp hnodes
        rw [List.flatten_append, List.append_assoc] at hone
        exact ⟨_ :: first, rest, rfl, .cons hone hfirst, by simpa using hrest⟩
    · rintro ⟨first, rest, rfl, hfirst, hrest⟩
      cases hfirst with
      | cons hone hnodes =>
        rw [List.cons_append, List.cons_append]
        refine .cons ?_ (ih.mpr ⟨_, rest, rfl, hnodes, by simpa using hrest⟩)
        rwa [List.flatten_append, List.append_assoc]

/-- Nodes that each match one character match the text of these characters. -/
theorem map_iff {node : Char → α}
    (hnode : ∀ c before piece behind, one (node c) before piece behind ↔ piece = [c])
    {text : List Char} :
    Sequence one (text.map node) before pieces behind ↔ pieces = text.map fun c => [c] := by
  induction text generalizing before pieces with
  | nil =>
    constructor
    · intro h
      cases h
      rfl
    · rintro rfl
      exact .nil
  | cons c text ih =>
    constructor
    · intro h
      cases h with
      | cons hone hnodes =>
        rw [List.map_cons, (hnode c _ _ _).mp hone, ih.mp hnodes]
    · rintro rfl
      exact .cons ((hnode c _ _ _).mpr rfl) (ih.mpr rfl)

end Sequence

section

variable {expression expression' : Expression} {before text behind : List Char}
  {captures : List (String × String)}

theorem matches_nil_iff : Matches [] before text behind captures ↔ text = [] ∧ captures = [] := by
  constructor
  · rintro ⟨pieces, rfl, hsequence, rfl⟩
    cases hsequence
    exact ⟨rfl, rfl⟩
  · rintro ⟨rfl, rfl⟩
    exact ⟨[], rfl, .nil, rfl⟩

/-- **Expressions in a row.**  An expression behind another one matches what follows the match of the
other, and both capture their own. -/
theorem matches_append_iff :
    Matches (expression ++ expression') before text behind captures ↔
      ∃ first rest captured captured', text = first ++ rest ∧ captures = captured ++ captured' ∧
        expression.Matches before first (rest ++ behind) captured ∧
        expression'.Matches (before ++ first) rest behind captured' := by
  constructor
  · rintro ⟨pieces, rfl, hsequence, rfl⟩
    obtain ⟨first, rest, rfl, hfirst, hrest⟩ := Sequence.append_iff.mp hsequence
    refine ⟨first.flatten, rest.flatten, _, _, List.flatten_append, ?_, ⟨first, rfl, hfirst, rfl⟩,
      rest, rfl, hrest, rfl⟩
    rw [List.zip_append hfirst.length_eq.symm, List.filterMap_append]
  · rintro ⟨_, _, _, _, rfl, rfl, ⟨first, rfl, hfirst, rfl⟩, rest, rfl, hrest, rfl⟩
    refine ⟨first ++ rest, List.flatten_append.symm, Sequence.append_iff.mpr
      ⟨first, rest, rfl, hfirst, hrest⟩, ?_⟩
    rw [List.zip_append hfirst.length_eq.symm, List.filterMap_append]

theorem matches_singleton_iff {factor : Factor} :
    Matches [factor] before text behind captures ↔
      factor.Matches before text behind ∧ captures = (Factor.capture? (factor, text)).toList := by
  have hcaptures : ∀ piece, ([factor].zip [piece]).filterMap Factor.capture? =
      (Factor.capture? (factor, piece)).toList := by
    intro piece
    cases hcapture : Factor.capture? (factor, piece) <;> simp [hcapture]
  constructor
  · rintro ⟨pieces, rfl, hsequence, rfl⟩
    obtain ⟨piece, rfl, hone⟩ := Sequence.singleton_iff.mp hsequence
    rw [List.flatten_singleton, hcaptures]
    exact ⟨hone, rfl⟩
  · rintro ⟨hone, rfl⟩
    exact ⟨[text], List.flatten_singleton.symm, Sequence.singleton_iff.mpr ⟨text, rfl, hone⟩,
      (hcaptures text).symm⟩

end

end Expression

end TopicGate
