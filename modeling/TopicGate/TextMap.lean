/-!
# Maps with text keys

A finite map from texts to values, kept as the list of its entries in increasing key order.  Keys
are ordered by code point, which for well-formed text is also the order of the UTF-8 bytes, and
every key occurs once: two maps with the same entries are equal.

## Sections
1. Sorted entry lists
2. The map
3. Lookup laws
-/

namespace TopicGate

universe u v

/-! ## §1 Sorted entry lists -/

/-- Entries whose keys strictly increase. -/
abbrev SortedEntries {α : Type u} (entries : List (String × α)) : Prop :=
  entries.Pairwise fun a b => a.1 < b.1

/-- Puts an entry where its key belongs; an entry with the same key gives way. -/
def insertEntry {α : Type u} (key : String) (value : α) : List (String × α) → List (String × α)
  | [] => [(key, value)]
  | entry :: rest =>
    if key < entry.1 then (key, value) :: entry :: rest
    else if key = entry.1 then (key, value) :: rest
    else entry :: insertEntry key value rest

theorem mem_insertEntry {α : Type u} {key : String} {value : α} {entries : List (String × α)}
    {x : String × α} (h : x ∈ insertEntry key value entries) :
    x = (key, value) ∨ x ∈ entries := by
  induction entries with
  | nil => simpa [insertEntry] using h
  | cons entry rest ih =>
    unfold insertEntry at h
    split at h
    · simpa using h
    · split at h
      · rcases List.mem_cons.1 h with h | h
        · exact .inl h
        · exact .inr (List.mem_cons_of_mem _ h)
      · rcases List.mem_cons.1 h with h | h
        · exact .inr (h ▸ List.mem_cons_self)
        · exact (ih h).imp id (List.mem_cons_of_mem _)

theorem SortedEntries.insertEntry {α : Type u} {entries : List (String × α)}
    (h : SortedEntries entries) (key : String) (value : α) :
    SortedEntries (TopicGate.insertEntry key value entries) := by
  induction entries with
  | nil => simp [TopicGate.insertEntry, SortedEntries]
  | cons entry rest ih =>
    obtain ⟨hhead, htail⟩ := List.pairwise_cons.1 h
    unfold TopicGate.insertEntry
    split
    · next hlt =>
      -- The new key is below the head, and so below all others.
      refine List.pairwise_cons.2 ⟨fun x hx => ?_, h⟩
      rcases List.mem_cons.1 hx with rfl | hx
      · exact hlt
      · exact String.lt_trans hlt (hhead x hx)
    · next hlt =>
      split
      · next heq => exact List.pairwise_cons.2 ⟨fun x hx => heq ▸ hhead x hx, htail⟩
      · next hne =>
        -- The head stays below what is inserted behind it.
        refine List.pairwise_cons.2 ⟨fun x hx => ?_, ih htail⟩
        rcases mem_insertEntry hx with rfl | hx
        · exact Decidable.byContradiction fun hnot =>
            hne (String.le_antisymm (String.not_lt.1 hnot) (String.not_lt.1 hlt))
        · exact hhead x hx

/-! ## §2 The map -/

/-- A map from texts to values. -/
structure TextMap (α : Type u) where
  /-- The entries, in increasing key order. -/
  entries : List (String × α)
  sorted : SortedEntries entries

namespace TextMap

variable {α : Type u} {β : Type v}

@[ext] theorem ext {m n : TextMap α} (h : m.entries = n.entries) : m = n := by
  cases m; cases n; cases h; rfl

instance [DecidableEq α] : DecidableEq (TextMap α) := fun m n =>
  decidable_of_iff (m.entries = n.entries) ⟨ext, fun h => h ▸ rfl⟩

instance [Repr α] : Repr (TextMap α) := ⟨fun m n => reprPrec m.entries n⟩

def empty : TextMap α := ⟨[], List.Pairwise.nil⟩

instance : Inhabited (TextMap α) := ⟨empty⟩

def get? (m : TextMap α) (key : String) : Option α := m.entries.lookup key

/-- Keeps `value` under `key`, replacing an earlier value. -/
def insert (m : TextMap α) (key : String) (value : α) : TextMap α :=
  ⟨insertEntry key value m.entries, m.sorted.insertEntry key value⟩

def erase (m : TextMap α) (key : String) : TextMap α :=
  ⟨m.entries.filter (fun entry => entry.1 != key), m.sorted.filter _⟩

/-- The map of a list of entries; of two with one key the later stays. -/
def ofList (entries : List (String × α)) : TextMap α :=
  entries.foldl (fun m entry => m.insert entry.1 entry.2) empty

def keys (m : TextMap α) : List String := m.entries.map Prod.fst

def map (f : α → β) (m : TextMap α) : TextMap β :=
  ⟨m.entries.map fun entry => (entry.1, f entry.2), List.pairwise_map.2 m.sorted⟩

/-! ## §3 Lookup laws -/

theorem lookup_cons_self (key : String) (value : α) (rest : List (String × α)) :
    ((key, value) :: rest).lookup key = some value :=
  List.lookup_cons_self

theorem lookup_cons_of_ne {key k : String} (h : k ≠ key) (value : α)
    (rest : List (String × α)) : ((key, value) :: rest).lookup k = rest.lookup k := by
  have hne : (k == key) = false := by simpa using h
  rw [List.lookup_cons, hne]

theorem lookup_insertEntry (key k : String) (value : α) (entries : List (String × α)) :
    (insertEntry key value entries).lookup k =
      if k = key then some value else entries.lookup k := by
  induction entries with
  | nil =>
    by_cases h : k = key
    · simp [insertEntry, h]
    · simp [insertEntry, h, lookup_cons_of_ne h]
  | cons entry rest ih =>
    obtain ⟨key', value'⟩ := entry
    unfold insertEntry
    split
    · by_cases h : k = key
      · simp [h]
      · rw [lookup_cons_of_ne h, if_neg h]
    · split
      · next heq =>
        by_cases h : k = key
        · simp [h]
        · have h' : k ≠ key' := fun h'' => h (h''.trans heq.symm)
          rw [lookup_cons_of_ne h, lookup_cons_of_ne h', if_neg h]
      · next hne =>
        by_cases h : k = key'
        · subst h
          rw [lookup_cons_self, lookup_cons_self, if_neg (Ne.symm hne)]
        · rw [lookup_cons_of_ne h, lookup_cons_of_ne h, ih]

/-- An inserted value is found under its key, and every other key keeps its value. -/
theorem get?_insert (m : TextMap α) (key k : String) (value : α) :
    (m.insert key value).get? k = if k = key then some value else m.get? k :=
  lookup_insertEntry key k value m.entries

@[simp] theorem get?_empty (k : String) : (empty : TextMap α).get? k = none := rfl

end TextMap

end TopicGate
