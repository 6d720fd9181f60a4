import TopicGate.Audience
import TopicGate.Proofs.Text.ByteOrder
import TopicGate.Proofs.TextMap

/-!
# Tables by the names of audiences

A table in a document is keyed by text, and a key that names no audience is an error.  Of several
such keys the first one in the order of bytes is reported.

## Main statements
* `TextMap.entries_eq_of_known`: a table with only known keys is one by audience.
* `TextMap.known_or_exists_isFirstUnknown`: a table has only known keys, or a first unknown one.
* `TextMap.IsFirstUnknown.exists_split`: where the first unknown key stands among the entries.
-/

namespace TopicGate

/-- A text is the name of an audience. -/
def NamesAudience (name : String) : Prop := ∃ a : Audience, a.name = name

theorem Audience.parse_of_not_namesAudience {name : String} (h : ¬NamesAudience name) :
    parse name = .error ⟨"audience", name⟩ := by
  have hdriver : name ≠ "driver" := fun hname => h ⟨.driver, hname.symm⟩
  have hpassenger : name ≠ "passenger" := fun hname => h ⟨.passenger, hname.symm⟩
  rw [parse, if_neg hdriver, if_neg hpassenger]

/-- The names of audiences are the texts that are read as one. -/
theorem Audience.parse_cases (name : String) :
    (∃ a, a.name = name ∧ parse name = .ok a) ∨
      (¬NamesAudience name ∧ ∃ e, parse name = .error e) := by
  by_cases h : NamesAudience name
  · obtain ⟨a, rfl⟩ := h
    exact Or.inl ⟨a, rfl, parse_name a⟩
  · exact Or.inr ⟨h, _, parse_of_not_namesAudience h⟩

namespace TextMap

universe u

variable {α : Type u} {table : TextMap α} {name : String}

/-- What a table has under the names of audiences, in the order of audiences. -/
def byAudience (table : TextMap α) : List (Audience × α) :=
  Audience.all.filterMap fun a => (table.get? a.name).map (a, ·)

theorem mem_byAudience {audience : Audience} {value : α} :
    (audience, value) ∈ table.byAudience ↔ table.get? audience.name = some value := by
  have hall : audience ∈ Audience.all := by cases audience <;> simp [Audience.all]
  simp [byAudience, hall]

/-- The names of audiences are ordered as they are. -/
theorem byAudience_sorted (table : TextMap α) :
    SortedEntries (table.byAudience.map fun entry => (entry.1.name, entry.2)) := by
  have hall : Audience.all.Pairwise fun a b => a.name < b.name := by decide
  rw [SortedEntries, List.pairwise_map, byAudience, List.pairwise_filterMap]
  refine hall.imp ?_
  intro a b hlt x hx y hy
  obtain ⟨_, -, rfl⟩ := Option.map_eq_some_iff.mp hx
  obtain ⟨_, -, rfl⟩ := Option.map_eq_some_iff.mp hy
  exact hlt

/-- A table with only known keys is one by audience. -/
theorem entries_eq_of_known (h : ∀ name ∈ table.keys, NamesAudience name) :
    table.entries = table.byAudience.map fun entry => (entry.1.name, entry.2) := by
  have htable : table = ⟨_, table.byAudience_sorted⟩ := by
    apply ext_get?
    intro key
    apply Option.ext
    intro value
    constructor
    · intro hvalue
      obtain ⟨a, rfl⟩ := h key (mem_keys_iff.mpr ⟨value, hvalue⟩)
      exact get?_eq_some_iff.mpr (List.mem_map_of_mem (mem_byAudience.mpr hvalue))
    · intro hvalue
      obtain ⟨⟨a, _⟩, hmem, hentry⟩ := List.mem_map.mp (get?_eq_some_iff.mp hvalue)
      obtain ⟨rfl, rfl⟩ := Prod.mk.inj hentry
      exact mem_byAudience.mp hmem
  exact congrArg entries htable

/-- The first key in the order of bytes that names no audience. -/
structure IsFirstUnknown (table : TextMap α) (name : String) : Prop where
  mem : name ∈ table.keys
  unknown : ¬NamesAudience name
  first : ∀ other ∈ table.keys, ¬NamesAudience other → ¬bytesOf other < bytesOf name

/-- Of sorted names all are known, or one is the first that is not. -/
theorem known_or_exists_first {names : List String} (hsorted : names.Pairwise (· < ·)) :
    (∀ name ∈ names, NamesAudience name) ∨
      ∃ name ∈ names, ¬NamesAudience name ∧
        ∀ other ∈ names, ¬NamesAudience other → ¬other < name := by
  induction names with
  | nil => exact Or.inl (by simp)
  | cons head rest ih =>
    obtain ⟨hhead, hrest⟩ := List.pairwise_cons.mp hsorted
    by_cases hknown : NamesAudience head
    · rcases ih hrest with hall | ⟨name, hmem, hunknown, hfirst⟩
      · exact Or.inl (List.forall_mem_cons.mpr ⟨hknown, hall⟩)
      · refine Or.inr ⟨name, List.mem_cons_of_mem _ hmem, hunknown, ?_⟩
        exact List.forall_mem_cons.mpr ⟨absurd hknown, hfirst⟩
    · -- The head is below all others.
      refine Or.inr ⟨head, List.mem_cons_self, hknown, List.forall_mem_cons.mpr ⟨?_, ?_⟩⟩
      · exact fun _ => String.lt_irrefl head
      · exact fun other hother _ => String.lt_asymm (hhead other hother)

/-- A table has only known keys, or a first unknown one. -/
theorem known_or_exists_isFirstUnknown (table : TextMap α) :
    (∀ name ∈ table.keys, NamesAudience name) ∨ ∃ name, table.IsFirstUnknown name := by
  rcases known_or_exists_first table.keys_sorted with hall | ⟨name, hmem, hunknown, hfirst⟩
  · exact Or.inl hall
  · refine Or.inr ⟨name, hmem, hunknown, fun other hother hother' => ?_⟩
    rw [bytesOf_lt_iff]
    exact hfirst other hother hother'

/-- The entries in front of the first unknown key are known. -/
theorem IsFirstUnknown.exists_split (h : table.IsFirstUnknown name) :
    ∃ before value behind, table.entries = before ++ (name, value) :: behind ∧
      ∀ entry ∈ before, NamesAudience entry.1 := by
  obtain ⟨⟨_, value⟩, hmem, rfl⟩ := List.mem_map.mp h.mem
  obtain ⟨before, behind, hentries⟩ := List.append_of_mem hmem
  refine ⟨before, value, behind, hentries, fun entry hentry => ?_⟩
  have hsorted := table.sorted
  rw [hentries] at hsorted
  have hlt := (List.pairwise_append.mp hsorted).2.2 entry hentry _ List.mem_cons_self
  by_contra hunknown
  have hkey : entry.1 ∈ table.keys := List.mem_map_of_mem (by simp [hentries, hentry])
  exact h.first entry.1 hkey hunknown (bytesOf_lt_iff.mpr hlt)

end TextMap

end TopicGate
