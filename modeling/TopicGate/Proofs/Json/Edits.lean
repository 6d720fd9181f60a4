import TopicGate.Proofs.TextMap
import TopicGate.Topic.Definition
import Mathlib.Data.List.Perm.Basic

/-!
# Edited documents

What may be made of a written document without a change of its meaning.  A member of a record that
has the value of its default may be left out, members that name no field may be put in, and the
members of an object may stand in any order, at every depth.

## Main statements
* `Edit.Members.found`: an edited record has each of its fields, unless it has the default.
* `Reads.list`, `Reads.map`: a reader of edited items reads edited lists and maps of them.
* `Reads.withDefault`, `Reads.required`: so does a reader of records with its fields.
-/

namespace TopicGate.Json

/-! ## §1 Edits -/

/-- What may become of a written value. -/
abbrev Edit := Json → Json → Prop

namespace Edit

/-- Nothing may be changed. -/
def kept : Edit := Eq

/-- The items of a list may be edited. -/
def items (edit : Edit) : Edit := fun written edited =>
  ∃ xs ys, written = .array xs ∧ edited = .array ys ∧ List.Forall₂ edit xs ys

/-- The values of a map may be edited, and their order changed. -/
def values (edit : Edit) : Edit := fun written edited =>
  ∃ ms changed ns, written = .object ms ∧ edited = .object ns ∧
    List.Forall₂ (fun m n => m.1 = n.1 ∧ edit m.2 n.2) ms changed ∧ changed.Perm ns

/-- A field of a record: how its value may be edited, and its default, as it is written. -/
structure Field where
  name : String
  edit : Edit := kept
  default : Option Json := none

/-- Members of a record with the given names of fields, edited one after the other. -/
inductive Members (names : List String) :
    List Field → List (String × Json) → List (String × Json) → Prop where
  | nil : Members names [] [] []
  /-- A field stays. -/
  | keep {field fields value new ms ns} : field.edit value new → Members names fields ms ns →
      Members names (field :: fields) ((field.name, value) :: ms) ((field.name, new) :: ns)
  /-- A field with the value of its default is left out. -/
  | drop {field fields value ms ns} : field.default = some value → Members names fields ms ns →
      Members names (field :: fields) ((field.name, value) :: ms) ns
  /-- A member that names no field is put in. -/
  | add {fields key value ms ns} : key ∉ names → Members names fields ms ns →
      Members names fields ms ((key, value) :: ns)

/-- The members of a record may be edited, and their order changed. -/
def record (fields : List Field) : Edit := fun written edited =>
  ∃ ms changed ns, written = .object ms ∧ edited = .object ns ∧
    Members (fields.map Field.name) fields ms changed ∧ changed.Perm ns

/-! ## §2 What is found of a field -/

/-- What is left of a field that was written with a value: one member, or its default. -/
inductive Found (ns : List (String × Json)) (name : String) (edit : Edit) (default : Option Json)
    (value : Json) : Prop where
  | kept (new : Json) (hedit : edit value new) (hmem : (name, new) ∈ ns)
      (hunique : ∀ other, (name, other) ∈ ns → other = new)
  | dropped (hdefault : default = some value) (habsent : ∀ other, (name, other) ∉ ns)

namespace Found

variable {ns ns' : List (String × Json)} {name : String} {edit : Edit} {default : Option Json}
  {value : Json}

/-- A member of another name does not matter. -/
theorem cons_of_ne (h : Found ns name edit default value) {member : String × Json}
    (hne : member.1 ≠ name) : Found (member :: ns) name edit default value := by
  have hmem : ∀ other, (name, other) ∈ member :: ns ↔ (name, other) ∈ ns := by
    intro other
    rw [List.mem_cons, or_iff_right]
    rintro rfl
    exact hne rfl
  cases h with
  | kept new hedit hnew hunique =>
    exact .kept new hedit ((hmem new).mpr hnew) fun other h => hunique other ((hmem other).mp h)
  | dropped hdefault habsent =>
    exact .dropped hdefault fun other h => habsent other ((hmem other).mp h)

/-- Nor does the order. -/
theorem perm (h : Found ns name edit default value) (hperm : ns.Perm ns') :
    Found ns' name edit default value := by
  cases h with
  | kept new hedit hnew hunique =>
    exact .kept new hedit (hperm.mem_iff.mp hnew) fun other h => hunique other (hperm.mem_iff.mpr h)
  | dropped hdefault habsent =>
    exact .dropped hdefault fun other h => habsent other (hperm.mem_iff.mpr h)

/-- A lookup by the name of the field finds its member, or nothing where it is left out. -/
theorem lookup (h : Found ns name edit default value) :
    (∃ new, ns.lookup name = some new ∧ edit value new) ∨
      ns.lookup name = none ∧ default = some value := by
  cases h with
  | kept new hedit hnew hunique =>
    refine Or.inl ⟨new, ?_, hedit⟩
    have hsome : (ns.lookup name).isSome = true :=
      List.lookup_isSome_iff.mpr ⟨_, hnew, beq_self_eq_true _⟩
    obtain ⟨other, hother⟩ := Option.isSome_iff_exists.mp hsome
    obtain ⟨before, behind, rfl, -⟩ := List.lookup_eq_some_iff.mp hother
    rw [hother, hunique other (by simp)]
  | dropped hdefault habsent =>
    refine Or.inr ⟨?_, hdefault⟩
    rw [List.lookup_eq_none_iff]
    rintro ⟨key, other⟩ hmem
    rw [bne_iff_ne]
    rintro rfl
    exact habsent other hmem

end Found

namespace Members

variable {names : List String} {fields : List Field} {ms ns : List (String × Json)}

/-- What stands in an edited record names a field that was written, or none at all. -/
theorem notMem (h : Members names fields ms ns) {name : String} (hname : name ∈ names)
    (hfields : name ∉ fields.map Field.name) (value : Json) : (name, value) ∉ ns := by
  induction h with
  | nil => exact List.not_mem_nil
  | keep _ _ ih =>
    rw [List.map_cons, List.mem_cons, not_or] at hfields
    rw [List.mem_cons, not_or]
    exact ⟨fun heq => hfields.1 (congrArg Prod.fst heq), ih hfields.2⟩
  | drop _ _ ih =>
    rw [List.map_cons, List.mem_cons, not_or] at hfields
    exact ih hfields.2
  | add hkey _ ih =>
    rw [List.mem_cons, not_or]
    refine ⟨?_, ih hfields⟩
    rintro heq
    obtain ⟨rfl, -⟩ := Prod.mk.inj heq
    exact hkey hname

/-- An edited record has each field that was written, unless it has the default. -/
theorem found (h : Members names fields ms ns) (hdistinct : (fields.map Field.name).Nodup)
    (hnames : ∀ field ∈ fields, field.name ∈ names) :
    ∀ x ∈ fields.zip ms, Found ns x.1.name x.1.edit x.1.default x.2.2 := by
  induction h with
  | nil => simp
  | @keep field fields value new ms ns hedit hrest ih =>
    obtain ⟨hfield, hfields⟩ := List.forall_mem_cons.mp hnames
    rw [List.map_cons, List.nodup_cons] at hdistinct
    have habsent := hrest.notMem hfield hdistinct.1
    rw [List.zip_cons_cons, List.forall_mem_cons]
    constructor
    · refine .kept new hedit List.mem_cons_self ?_
      intro other hother
      rcases List.mem_cons.mp hother with heq | hother
      · exact congrArg Prod.snd heq
      · exact absurd hother (habsent other)
    · rintro x hx
      refine (ih hdistinct.2 hfields x hx).cons_of_ne ?_
      intro heq
      exact hdistinct.1 (List.mem_map.mpr ⟨x.1, (List.of_mem_zip hx).1, heq.symm⟩)
  | @drop field fields value ms ns hdefault hrest ih =>
    obtain ⟨hfield, hfields⟩ := List.forall_mem_cons.mp hnames
    rw [List.map_cons, List.nodup_cons] at hdistinct
    rw [List.zip_cons_cons, List.forall_mem_cons]
    exact ⟨.dropped hdefault (hrest.notMem hfield hdistinct.1), ih hdistinct.2 hfields⟩
  | @add fields key value ms ns hkey hrest ih =>
    intro x hx
    refine (ih hdistinct hnames x hx).cons_of_ne ?_
    rintro rfl
    exact hkey (hnames x.1 (List.of_mem_zip hx).1)

end Members

end Edit

/-! ## §3 Reading what was edited -/

/-- A reader that gives back what was written, also after it was edited. -/
structure Reads {α : Type} (read : Reader α) (write : α → Json) (edit : Edit) : Prop where
  read_of_edit : ∀ {x edited}, edit (write x) edited → read edited = some x
  /-- To leave everything as it is counts as an edit. -/
  edit_refl : ∀ x, edit (write x) (write x)

namespace Reads

variable {α : Type} {read : Reader α} {write : α → Json} {edit : Edit}

theorem read_write (h : Reads read write edit) (x : α) : read (write x) = some x :=
  h.read_of_edit (h.edit_refl x)

theorem write_injective (h : Reads read write edit) {x y : α} (heq : write x = write y) : x = y := by
  have hx := h.read_write x
  rw [heq, h.read_write y] at hx
  exact (Option.some.inj hx).symm

theorem kept (h : ∀ x, read (write x) = some x) : Reads read write Edit.kept where
  read_of_edit := by
    rintro x _ rfl
    exact h x
  edit_refl _ := rfl

theorem list (h : Reads read write edit) :
    Reads (list? read) (fun xs => .array (xs.map write)) (Edit.items edit) where
  read_of_edit := by
    rintro xs _ ⟨_, ys, hxs, rfl, hedit⟩
    cases hxs
    rw [List.forall₂_map_left_iff] at hedit
    show ys.mapM read = some xs
    induction hedit with
    | nil => rfl
    | cons hitem _ ih => simp [h.read_of_edit hitem, ih]
  edit_refl xs := ⟨_, _, rfl, rfl, List.forall₂_same.mpr fun _ hx => by
    obtain ⟨x, -, rfl⟩ := List.mem_map.mp hx
    exact h.edit_refl x⟩

theorem map (h : Reads read write edit) :
    Reads (map? read) (TextMap.toJson write) (Edit.values edit) where
  read_of_edit := by
    rintro m _ ⟨_, changed, ns, hm, rfl, hedit, hperm⟩
    cases hm
    rw [List.forall₂_map_left_iff] at hedit
    -- The entries in the order in which their members stand now.
    obtain ⟨entries, hread, hentries⟩ := List.perm_comp_forall₂ hperm.symm hedit.flip
    have hmapM : (ns.mapM fun member => (read member.2).map (member.1, ·)) = some entries := by
      clear hperm hentries
      induction hread with
      | nil => rfl
      | @cons member entry _ _ hmember _ ih =>
        obtain ⟨hkey, hvalue⟩ := hmember
        simp [h.read_of_edit hvalue, ih, ← hkey]
    rw [map?, hmapM, Option.map_some, TextMap.ofList_eq_of_perm hentries]
  edit_refl m := by
    refine ⟨_, _, _, rfl, rfl, List.forall₂_same.mpr ?_, List.Perm.refl _⟩
    intro member hmember
    obtain ⟨entry, -, rfl⟩ := List.mem_map.mp hmember
    exact ⟨rfl, h.edit_refl entry.2⟩

variable {ns : List (String × Json)} {name : String} {x : α}

/-- A field that must be there has no default to be left out for. -/
theorem required (h : Reads read write edit) (hfound : Edit.Found ns name edit none (write x))
    (place : Nat) : (Fields.named ns).required name place read = some x := by
  rcases hfound.lookup with ⟨new, hlookup, hedit⟩ | ⟨-, hwritten⟩
  · simp [Fields.required, Fields.get?, hlookup, h.read_of_edit hedit]
  · cases hwritten

/-- A field that was left out had the value of its default. -/
theorem withDefault (h : Reads read write edit) {default : α}
    (hfound : Edit.Found ns name edit (some (write default)) (write x)) (place : Nat) :
    (Fields.named ns).withDefault name place default read = some x := by
  rcases hfound.lookup with ⟨new, hlookup, hedit⟩ | ⟨hlookup, hwritten⟩
  · simp [Fields.withDefault, Fields.get?, hlookup, h.read_of_edit hedit]
  · have hx : default = x := h.write_injective (Option.some.inj hwritten)
    simp [Fields.withDefault, Fields.get?, hlookup, hx]

end Reads

/-- A record may be left as it is. -/
theorem Edit.record_refl {fields : List Edit.Field} {ms : List (String × Json)}
    (h : List.Forall₂ (fun field m => m.1 = field.name ∧ field.edit m.2 m.2) fields ms) :
    Edit.record fields (.object ms) (.object ms) := by
  refine ⟨ms, ms, ms, rfl, rfl, ?_, List.Perm.refl ms⟩
  generalize fields.map Edit.Field.name = names
  induction h with
  | nil => exact .nil
  | @cons field m _ _ hm _ ih =>
    obtain ⟨name, value⟩ := m
    obtain ⟨rfl, hedit⟩ := hm
    exact .keep hedit ih

/-- What an edited record has of each of its fields. -/
theorem Edit.exists_found_of_record {fields : List Edit.Field} {ms : List (String × Json)}
    {edited : Json} (h : Edit.record fields (.object ms) edited)
    (hdistinct : (fields.map Edit.Field.name).Nodup) :
    ∃ ns, edited = .object ns ∧
      ∀ x ∈ fields.zip ms, Edit.Found ns x.1.name x.1.edit x.1.default x.2.2 := by
  obtain ⟨_, changed, ns, hms, rfl, hmembers, hperm⟩ := h
  cases hms
  refine ⟨ns, rfl, fun x hx => ?_⟩
  exact (hmembers.found hdistinct (fun _ => List.mem_map_of_mem) x hx).perm hperm

end TopicGate.Json
