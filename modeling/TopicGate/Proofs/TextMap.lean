import TopicGate.TextMap
import Mathlib.Data.List.Nodup

/-!
# Maps through their lookups

A map is known by what it answers, and a map made of entries with distinct keys answers with these
entries.

## Main statements
* `TextMap.ext_get?`: maps with the same answers are equal.
* `TextMap.get?_ofList_eq_some_iff`: the answers of a map made of entries.
* `TextMap.keys_ofList_perm`: its keys.
-/

namespace TopicGate

universe u

variable {α : Type u}

/-! ## §1 Sorted entries -/

/-- A key below all keys of sorted entries is not among them. -/
theorem lookup_eq_none_of_lt {key : String} {entries : List (String × α)}
    (h : ∀ entry ∈ entries, key < entry.1) : entries.lookup key = none := by
  induction entries with
  | nil => rfl
  | cons entry rest ih =>
    have hne : key ≠ entry.1 := by
      intro heq
      exact String.lt_irrefl key (by simpa [← heq] using h entry List.mem_cons_self)
    rw [TextMap.lookup_cons_of_ne hne]
    apply ih
    intro e he
    exact h e (List.mem_cons_of_mem _ he)

theorem lookup_head (entry : String × α) (rest : List (String × α)) :
    (entry :: rest).lookup entry.1 = some entry.2 :=
  TextMap.lookup_cons_self entry.1 entry.2 rest

/-- A head key that is smaller would be found on one side only. -/
theorem not_head_lt_of_lookup_eq {x y : String × α} {xs ys : List (String × α)}
    (hys : SortedEntries (y :: ys)) (h : ∀ key, (x :: xs).lookup key = (y :: ys).lookup key) :
    ¬x.1 < y.1 := by
  intro hlt
  have hnone : (y :: ys).lookup x.1 = none := by
    apply lookup_eq_none_of_lt
    intro entry hentry
    rcases List.mem_cons.mp hentry with rfl | hentry
    · exact hlt
    · exact String.lt_trans hlt ((List.pairwise_cons.mp hys).1 entry hentry)
  have hfound := h x.1
  rw [lookup_head, hnone] at hfound
  cases hfound

/-- Sorted entries with the same lookups are the same. -/
theorem SortedEntries.ext {xs ys : List (String × α)} (hxs : SortedEntries xs)
    (hys : SortedEntries ys) (h : ∀ key, xs.lookup key = ys.lookup key) : xs = ys := by
  induction xs generalizing ys with
  | nil =>
    cases ys with
    | nil => rfl
    | cons y ys =>
      have hfound := h y.1
      rw [lookup_head] at hfound
      cases hfound
  | cons x xs ih =>
    cases ys with
    | nil =>
      have hfound := h x.1
      rw [lookup_head] at hfound
      cases hfound
    | cons y ys =>
      obtain ⟨hx, hxs'⟩ := List.pairwise_cons.mp hxs
      obtain ⟨hy, hys'⟩ := List.pairwise_cons.mp hys
      have hkey : x.1 = y.1 := String.le_antisymm
        (String.not_lt.mp (not_head_lt_of_lookup_eq hxs fun key => (h key).symm))
        (String.not_lt.mp (not_head_lt_of_lookup_eq hys h))
      have hvalue : x.2 = y.2 := by
        have hfound := h x.1
        rw [lookup_head, hkey, lookup_head] at hfound
        exact Option.some.inj hfound
      obtain rfl : x = y := Prod.ext hkey hvalue
      congr 1
      apply ih hxs' hys'
      intro key
      by_cases hk : key = x.1
      · subst hk
        rw [lookup_eq_none_of_lt hx, lookup_eq_none_of_lt hy]
      · have hfound := h key
        rwa [TextMap.lookup_cons_of_ne hk, TextMap.lookup_cons_of_ne hk] at hfound

namespace TextMap

/-- Maps with the same answers are equal. -/
theorem ext_get? {m n : TextMap α} (h : ∀ key, m.get? key = n.get? key) : m = n :=
  TextMap.ext (m.sorted.ext n.sorted h)

/-! ## §2 Maps made of entries -/

theorem get?_foldl_insert_of_notMem {key : String} {entries : List (String × α)}
    (h : key ∉ entries.map Prod.fst) (m : TextMap α) :
    (entries.foldl (fun m entry => m.insert entry.1 entry.2) m).get? key = m.get? key := by
  induction entries generalizing m with
  | nil => rfl
  | cons entry rest ih =>
    rw [List.map_cons, List.mem_cons, not_or] at h
    rw [List.foldl_cons, ih h.2, get?_insert, if_neg h.1]

theorem get?_foldl_insert_of_mem {key : String} {value : α} {entries : List (String × α)}
    (hnodup : (entries.map Prod.fst).Nodup) (h : (key, value) ∈ entries) (m : TextMap α) :
    (entries.foldl (fun m entry => m.insert entry.1 entry.2) m).get? key = some value := by
  induction entries generalizing m with
  | nil => cases h
  | cons entry rest ih =>
    rw [List.map_cons, List.nodup_cons] at hnodup
    rw [List.foldl_cons]
    rcases List.mem_cons.mp h with rfl | h
    · rw [get?_foldl_insert_of_notMem hnodup.1, get?_insert, if_pos rfl]
    · exact ih hnodup.2 h _

/-- A map made of entries with distinct keys answers with these entries. -/
theorem get?_ofList_eq_some_iff {entries : List (String × α)}
    (hnodup : (entries.map Prod.fst).Nodup) {key : String} {value : α} :
    (ofList entries).get? key = some value ↔ (key, value) ∈ entries := by
  constructor
  · intro h
    by_cases hkey : key ∈ entries.map Prod.fst
    · obtain ⟨⟨key', value'⟩, hmem, rfl⟩ := List.mem_map.mp hkey
      have hfound := get?_foldl_insert_of_mem hnodup hmem empty
      obtain rfl : value' = value := Option.some.inj (hfound.symm.trans h)
      exact hmem
    · have hnone := get?_foldl_insert_of_notMem hkey (empty : TextMap α)
      cases hnone.symm.trans h
  · intro h
    exact get?_foldl_insert_of_mem hnodup h empty

/-! ## §3 Keys -/

/-- Keys stand in increasing order. -/
theorem keys_sorted (m : TextMap α) : m.keys.Pairwise (· < ·) := List.pairwise_map.mpr m.sorted

theorem keys_nodup (m : TextMap α) : m.keys.Nodup := by
  refine m.keys_sorted.imp ?_
  rintro key _ hlt rfl
  exact String.lt_irrefl key hlt

/-- The answers of a map are its entries. -/
theorem get?_eq_some_iff {m : TextMap α} {key : String} {value : α} :
    m.get? key = some value ↔ (key, value) ∈ m.entries := by
  constructor
  · intro h
    obtain ⟨before, behind, hentries, -⟩ := List.lookup_eq_some_iff.mp h
    simp [hentries]
  · intro h
    have hsome : (m.get? key).isSome = true :=
      List.lookup_isSome_iff.mpr ⟨_, h, beq_self_eq_true _⟩
    obtain ⟨other, hother⟩ := Option.isSome_iff_exists.mp hsome
    obtain ⟨before, behind, hentries, -⟩ := List.lookup_eq_some_iff.mp hother
    have hmem : (key, other) ∈ m.entries := by simp [hentries]
    have hentry : (key, other) = (key, value) :=
      List.inj_on_of_nodup_map m.keys_nodup hmem h rfl
    rw [hother, (Prod.mk.inj hentry).2]

/-- Only the erased key loses its answer. -/
theorem get?_erase (m : TextMap α) (key k : String) :
    (m.erase key).get? k = if k = key then none else m.get? k := by
  apply Option.ext
  intro value
  rw [get?_eq_some_iff, erase, List.mem_filter, bne_iff_ne]
  by_cases hk : k = key
  · simp [hk]
  · simp [hk, get?_eq_some_iff]

/-- Entries make the same map in any order. -/
theorem ofList_eq_of_perm {m : TextMap α} {entries : List (String × α)}
    (h : entries.Perm m.entries) : ofList entries = m := by
  have hnodup : (entries.map Prod.fst).Nodup := (h.map Prod.fst).nodup_iff.mpr m.keys_nodup
  apply ext_get?
  intro key
  apply Option.ext
  intro value
  rw [get?_ofList_eq_some_iff hnodup, get?_eq_some_iff, h.mem_iff]

/-- The keys are what has an answer. -/
theorem mem_keys_iff {m : TextMap α} {key : String} :
    key ∈ m.keys ↔ ∃ value, m.get? key = some value := by
  rw [← Option.isSome_iff_exists, get?, List.lookup_isSome_iff, keys, List.mem_map]
  refine exists_congr fun entry => and_congr_right fun _ => ?_
  rw [beq_iff_eq, eq_comm]

/-- The keys of a map made of entries with distinct keys are the keys of these. -/
theorem keys_ofList_perm {entries : List (String × α)} (hnodup : (entries.map Prod.fst).Nodup) :
    (ofList entries).keys.Perm (entries.map Prod.fst) := by
  refine (List.perm_ext_iff_of_nodup (keys_nodup _) hnodup).mpr ?_
  intro key
  simp [mem_keys_iff, get?_ofList_eq_some_iff hnodup]

end TextMap

end TopicGate
