import TopicGate.Config.Load
import Mathlib.Data.List.Induction
import Mathlib.Data.List.Nodup

/-!
# Merging layers

Layers over each other are like one layer: each setting has the value of the uppermost layer that
sets it, whatever the others do and however the layers are put together.  Logging is merged setting
by setting, and a list of vendors is one setting.  Sources with places of their own may be given in
any order.

## Main definitions
* `LastSet`: what a setting is in the last of some layers that sets it.
* `Grouping`: a way to put layers together two by two.

## Main statements
* `ConfigLayer.merge_assoc`: three layers may be put together from either end.
* `ConfigLayer.lastSet_mergeAll`: the settings of merged layers, one at a time.
* `Grouping.merged_eq`: however layers are put together, the outcome is the same.
* `ConfigSource.arrange_eq_of_perm`: sources with distinct places are arranged alike.
* `ConfigLayer.merging_laws`: all of these together, with what is loaded.
-/

namespace TopicGate

/-! ## §1 Two layers -/

namespace LoggingLayer

@[simp] theorem merge_level (lower upper : LoggingLayer) :
    (lower.merge upper).level = upper.level.or lower.level :=
  Option.orElse_eq_or

@[simp] theorem merge_format (lower upper : LoggingLayer) :
    (lower.merge upper).format = upper.format.or lower.format :=
  Option.orElse_eq_or

@[simp] theorem empty_merge (layer : LoggingLayer) : merge {} layer = layer := by
  simp [merge]

@[simp] theorem merge_empty (layer : LoggingLayer) : layer.merge {} = layer := by
  simp [merge]

theorem merge_assoc (a b c : LoggingLayer) : (a.merge b).merge c = a.merge (b.merge c) := by
  simp [merge, Option.or_assoc]

end LoggingLayer

namespace ConfigLayer

@[simp] theorem merge_defaultVendor (lower upper : ConfigLayer) :
    (lower.merge upper).defaultVendor = upper.defaultVendor.or lower.defaultVendor :=
  Option.orElse_eq_or

@[simp] theorem merge_vendors (lower upper : ConfigLayer) :
    (lower.merge upper).vendors = upper.vendors.or lower.vendors :=
  Option.orElse_eq_or

theorem merge_logging_of_none (lower : ConfigLayer) {upper : ConfigLayer}
    (h : upper.logging = none) : (lower.merge upper).logging = lower.logging := by
  simp [merge, h]

theorem merge_logging_of_some (lower : ConfigLayer) {upper : ConfigLayer} {logging : LoggingLayer}
    (h : upper.logging = some logging) :
    (lower.merge upper).logging = some ((lower.logging.getD {}).merge logging) := by
  simp [merge, h]

/-- The log level that a layer sets. -/
def logLevel (layer : ConfigLayer) : Option String := layer.logging.bind (·.level)

/-- The log format that a layer sets. -/
def logFormat (layer : ConfigLayer) : Option LogFormat := layer.logging.bind (·.format)

/-- A lower layer without logging counts as one that sets nothing of it. -/
theorem bind_logging_merge {α : Type} (field : LoggingLayer → Option α)
    (hmerge : ∀ lower upper : LoggingLayer,
      field (lower.merge upper) = (field upper).or (field lower)) (lower upper : ConfigLayer) :
    (lower.merge upper).logging.bind field =
      (upper.logging.bind field).or (lower.logging.bind field) := by
  cases hupper : upper.logging with
  | none => simp [merge_logging_of_none lower hupper]
  | some logging =>
    rw [merge_logging_of_some lower hupper]
    cases lower.logging <;> simp [hmerge]

@[simp] theorem merge_logLevel (lower upper : ConfigLayer) :
    (lower.merge upper).logLevel = upper.logLevel.or lower.logLevel :=
  bind_logging_merge LoggingLayer.level LoggingLayer.merge_level lower upper

@[simp] theorem merge_logFormat (lower upper : ConfigLayer) :
    (lower.merge upper).logFormat = upper.logFormat.or lower.logFormat :=
  bind_logging_merge LoggingLayer.format LoggingLayer.merge_format lower upper

/-- Layers are equal if they say the same about everything. -/
theorem ext {a b : ConfigLayer} (hdefault : a.defaultVendor = b.defaultVendor)
    (hvendors : a.vendors = b.vendors) (hlogging : a.logging = b.logging) : a = b := by
  cases a
  cases b
  simp_all

/-- The empty layer leaves what is put over it as it is. -/
theorem empty_merge (layer : ConfigLayer) : merge {} layer = layer := by
  apply ext
  · simp
  · simp
  · cases hlogging : layer.logging with
    | none => exact merge_logging_of_none {} hlogging
    | some logging =>
      rw [merge_logging_of_some {} hlogging, Option.getD_none, LoggingLayer.empty_merge]

/-- The empty layer changes nothing of what it is put over. -/
theorem merge_empty (layer : ConfigLayer) : layer.merge {} = layer := by
  apply ext
  · simp
  · simp
  · exact merge_logging_of_none layer rfl

/-- Three layers may be put together from either end. -/
theorem merge_assoc (a b c : ConfigLayer) : (a.merge b).merge c = a.merge (b.merge c) := by
  apply ext
  · simp [Option.or_assoc]
  · simp [Option.or_assoc]
  · -- Logging that a layer does not set makes no difference to the two others.
    cases hc : c.logging with
    | none =>
      have hbc : (b.merge c).logging = b.logging := merge_logging_of_none b hc
      rw [merge_logging_of_none _ hc]
      cases hb : b.logging with
      | none => rw [merge_logging_of_none a hb, merge_logging_of_none a (hbc.trans hb)]
      | some logging => rw [merge_logging_of_some a hb, merge_logging_of_some a (hbc.trans hb)]
    | some upper =>
      rw [merge_logging_of_some _ hc, merge_logging_of_some a (merge_logging_of_some b hc)]
      cases hb : b.logging with
      | none => simp [merge_logging_of_none a hb]
      | some middle => simp [merge_logging_of_some a hb, LoggingLayer.merge_assoc]

end ConfigLayer

/-! ## §2 Lists of layers -/

/-- What a setting is in the last of some layers that sets it, if any does. -/
inductive LastSet {α : Type} (setting : ConfigLayer → Option α) :
    List ConfigLayer → Option α → Prop where
  | unset {layers : List ConfigLayer} (hnone : ∀ layer ∈ layers, setting layer = none) :
      LastSet setting layers none
  | set {before behind : List ConfigLayer} {layer : ConfigLayer} {value : α}
      (hvalue : setting layer = some value) (hbehind : ∀ l ∈ behind, setting l = none) :
      LastSet setting (before ++ layer :: behind) (some value)

/-- A further layer has the last say if it has any. -/
theorem LastSet.concat {α : Type} {setting : ConfigLayer → Option α} {layers : List ConfigLayer}
    {value : Option α} (h : LastSet setting layers value) (last : ConfigLayer) :
    LastSet setting (layers ++ [last]) ((setting last).or value) := by
  cases hlast : setting last with
  | some own => exact .set hlast (by simp)
  | none =>
    cases h with
    | unset hnone =>
      apply LastSet.unset
      simpa [or_imp, forall_and] using ⟨hnone, hlast⟩
    | @set before behind layer value hvalue hbehind =>
      rw [List.append_assoc, List.cons_append]
      apply LastSet.set hvalue
      simpa [or_imp, forall_and] using ⟨hbehind, hlast⟩

namespace ConfigLayer

/-- The last of some layers goes over the others. -/
theorem mergeAll_concat (layers : List ConfigLayer) (last : ConfigLayer) :
    mergeAll (layers ++ [last]) = (mergeAll layers).merge last := by
  simp [mergeAll]

/-- Two lists of layers may be merged each by itself. -/
theorem mergeAll_append (lower upper : List ConfigLayer) :
    mergeAll (lower ++ upper) = (mergeAll lower).merge (mergeAll upper) := by
  induction upper using List.reverseRecOn with
  | nil => simp [mergeAll, merge_empty]
  | append_singleton upper last ih =>
    rw [← List.append_assoc, mergeAll_concat, mergeAll_concat, ih, merge_assoc]

/-- A setting that the empty layer leaves unset, and of two layers the upper decides, is that of the
last layer that sets it. -/
theorem lastSet_mergeAll {α : Type} {setting : ConfigLayer → Option α} (hempty : setting {} = none)
    (hmerge : ∀ lower upper, setting (merge lower upper) = (setting upper).or (setting lower))
    (layers : List ConfigLayer) : LastSet setting layers (setting (mergeAll layers)) := by
  induction layers using List.reverseRecOn with
  | nil =>
    rw [show mergeAll [] = {} from rfl, hempty]
    exact .unset (by simp)
  | append_singleton layers last ih =>
    rw [mergeAll_concat, hmerge]
    exact ih.concat last

end ConfigLayer

/-- A way to put layers together two by two. -/
inductive Grouping where
  | empty
  | single (layer : ConfigLayer)
  | pair (lower upper : Grouping)

namespace Grouping

/-- The layers of a grouping, from the lowest to the uppermost. -/
def layers : Grouping → List ConfigLayer
  | empty => []
  | single layer => [layer]
  | pair lower upper => lower.layers ++ upper.layers

/-- The layer that comes out, where each group is merged before it is put over another. -/
def merged : Grouping → ConfigLayer
  | empty => {}
  | single layer => layer
  | pair lower upper => lower.merged.merge upper.merged

/-- However layers are put together, the outcome is the same. -/
theorem merged_eq (grouping : Grouping) : grouping.merged = ConfigLayer.mergeAll grouping.layers := by
  induction grouping with
  | empty => rfl
  | single layer => exact (ConfigLayer.empty_merge layer).symm
  | pair lower upper hlower hupper =>
    rw [merged, hlower, hupper, layers, ConfigLayer.mergeAll_append]

end Grouping

/-! ## §3 Sources -/

theorem Precedence.rank_inj {a b : Precedence} (h : a.rank = b.rank) : a = b := by
  cases a <;> cases b <;> first | rfl | cases h

namespace ConfigSource

/-- Sources are arranged by rank. -/
theorem pairwise_arrange (sources : List ConfigSource) :
    (arrange sources).Pairwise fun a b => a.precedence.rank ≤ b.precedence.rank := by
  have hsorted : (arrange sources).Pairwise fun a b =>
      decide (a.precedence.rank ≤ b.precedence.rank) = true := by
    apply List.pairwise_mergeSort
    · intro a b c hab hbc
      simp only [decide_eq_true_eq] at hab hbc ⊢
      omega
    · intro a b
      simp only [Bool.or_eq_true, decide_eq_true_eq]
      omega
  simpa only [decide_eq_true_eq] using hsorted

/-- Sources that are given by rank stay in their order. -/
theorem arrange_of_pairwise {sources : List ConfigSource}
    (h : sources.Pairwise fun a b => a.precedence.rank ≤ b.precedence.rank) :
    arrange sources = sources := by
  apply List.mergeSort_of_pairwise
  simpa only [decide_eq_true_eq] using h

/-- Sources with distinct places are arranged alike, in whatever order they are given. -/
theorem arrange_eq_of_perm {sources sources' : List ConfigSource} (hperm : sources.Perm sources')
    (hdistinct : (sources.map precedence).Nodup) : arrange sources = arrange sources' := by
  have harranged : (arrange sources).Perm (arrange sources') :=
    (List.mergeSort_perm _ _).trans (hperm.trans (List.mergeSort_perm _ _).symm)
  refine harranged.eq_of_pairwise ?_ (pairwise_arrange sources) (pairwise_arrange sources')
  -- Two sources of one rank are at one place, and so the same.
  intro a b ha hb hab hba
  have ha' : a ∈ sources := (List.mergeSort_perm _ _).mem_iff.mp ha
  have hb' : b ∈ sources := hperm.mem_iff.mpr ((List.mergeSort_perm _ _).mem_iff.mp hb)
  apply List.inj_on_of_nodup_map hdistinct ha' hb'
  exact Precedence.rank_inj (Nat.le_antisymm hab hba)

end ConfigSource

/-- Sources with distinct places give the same settings, or the same error, in any order. -/
theorem Settings.ofSources_eq_of_perm {sources sources' : List ConfigSource}
    (hperm : sources.Perm sources') (hdistinct : (sources.map ConfigSource.precedence).Nodup) :
    ofSources sources = ofSources sources' := by
  rw [ofSources, ofSources, ConfigSource.arrange_eq_of_perm hperm hdistinct]

/-! ## §4 The laws together -/

namespace ConfigLayer

/-- **The laws of merging.**  Merged in order, layers have each of the four settings, independently of
the others, from the last layer that sets it.  Merging is associative and the empty layer is neutral,
so that layers may be grouped in any way; and sources with distinct places give the same settings or
the same error in any order. -/
theorem merging_laws :
    (∀ layers : List ConfigLayer,
      LastSet ConfigLayer.defaultVendor layers (mergeAll layers).defaultVendor ∧
      LastSet ConfigLayer.vendors layers (mergeAll layers).vendors ∧
      LastSet ConfigLayer.logLevel layers (mergeAll layers).logLevel ∧
      LastSet ConfigLayer.logFormat layers (mergeAll layers).logFormat) ∧
    (∀ a b c : ConfigLayer, (a.merge b).merge c = a.merge (b.merge c)) ∧
    (∀ layer : ConfigLayer, merge {} layer = layer ∧ layer.merge {} = layer) ∧
    (∀ grouping : Grouping, grouping.merged = mergeAll grouping.layers) ∧
    ∀ sources sources' : List ConfigSource, sources.Perm sources' →
      (sources.map ConfigSource.precedence).Nodup →
      Settings.ofSources sources = Settings.ofSources sources' := by
  refine ⟨fun layers => ⟨?_, ?_, ?_, ?_⟩, merge_assoc,
    fun layer => ⟨empty_merge layer, merge_empty layer⟩, Grouping.merged_eq,
    fun sources sources' => Settings.ofSources_eq_of_perm⟩
  · exact lastSet_mergeAll rfl merge_defaultVendor layers
  · exact lastSet_mergeAll rfl merge_vendors layers
  · exact lastSet_mergeAll rfl merge_logLevel layers
  · exact lastSet_mergeAll rfl merge_logFormat layers

/-- Three sources, the one that goes over the others first. -/
def scatteredSources : List ConfigSource :=
  [.environment (TextMap.ofList [("TOLLGATE_LOG_LEVEL", "debug")]),
    ⟨.file, .ok { vendors := some [{ company := "snapp" }], logging := some ⟨"warn", some .json⟩ }⟩,
    .defaults]

/-- The level of the environment goes over that of the file, whose format stays. -/
theorem merging_laws_scattered :
    (scatteredSources.map ConfigSource.precedence).Nodup ∧
    Settings.ofSources scatteredSources = Settings.ofSources scatteredSources.reverse ∧
    Settings.ofSources scatteredSources =
      .ok ⟨"snapp", [{ company := "snapp" }], ⟨"debug", .json⟩⟩ := by
  have hdistinct : (scatteredSources.map ConfigSource.precedence).Nodup := by decide
  have hreverse : Settings.ofSources scatteredSources = Settings.ofSources scatteredSources.reverse :=
    merging_laws.2.2.2.2 _ _ (List.reverse_perm scatteredSources).symm hdistinct
  refine ⟨hdistinct, hreverse, ?_⟩
  rw [hreverse, Settings.ofSources, ConfigSource.arrange_of_pairwise (by decide)]
  decide +kernel

end ConfigLayer

end TopicGate
