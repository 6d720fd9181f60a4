import TopicGate.Proofs.Audience
import TopicGate.Proofs.Config.Consistency
import Mathlib.Data.List.Induction

/-!
# Finishing layers

A layer is finished to settings unless something is wrong with it: it has no default company, one of
its vendors is at fault in itself or repeats a company, or the default company is none of theirs.
The first of these is reported: vendors are looked at in order, each completely before the next, and
all names of audiences of a vendor before any of its salts.

## Main definitions
* `Vendor.IsSound`: nothing is wrong with a vendor in itself.
* `Vendor.Fault`: the first thing that is wrong with it.
* `ConfigLayer.Fault`: the first thing that is wrong with a layer.

## Main statements
* `Vendor.isSound_or_exists_fault`: a vendor is sound or has a fault.
* `Vendor.areSound_or_exists_first`: vendors are sound, or there is a first one that is not.
* `ConfigLayer.finish_outcome`: when a layer is finished to settings, and what is reported otherwise.
-/

namespace TopicGate

open Steps

namespace Vendor

variable {vendor : Vendor} {company : String} {e : ConfigError}

/-! ## §1 Codec parameters -/

/-- Parameters under the names of audiences are read as they are. -/
theorem audienceEntries_map_name (company : String) (entries : List (Audience × CodecParams)) :
    audienceEntries company (entries.map fun entry => (entry.1.name, entry.2)) = .ok entries := by
  induction entries with
  | nil => rfl
  | cons entry rest ih =>
    rw [List.map_cons, audienceEntries, Audience.parse_name, ih]
    rfl

/-- The first key that is no name of an audience is reported. -/
theorem audienceEntries_append_of_unknown {before behind : List (String × CodecParams)}
    {name : String} {params : CodecParams} (hbefore : ∀ entry ∈ before, NamesAudience entry.1)
    (hname : ¬NamesAudience name) :
    audienceEntries company (before ++ (name, params) :: behind) =
      .error (.unknownCodecAudience company ⟨"audience", name⟩) := by
  induction before with
  | nil =>
    rw [List.nil_append, audienceEntries, Audience.parse_of_not_namesAudience hname]
    rfl
  | cons entry before ih =>
    obtain ⟨⟨a, ha⟩, hrest⟩ := List.forall_mem_cons.mp hbefore
    rw [List.cons_append, audienceEntries, ← ha, Audience.parse_name, ih hrest]
    rfl

theorem codecEntries_of_known (h : ∀ name ∈ vendor.codecParams.keys, NamesAudience name) :
    vendor.codecEntries = .ok vendor.codecParams.byAudience := by
  rw [codecEntries, TextMap.entries_eq_of_known h, audienceEntries_map_name]

theorem codecEntries_of_isFirstUnknown {name : String}
    (h : vendor.codecParams.IsFirstUnknown name) :
    vendor.codecEntries = .error (.unknownCodecAudience vendor.company ⟨"audience", name⟩) := by
  obtain ⟨before, params, behind, hentries, hbefore⟩ := h.exists_split
  rw [codecEntries, hentries, audienceEntries_append_of_unknown hbefore h.unknown]

/-- The first audience, in the order of audiences, whose salt is empty. -/
def saltless? (vendor : Vendor) : Option Audience :=
  Audience.all.find? fun a => (vendor.codecParams.get? a.name).any fun params => params.salt = ""

/-- The first empty salt is reported. -/
theorem checkSalts_eq (company : String) (entries : List (Audience × CodecParams)) :
    checkSalts company entries =
      match (entries.find? fun entry => entry.2.salt = "").map Prod.fst with
      | some audience => .error (.emptySalt company audience)
      | none => .ok () := by
  induction entries with
  | nil => rfl
  | cons entry rest ih =>
    by_cases hsalt : entry.2.salt = ""
    · simp [checkSalts, hsalt]
    · simp [checkSalts, hsalt, ih]

/-- Among the parameters by audience, the first empty salt is that of the first audience with one. -/
theorem find?_byAudience (vendor : Vendor) :
    (vendor.codecParams.byAudience.find? fun entry => entry.2.salt = "").map Prod.fst =
      vendor.saltless? := by
  rw [TextMap.byAudience, List.find?_filterMap, saltless?]
  simp only [Option.any_map]
  cases hfound : Audience.all.find? _ with
  | none => rfl
  | some a =>
    have hsalt := List.find?_some hfound
    cases hparams : vendor.codecParams.get? a.name with
    | none => simp [hparams] at hsalt
    | some params => simp [hparams]

/-! ## §2 A single vendor -/

/-- Nothing is wrong with a vendor in itself. -/
structure IsSound (vendor : Vendor) : Prop where
  company : vendor.company ≠ ""
  access : vendor.allowedAccess ≠ []
  names : ∀ name ∈ vendor.codecParams.keys, NamesAudience name
  salts : ∀ name params, vendor.codecParams.get? name = some params → params.salt ≠ ""

/-- What is wrong with a vendor in itself; each rule names the checks that come before it. -/
inductive Fault (vendor : Vendor) : ConfigError → Prop where
  | emptyCompany (hcompany : vendor.company = "") : Fault vendor .emptyCompany
  | noAccessTypes (hcompany : vendor.company ≠ "") (haccess : vendor.allowedAccess = []) :
      Fault vendor (.noAccessTypes vendor.company)
  /-- Of several unknown names, the first in the order of bytes. -/
  | unknownAudience (hcompany : vendor.company ≠ "") (haccess : vendor.allowedAccess ≠ [])
      {name : String} (hname : vendor.codecParams.IsFirstUnknown name) :
      Fault vendor (.unknownCodecAudience vendor.company ⟨"audience", name⟩)
  /-- Of several empty salts, the first in the order of audiences. -/
  | emptySalt (hcompany : vendor.company ≠ "") (haccess : vendor.allowedAccess ≠ [])
      (hnames : ∀ name ∈ vendor.codecParams.keys, NamesAudience name) {audience : Audience}
      (hsalt : vendor.saltless? = some audience) :
      Fault vendor (.emptySalt vendor.company audience)

/-- Without an audience that lacks one, all salts under known names are there. -/
theorem saltless?_eq_none_iff (hnames : ∀ name ∈ vendor.codecParams.keys, NamesAudience name) :
    vendor.saltless? = none ↔
      ∀ name params, vendor.codecParams.get? name = some params → params.salt ≠ "" := by
  have hall : ∀ a : Audience, a ∈ Audience.all := by
    intro a
    cases a <;> simp [Audience.all]
  rw [saltless?, List.find?_eq_none]
  constructor
  · intro h name params hparams hsalt
    obtain ⟨a, rfl⟩ := hnames name (TextMap.mem_keys_iff.mpr ⟨params, hparams⟩)
    exact h a (hall a) (by simp [hparams, hsalt])
  · intro h a _ hany
    cases hparams : vendor.codecParams.get? a.name with
    | none => simp [hparams] at hany
    | some params => exact h a.name params hparams (by simpa [hparams] using hany)

/-- A vendor is sound or has a fault. -/
theorem isSound_or_exists_fault (vendor : Vendor) : vendor.IsSound ∨ ∃ e, vendor.Fault e := by
  by_cases hcompany : vendor.company = ""
  case pos => exact Or.inr ⟨_, .emptyCompany hcompany⟩
  by_cases haccess : vendor.allowedAccess = []
  case pos => exact Or.inr ⟨_, .noAccessTypes hcompany haccess⟩
  rcases vendor.codecParams.known_or_exists_isFirstUnknown with hnames | ⟨name, hname⟩
  · cases hsalt : vendor.saltless? with
    | none => exact Or.inl ⟨hcompany, haccess, hnames, (saltless?_eq_none_iff hnames).mp hsalt⟩
    | some audience => exact Or.inr ⟨_, .emptySalt hcompany haccess hnames hsalt⟩
  · exact Or.inr ⟨_, .unknownAudience hcompany haccess hname⟩

/-- With known names it is the salts that are left to check. -/
theorem validate_of_known (hcompany : vendor.company ≠ "") (haccess : vendor.allowedAccess ≠ [])
    (hnames : ∀ name ∈ vendor.codecParams.keys, NamesAudience name) :
    vendor.validate = match vendor.saltless? with
      | some audience => .error (.emptySalt vendor.company audience)
      | none => .ok () := by
  rw [← find?_byAudience, ← checkSalts_eq]
  simp [validate, hcompany, haccess, codecEntries_of_known hnames, bind, Except.bind]

theorem IsSound.validate_eq (h : vendor.IsSound) : vendor.validate = .ok () := by
  rw [validate_of_known h.company h.access h.names,
    (saltless?_eq_none_iff h.names).mpr h.salts]

theorem Fault.validate_eq (h : vendor.Fault e) : vendor.validate = .error e := by
  cases h with
  | emptyCompany hcompany => simp [validate, hcompany, throw, throwThe, MonadExceptOf.throw, bind,
      Except.bind]
  | noAccessTypes hcompany haccess => simp [validate, hcompany, haccess, throw, throwThe,
      MonadExceptOf.throw, bind, Except.bind]
  | unknownAudience hcompany haccess hname => simp [validate, hcompany, haccess,
      codecEntries_of_isFirstUnknown hname, bind, Except.bind]
  | emptySalt hcompany haccess hnames hsalt => rw [validate_of_known hcompany haccess hnames, hsalt]

theorem isSound_iff : vendor.IsSound ↔ vendor.validate = .ok () := by
  refine ⟨IsSound.validate_eq, fun hvalid => ?_⟩
  rcases isSound_or_exists_fault vendor with hsound | ⟨e, hfault⟩
  · exact hsound
  · rw [hfault.validate_eq] at hvalid
    cases hvalid

/-! ## §3 Vendors in order -/

/-- Each of some vendors is sound, and no company is there twice. -/
structure AreSound (vendors : List Vendor) : Prop where
  sound : ∀ vendor ∈ vendors, vendor.IsSound
  distinct : (vendors.map Vendor.company).Nodup

theorem AreSound.concat {vendors : List Vendor} (h : AreSound vendors) (hsound : vendor.IsSound)
    (hnew : vendor.company ∉ vendors.map Vendor.company) : AreSound (vendors ++ [vendor]) := by
  refine ⟨?_, ?_⟩
  · simpa [or_imp, forall_and] using ⟨h.sound, hsound⟩
  · rw [List.map_append, List.map_singleton, List.nodup_append]
    refine ⟨h.distinct, List.nodup_singleton _, ?_⟩
    intro a ha b hb hab
    rw [List.mem_singleton.mp hb] at hab
    exact hnew (hab ▸ ha)

/-- Vendors are sound, or there is a first one that has a fault or repeats a company. -/
theorem areSound_or_exists_first (vendors : List Vendor) :
    AreSound vendors ∨ ∃ before vendor behind, vendors = before ++ vendor :: behind ∧
      AreSound before ∧
      ((∃ e, vendor.Fault e) ∨
        (vendor.IsSound ∧ vendor.company ∈ before.map Vendor.company)) := by
  induction vendors using List.reverseRecOn with
  | nil => exact Or.inl ⟨by simp, List.nodup_nil⟩
  | append_singleton vendors last ih =>
    rcases ih with hsound | ⟨before, vendor, behind, rfl, hbefore, hfirst⟩
    · -- All others are sound, so the last one decides.
      rcases isSound_or_exists_fault last with hlast | hfault
      · by_cases hseen : last.company ∈ vendors.map Vendor.company
        · exact Or.inr ⟨vendors, last, [], rfl, hsound, Or.inr ⟨hlast, hseen⟩⟩
        · exact Or.inl (hsound.concat hlast hseen)
      · exact Or.inr ⟨vendors, last, [], rfl, hsound, Or.inl hfault⟩
    · exact Or.inr ⟨before, vendor, behind ++ [last], by simp, hbefore, hfirst⟩

end Vendor

namespace Settings

variable {vendors before behind : List Vendor} {vendor : Vendor} {seen : List String}

/-- Sound vendors of new companies pass, and the others are looked at knowing their companies. -/
theorem checkVendors_append (h : Vendor.AreSound before)
    (hnew : ∀ v ∈ before, v.company ∉ seen) (behind : List Vendor) :
    checkVendors seen (before ++ behind) =
      checkVendors ((before.map Vendor.company).reverse ++ seen) behind := by
  induction before generalizing seen with
  | nil => rfl
  | cons vendor before ih =>
    obtain ⟨hsound, hsounds⟩ := List.forall_mem_cons.mp h.sound
    obtain ⟨hfresh, hfreshs⟩ := List.forall_mem_cons.mp hnew
    obtain ⟨hother, hdistinct⟩ := List.nodup_cons.mp h.distinct
    have hnew' : ∀ v ∈ before, v.company ∉ vendor.company :: seen := by
      intro v hv hmem
      rcases List.mem_cons.mp hmem with heq | hmem
      · exact hother (heq ▸ List.mem_map_of_mem hv)
      · exact hfreshs v hv hmem
    rw [List.cons_append, checkVendors, hsound.validate_eq]
    simp only [bind, Except.bind, if_neg hfresh]
    show checkVendors (vendor.company :: seen) (before ++ behind) = _
    rw [ih ⟨hsounds, hdistinct⟩ hnew']
    simp

/-- Behind sound vendors a fault is reported. -/
theorem checkVendors_of_fault (hbefore : Vendor.AreSound before) {e : ConfigError}
    (h : vendor.Fault e) : checkVendors [] (before ++ vendor :: behind) = .error e := by
  rw [checkVendors_append hbefore (by simp), checkVendors, h.validate_eq]
  rfl

/-- Behind sound vendors a company that one of them has is reported. -/
theorem checkVendors_of_seen (hbefore : Vendor.AreSound before) (hsound : vendor.IsSound)
    (hseen : vendor.company ∈ before.map Vendor.company) :
    checkVendors [] (before ++ vendor :: behind) = .error (.duplicateVendor vendor.company) := by
  have hmem : vendor.company ∈ (before.map Vendor.company).reverse ++ [] := by simpa using hseen
  rw [checkVendors_append hbefore (by simp), checkVendors, hsound.validate_eq]
  simp only [bind, Except.bind, if_pos hmem]
  rfl

theorem checkVendors_of_areSound (h : Vendor.AreSound vendors) : checkVendors [] vendors = .ok () := by
  have hpassed : checkVendors [] (vendors ++ []) =
      checkVendors ((vendors.map Vendor.company).reverse ++ []) [] :=
    checkVendors_append h (by simp) []
  rwa [List.append_nil] at hpassed

/-- A company is served if it is that of a vendor. -/
theorem isSome_vendor?_iff {settings : Settings} {company : String} :
    (settings.vendor? company).isSome = true ↔ company ∈ settings.vendors.map Vendor.company := by
  simp [vendor?]

theorem consistent_iff {settings : Settings} :
    settings.Consistent ↔ Vendor.AreSound settings.vendors ∧
      settings.defaultVendor ∈ settings.vendors.map Vendor.company := by
  rw [← isSome_vendor?_iff]
  refine ⟨fun h => ⟨⟨fun v hv => Vendor.isSound_iff.mpr (h.valid v hv), h.distinct⟩, h.served⟩,
    fun h => ⟨fun v hv => (h.1.sound v hv).validate_eq, h.1.distinct, h.2⟩⟩

end Settings

/-! ## §4 Layers -/

namespace ConfigLayer

variable {layer : ConfigLayer} {e : ConfigError}

/-- What is wrong with a layer; each rule names the checks that come before it. -/
inductive Fault (layer : ConfigLayer) : ConfigError → Prop where
  /-- No default company is set, and there is no vendor to take one from. -/
  | noVendors (hdefault : layer.defaultCompany? = none) : Fault layer .noVendors
  /-- The first vendor with which anything is wrong is at fault in itself. -/
  | vendor {company : String} (hdefault : layer.defaultCompany? = some company)
      {before behind : List Vendor} {vendor : Vendor}
      (hvendors : layer.vendors.getD [] = before ++ vendor :: behind)
      (hbefore : Vendor.AreSound before) {e : ConfigError} (hfault : vendor.Fault e) :
      Fault layer e
  /-- The first vendor with which anything is wrong repeats a company. -/
  | duplicateVendor {company : String} (hdefault : layer.defaultCompany? = some company)
      {before behind : List Vendor} {vendor : Vendor}
      (hvendors : layer.vendors.getD [] = before ++ vendor :: behind)
      (hbefore : Vendor.AreSound before) (hsound : vendor.IsSound)
      (hseen : vendor.company ∈ before.map Vendor.company) :
      Fault layer (.duplicateVendor vendor.company)
  /-- Nothing is wrong with any vendor, but the default company is none of theirs. -/
  | unknownDefaultVendor {company : String} (hdefault : layer.defaultCompany? = some company)
      (hvendors : Vendor.AreSound (layer.vendors.getD []))
      (hunknown : company ∉ (layer.vendors.getD []).map Vendor.company) :
      Fault layer (.unknownDefaultVendor company)

/-- A faulty layer is refused for its fault. -/
theorem Fault.finish_eq (h : layer.Fault e) : layer.finish = .error e := by
  cases h with
  | noVendors hdefault => exact finish_of_no_default hdefault
  | vendor hdefault hvendors hbefore hfault =>
    rw [finish_of_default hdefault, Settings.validate, settingsFor, hvendors,
      Settings.checkVendors_of_fault hbefore hfault]
    rfl
  | duplicateVendor hdefault hvendors hbefore hsound hseen =>
    rw [finish_of_default hdefault, Settings.validate, settingsFor, hvendors,
      Settings.checkVendors_of_seen hbefore hsound hseen]
    rfl
  | @unknownDefaultVendor company hdefault hvendors hunknown =>
    have hnone : (layer.settingsFor company).vendor? company = none := by
      rw [← Option.not_isSome_iff_eq_none, Settings.isSome_vendor?_iff]
      exact hunknown
    have hcheck : Settings.checkVendors [] (layer.settingsFor company).vendors = .ok () :=
      Settings.checkVendors_of_areSound hvendors
    rw [finish_of_default hdefault, Settings.validate, hcheck]
    simp only [bind, Except.bind]
    rw [show (layer.settingsFor company).defaultVendor = company from rfl, hnone]
    rfl

/-- A layer is finished to the settings of its default company if its vendors are sound and it is
one of theirs. -/
theorem finish_eq_ok_iff_areSound {settings : Settings} :
    layer.finish = .ok settings ↔ ∃ company, layer.defaultCompany? = some company ∧
      layer.settingsFor company = settings ∧ Vendor.AreSound (layer.vendors.getD []) ∧
        company ∈ (layer.vendors.getD []).map Vendor.company := by
  rw [finish_eq_ok_iff]
  refine exists_congr fun company => and_congr_right fun _ => and_congr_right fun hsettings => ?_
  rw [← hsettings, Settings.consistent_iff]
  rfl

/-- A layer is finished to settings or has a fault. -/
theorem exists_finish_or_fault (layer : ConfigLayer) :
    (∃ settings, layer.finish = .ok settings) ∨ ∃ e, layer.Fault e := by
  cases hdefault : layer.defaultCompany? with
  | none => exact Or.inr ⟨_, .noVendors hdefault⟩
  | some company =>
    rcases Vendor.areSound_or_exists_first (layer.vendors.getD []) with
      hsound | ⟨before, vendor, behind, hvendors, hbefore, ⟨e, hfault⟩ | ⟨hsound, hseen⟩⟩
    · by_cases hserved : company ∈ (layer.vendors.getD []).map Vendor.company
      · exact Or.inl ⟨_, finish_eq_ok_iff_areSound.mpr ⟨company, hdefault, rfl, hsound, hserved⟩⟩
      · exact Or.inr ⟨_, .unknownDefaultVendor hdefault hsound hserved⟩
    · exact Or.inr ⟨e, .vendor hdefault hvendors hbefore hfault⟩
    · exact Or.inr ⟨_, .duplicateVendor hdefault hvendors hbefore hsound hseen⟩

/-- **The outcome of finishing a layer.**  A layer is finished to settings exactly if it has a default
company, all of its vendors are sound in themselves, no company is there twice, and the default
company is one of theirs; the settings then have the vendors in order and that default.  Any other
layer is refused for the first thing that is wrong with it. -/
theorem finish_outcome (layer : ConfigLayer) :
    (∀ settings, layer.finish = .ok settings ↔
      ∃ company, layer.defaultCompany? = some company ∧
        (∀ vendor ∈ layer.vendors.getD [], vendor.IsSound) ∧
        ((layer.vendors.getD []).map Vendor.company).Nodup ∧
        company ∈ (layer.vendors.getD []).map Vendor.company ∧
        settings = ⟨company, layer.vendors.getD [], (layer.logging.getD {}).finish⟩) ∧
    ∀ e, layer.finish = .error e ↔ layer.Fault e := by
  refine ⟨fun settings => ?_, fun e => ⟨fun herror => ?_, Fault.finish_eq⟩⟩
  · rw [finish_eq_ok_iff_areSound]
    refine exists_congr fun company => and_congr_right fun _ => ?_
    constructor
    · rintro ⟨rfl, hvendors, hserved⟩
      exact ⟨hvendors.sound, hvendors.distinct, hserved, rfl⟩
    · rintro ⟨hsound, hdistinct, hserved, rfl⟩
      exact ⟨rfl, ⟨hsound, hdistinct⟩, hserved⟩
  · -- There is a fault, and it is what was reported.
    rcases exists_finish_or_fault layer with ⟨settings, hsettings⟩ | ⟨e', hfault⟩
    · rw [hsettings] at herror
      cases herror
    · rw [hfault.finish_eq] at herror
      cases herror
      exact hfault

end ConfigLayer

end TopicGate
