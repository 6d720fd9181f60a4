import TopicGate.Config.Settings
import TopicGate.Proofs.Steps
import Mathlib.Data.List.Nodup

/-!
# Consistent settings

What vendors and settings have passed once they are found consistent, and so what is known of all
settings that a layer is finished to.

## Main statements
* `Vendor.validate_eq_ok_iff`, `Settings.validate_eq_ok_iff`: each check as the list of what it asks
  for.
* `ConfigLayer.finish_eq_ok_iff`: what a layer is finished to, which is always consistent.
-/

namespace TopicGate

open Steps

/-! ## §1 Vendors -/

namespace Vendor

theorem checkSalts_eq_ok_iff {company : String} {entries : List (Audience × CodecParams)} :
    checkSalts company entries = .ok () ↔ ∀ entry ∈ entries, entry.2.salt ≠ "" := by
  induction entries with
  | nil => simp [checkSalts]
  | cons entry rest ih =>
    obtain ⟨audience, params⟩ := entry
    by_cases h : params.salt = ""
    · simp [checkSalts, h]
    · simp [checkSalts, h, ih]

/-- A vendor is consistent in itself if it has a company and serves an access type, and if its codec
parameters are those of audiences and have salts. -/
theorem validate_eq_ok_iff {vendor : Vendor} :
    vendor.validate = .ok () ↔
      vendor.company ≠ "" ∧ vendor.allowedAccess ≠ [] ∧
        ∃ entries, vendor.codecEntries = .ok entries ∧ ∀ entry ∈ entries, entry.2.salt ≠ "" := by
  simp only [validate, check_eq_ok_iff, bind_eq_ok_iff, checkSalts_eq_ok_iff, List.isEmpty_iff,
    ne_eq]

end Vendor

/-! ## §2 Settings -/

namespace Settings

/-- Vendors pass in order if each is consistent in itself and their companies are new, each to those
seen before and to the others. -/
theorem checkVendors_eq_ok_iff {seen : List String} {vendors : List Vendor} :
    checkVendors seen vendors = .ok () ↔
      (∀ vendor ∈ vendors, vendor.validate = .ok () ∧ vendor.company ∉ seen) ∧
        (vendors.map Vendor.company).Nodup := by
  induction vendors generalizing seen with
  | nil => simp [checkVendors]
  | cons vendor rest ih =>
    -- For the rest, the company of the first vendor is one more that was seen.
    simp only [checkVendors, then_eq_ok_iff, check_eq_ok_iff, ih, List.mem_cons, List.map_cons,
      List.nodup_cons, List.mem_map, not_or, not_exists, not_and, forall_eq_or_imp]
    constructor
    · rintro ⟨hvalid, hnew, hrest, hdistinct⟩
      exact ⟨⟨⟨hvalid, hnew⟩, fun v hv => ⟨(hrest v hv).1, (hrest v hv).2.2⟩⟩,
        fun v hv => (hrest v hv).2.1, hdistinct⟩
    · rintro ⟨⟨⟨hvalid, hnew⟩, hrest⟩, hother, hdistinct⟩
      exact ⟨hvalid, hnew, fun v hv => ⟨(hrest v hv).1, hother v hv, (hrest v hv).2⟩, hdistinct⟩

/-- Everything that is asked of settings. -/
structure Consistent (settings : Settings) : Prop where
  valid : ∀ vendor ∈ settings.vendors, vendor.validate = .ok ()
  distinct : (settings.vendors.map Vendor.company).Nodup
  served : (settings.vendor? settings.defaultVendor).isSome = true

theorem validate_eq_ok_iff {settings : Settings} :
    settings.validate = .ok () ↔ settings.Consistent := by
  simp only [validate, then_eq_ok_iff, check_last_eq_ok_iff, checkVendors_eq_ok_iff,
    Option.isNone_iff_eq_none]
  constructor
  · rintro ⟨⟨hvendors, hdistinct⟩, hserved⟩
    refine ⟨fun vendor hvendor => (hvendors vendor hvendor).1, hdistinct, ?_⟩
    exact Option.isSome_iff_ne_none.mpr hserved
  · rintro ⟨hvalid, hdistinct, hserved⟩
    refine ⟨⟨fun vendor hvendor => ⟨hvalid vendor hvendor, List.not_mem_nil⟩, hdistinct⟩, ?_⟩
    exact Option.isSome_iff_ne_none.mp hserved

end Settings

/-! ## §3 Finished layers -/

namespace ConfigLayer

/-- The company that is served by default: the one that is set, or else the first vendor's. -/
def defaultCompany? (layer : ConfigLayer) : Option String :=
  layer.defaultVendor <|> (layer.vendors.getD []).head?.map Vendor.company

/-- The settings of a layer that serves a company by default. -/
def settingsFor (layer : ConfigLayer) (company : String) : Settings where
  defaultVendor := company
  vendors := layer.vendors.getD []
  logging := (layer.logging.getD {}).finish

theorem finish_of_no_default {layer : ConfigLayer} (h : layer.defaultCompany? = none) :
    layer.finish = .error .noVendors := by
  obtain ⟨hdefault, hvendors⟩ : layer.defaultVendor = none ∧ layer.vendors.getD [] = [] := by
    simpa [defaultCompany?] using h
  rw [finish, hdefault, hvendors]
  rfl

/-- With a default company all that is left is to check the settings. -/
theorem finish_of_default {layer : ConfigLayer} {company : String}
    (h : layer.defaultCompany? = some company) :
    layer.finish = do
      (layer.settingsFor company).validate
      return layer.settingsFor company := by
  simp only [finish, defaultCompany?] at h ⊢
  cases hdefault : layer.defaultVendor with
  | some name =>
    obtain rfl : name = company := by simpa [hdefault] using h
    rfl
  | none =>
    cases hvendors : layer.vendors.getD [] with
    | nil => simp [hdefault, hvendors] at h
    | cons vendor rest =>
      obtain rfl : vendor.company = company := by simpa [hdefault, hvendors] using h
      rw [settingsFor, hvendors]
      rfl

/-- A layer is finished to settings if it has a default company and they are consistent. -/
theorem finish_eq_ok_iff {layer : ConfigLayer} {settings : Settings} :
    layer.finish = .ok settings ↔
      ∃ company, layer.defaultCompany? = some company ∧ layer.settingsFor company = settings ∧
        settings.Consistent := by
  cases hdefault : layer.defaultCompany? with
  | none => simp [finish_of_no_default hdefault]
  | some company =>
    rw [finish_of_default hdefault, then_eq_ok_iff, pure_eq_ok_iff, Settings.validate_eq_ok_iff]
    constructor
    · rintro ⟨hconsistent, rfl⟩
      exact ⟨company, rfl, rfl, hconsistent⟩
    · rintro ⟨_, hcompany, rfl, hconsistent⟩
      obtain rfl := Option.some.inj hcompany
      exact ⟨hconsistent, rfl⟩

end ConfigLayer

end TopicGate
