import TopicGate.Gateway
import TopicGate.Proofs.Config.Consistency
import TopicGate.Proofs.TextMap
import TopicGate.Proofs.Topic.Lookup

/-!
# Gateways of finished settings

Finished settings are consistent, and of what can keep a gateway from being built this leaves only
the topics of a vendor.  Where they compile, the gateway and the settings know the same vendors,
although the one looks them up in a map and the other in a list.

## Main statements
* `tenantsOf_cases`: the tenants of vendors, or the first vendor whose topics do not compile.
* `exists_tenant_eq`: the tenant that is chosen is that of the vendor that the settings name.
* `built_of_finished`: gateways of finished settings.
-/

namespace TopicGate

open Steps

/-! ## §1 The tenant of a vendor -/

/-- The topics of a vendor compile. -/
def Vendor.Compiles (vendor : Vendor) : Prop :=
  ∃ registry, Registry.ofDefinitions vendor.company vendor.topics = .ok registry

namespace Tenant

variable {vendor : Vendor} {validator : Validator} {tenant : Tenant}

/-- A vendor with codec parameters for audiences can be served once its topics compile. -/
theorem exists_ofVendor (validator : Validator) {entries : List (Audience × CodecParams)}
    (hentries : vendor.codecEntries = .ok entries) (htopics : vendor.Compiles) :
    ∃ tenant, ofVendor vendor validator = .ok tenant := by
  obtain ⟨registry, hregistry⟩ := htopics
  rw [ofVendor, Policy.ofVendor, hregistry, hentries]
  exact ⟨_, rfl⟩

/-- Faulty topics are found before anything else. -/
theorem ofVendor_eq_error {source : TopicError}
    (h : Registry.ofDefinitions vendor.company vendor.topics = .error source) :
    ofVendor vendor validator = .error (.topics vendor.company source) := by
  simp [ofVendor, Policy.ofVendor, h, mapError_error, bind, Except.bind]

theorem company_of_ofVendor (h : ofVendor vendor validator = .ok tenant) :
    tenant.company = vendor.company := by
  simp only [ofVendor, Policy.ofVendor, bind_eq_ok_iff, mapError_eq_ok_iff, pure_eq_ok_iff] at h
  obtain ⟨_, ⟨registry, hregistry, entries, -, rfl⟩, rfl⟩ := h
  exact (Registry.ofDefinitions_eq_ok_iff.mp hregistry).1

end Tenant

namespace Gateway

/-! ## §2 The tenants of vendors -/

variable {validator : Validator} {vendors : List Vendor} {tenants : List Tenant}

/-- Each tenant is that of the vendor in its place. -/
def Serve (validator : Validator) (vendors : List Vendor) (tenants : List Tenant) : Prop :=
  List.Forall₂ (fun vendor tenant => Tenant.ofVendor vendor validator = .ok tenant) vendors tenants

/-- Vendors with codec parameters for audiences are all served, unless the topics of one do not
compile; the first such vendor decides the error. -/
theorem tenantsOf_cases (validator : Validator)
    (hcodec : ∀ vendor ∈ vendors, ∃ entries, vendor.codecEntries = .ok entries) :
    (∃ tenants, tenantsOf validator vendors = .ok tenants ∧ Serve validator vendors tenants) ∨
    ∃ earlier vendor later source, vendors = earlier ++ vendor :: later ∧
      (∀ v ∈ earlier, v.Compiles) ∧
      Registry.ofDefinitions vendor.company vendor.topics = .error source ∧
      tenantsOf validator vendors = .error (.vendor (.topics vendor.company source)) := by
  induction vendors with
  | nil => exact Or.inl ⟨[], rfl, .nil⟩
  | cons vendor rest ih =>
    obtain ⟨⟨entries, hentries⟩, hrest⟩ := List.forall_mem_cons.mp hcodec
    cases htopics : Registry.ofDefinitions vendor.company vendor.topics with
    | error source =>
      refine Or.inr ⟨[], vendor, rest, source, rfl, by simp, htopics, ?_⟩
      simp [tenantsOf, Tenant.ofVendor_eq_error htopics, mapError_error, bind, Except.bind]
    | ok registry =>
      have hcompiles : vendor.Compiles := ⟨registry, htopics⟩
      obtain ⟨tenant, htenant⟩ := Tenant.exists_ofVendor validator hentries hcompiles
      -- The first vendor is served, so the rest decides.
      have hcons : tenantsOf validator (vendor :: rest) =
          (tenantsOf validator rest).map (tenant :: ·) := by
        rw [tenantsOf, htenant]
        rfl
      rcases ih hrest with ⟨tenants, htenants, hserve⟩ |
        ⟨earlier, faulty, later, source, rfl, hearlier, hfaulty, herror⟩
      · exact Or.inl ⟨tenant :: tenants, by rw [hcons, htenants]; rfl, .cons htenant hserve⟩
      · refine Or.inr ⟨vendor :: earlier, faulty, later, source, rfl, ?_, hfaulty, ?_⟩
        · exact List.forall_mem_cons.mpr ⟨hcompiles, hearlier⟩
        · rw [hcons, herror]
          rfl

/-- Tenants keep the companies of their vendors. -/
theorem Serve.map_company (h : Serve validator vendors tenants) :
    tenants.map Tenant.company = vendors.map Vendor.company := by
  induction h with
  | nil => rfl
  | cons htenant _ ih => simp [ih, Tenant.company_of_ofVendor htenant]

/-- Every vendor has its tenant. -/
theorem Serve.exists_tenant (h : Serve validator vendors tenants) {vendor : Vendor}
    (hvendor : vendor ∈ vendors) :
    ∃ tenant ∈ tenants, Tenant.ofVendor vendor validator = .ok tenant := by
  induction h with
  | nil => cases hvendor
  | cons htenant _ ih =>
    rcases List.mem_cons.mp hvendor with rfl | hvendor
    · exact ⟨_, List.mem_cons_self, htenant⟩
    · obtain ⟨tenant, hmem, htenant⟩ := ih hvendor
      exact ⟨tenant, List.mem_cons_of_mem _ hmem, htenant⟩

/-! ## §3 Two lookups -/

/-- Where companies are distinct, the first vendor of a company is the only one. -/
theorem vendor?_eq_some_iff {settings : Settings} (h : settings.Consistent) {company : String}
    {vendor : Vendor} :
    settings.vendor? company = some vendor ↔
      vendor ∈ settings.vendors ∧ vendor.company = company := by
  constructor
  · intro hfound
    exact ⟨List.mem_of_find?_eq_some hfound, by simpa using List.find?_some hfound⟩
  · rintro ⟨hvendor, rfl⟩
    have hsome : (settings.vendor? vendor.company).isSome = true :=
      List.find?_isSome.mpr ⟨vendor, hvendor, beq_self_eq_true _⟩
    obtain ⟨found, hfound⟩ := Option.isSome_iff_exists.mp hsome
    have hcompany : found.company = vendor.company := by simpa using List.find?_some hfound
    rw [hfound, List.inj_on_of_nodup_map h.distinct (List.mem_of_find?_eq_some hfound) hvendor
      hcompany]

/-- The map of tenants by company. -/
def byCompany (tenants : List Tenant) : TextMap Tenant :=
  TextMap.ofList (tenants.map fun tenant => (tenant.company, tenant))

theorem map_fst_companies (tenants : List Tenant) :
    (tenants.map fun tenant => (tenant.company, tenant)).map Prod.fst =
      tenants.map Tenant.company := by
  simp

section

variable {settings : Settings}

/-- The map answers with the tenant of the vendor that the settings find. -/
theorem get?_byCompany (h : settings.Consistent)
    (hserve : Serve validator settings.vendors tenants) {company : String} {vendor : Vendor}
    (hvendor : settings.vendor? company = some vendor) :
    ∃ tenant, (byCompany tenants).get? company = some tenant ∧
      Tenant.ofVendor vendor validator = .ok tenant := by
  obtain ⟨hmem, rfl⟩ := (vendor?_eq_some_iff h).mp hvendor
  obtain ⟨tenant, htenants, htenant⟩ := hserve.exists_tenant hmem
  refine ⟨tenant, ?_, htenant⟩
  rw [byCompany, TextMap.get?_ofList_eq_some_iff]
  · rw [← Tenant.company_of_ofVendor htenant]
    exact List.mem_map.mpr ⟨tenant, htenants, rfl⟩
  · rw [map_fst_companies, hserve.map_company]
    exact h.distinct

theorem keys_byCompany_perm (h : settings.Consistent)
    (hserve : Serve validator settings.vendors tenants) :
    (byCompany tenants).keys.Perm (settings.vendors.map Vendor.company) := by
  rw [← hserve.map_company, ← map_fst_companies]
  apply TextMap.keys_ofList_perm
  rw [map_fst_companies, hserve.map_company]
  exact h.distinct

/-- The map has no answer where the settings have none. -/
theorem get?_byCompany_eq_none (h : settings.Consistent)
    (hserve : Serve validator settings.vendors tenants) {company : String}
    (hvendor : settings.vendor? company = none) : (byCompany tenants).get? company = none := by
  rw [Option.eq_none_iff_forall_ne_some]
  intro tenant htenant
  have hkey : company ∈ (byCompany tenants).keys := TextMap.mem_keys_iff.mpr ⟨tenant, htenant⟩
  obtain ⟨vendor, hmem, hcompany⟩ :=
    List.mem_map.mp ((keys_byCompany_perm h hserve).mem_iff.mp hkey)
  rw [(vendor?_eq_some_iff h).mpr ⟨hmem, hcompany⟩] at hvendor
  cases hvendor

end

/-! ## §4 Gateways -/

/-- The vendor of a name in settings: the default one if the name is missing or unknown. -/
def vendorFor? (settings : Settings) (name : Option String) : Option Vendor :=
  (name.bind settings.vendor?).or (settings.vendor? settings.defaultVendor)

/-- The tenant that is chosen is the one that the vendor of the name has by itself. -/
theorem exists_tenant_eq {settings : Settings} (h : settings.Consistent)
    (hserve : Serve validator settings.vendors tenants) {default : Tenant}
    (hdefault : (byCompany tenants).get? settings.defaultVendor = some default)
    (name : Option String) :
    ∃ vendor, vendorFor? settings name = some vendor ∧
      Tenant.ofVendor vendor validator = .ok (tenant ⟨byCompany tenants, default⟩ name) := by
  -- What is not found by name is found as the default.
  have hfallback : ∃ vendor, settings.vendor? settings.defaultVendor = some vendor ∧
      Tenant.ofVendor vendor validator = .ok default := by
    obtain ⟨vendor, hvendor⟩ := Option.isSome_iff_exists.mp h.served
    obtain ⟨tenant, hget, htenant⟩ := get?_byCompany h hserve hvendor
    obtain rfl : default = tenant := Option.some.inj (hdefault.symm.trans hget)
    exact ⟨vendor, hvendor, htenant⟩
  cases name with
  | none => exact hfallback
  | some company =>
    cases hvendor : settings.vendor? company with
    | none =>
      have hnone := get?_byCompany_eq_none h hserve hvendor
      simpa [vendorFor?, tenant, hvendor, hnone] using hfallback
    | some vendor =>
      obtain ⟨found, hget, hfound⟩ := get?_byCompany h hserve hvendor
      exact ⟨vendor, by simp [vendorFor?, hvendor], by simpa [tenant, hget] using hfound⟩

theorem ofSettings_eq_ok {settings : Settings} {default : Tenant}
    (htenants : tenantsOf validator settings.vendors = .ok tenants)
    (hdefault : (byCompany tenants).get? settings.defaultVendor = some default) :
    ofSettings settings validator = .ok (⟨byCompany tenants, default⟩,
      tenants.flatMap fun tenant => tenant.policy.registry.warnings) := by
  simp only [ofSettings, htenants, bind, Except.bind]
  rw [← byCompany, hdefault]
  rfl

/-- **Gateways of finished settings.**  They can be built unless the topics of a vendor do not
compile, and then the first such vendor is what is reported.  A gateway that was built has the
default vendor and, in order, the companies of the settings, and the tenant that it chooses for a
name, or for no name, is the one that the vendor of the settings has by itself. -/
theorem built_of_finished {layer : ConfigLayer} {settings : Settings}
    (h : layer.finish = .ok settings) (validator : Validator) :
    (∃ gateway warnings, ofSettings settings validator = .ok (gateway, warnings) ∧
      gateway.defaultVendor = settings.defaultVendor ∧
      gateway.companies.Perm (settings.vendors.map Vendor.company) ∧
      gateway.companies.Pairwise (· < ·) ∧
      ∀ name, ∃ vendor, vendorFor? settings name = some vendor ∧
        Tenant.ofVendor vendor validator = .ok (gateway.tenant name)) ∨
    ∃ earlier vendor later source, settings.vendors = earlier ++ vendor :: later ∧
      (∀ v ∈ earlier, v.Compiles) ∧
      Registry.ofDefinitions vendor.company vendor.topics = .error source ∧
      ofSettings settings validator = .error (.vendor (.topics vendor.company source)) := by
  obtain ⟨-, -, -, hconsistent⟩ := ConfigLayer.finish_eq_ok_iff.mp h
  have hcodec : ∀ vendor ∈ settings.vendors, ∃ entries, vendor.codecEntries = .ok entries := by
    intro vendor hvendor
    obtain ⟨-, -, entries, hentries, -⟩ :=
      Vendor.validate_eq_ok_iff.mp (hconsistent.valid vendor hvendor)
    exact ⟨entries, hentries⟩
  rcases tenantsOf_cases validator hcodec with ⟨tenants, htenants, hserve⟩ |
    ⟨earlier, vendor, later, source, hvendors, hearlier, hsource, herror⟩
  · obtain ⟨vendor, hvendor⟩ := Option.isSome_iff_exists.mp hconsistent.served
    obtain ⟨default, hdefault, hserved⟩ := get?_byCompany hconsistent hserve hvendor
    have hcompany : default.company = settings.defaultVendor := by
      rw [Tenant.company_of_ofVendor hserved]
      exact ((vendor?_eq_some_iff hconsistent).mp hvendor).2
    exact Or.inl ⟨_, _, ofSettings_eq_ok htenants hdefault, hcompany,
      keys_byCompany_perm hconsistent hserve, TextMap.keys_sorted _,
      exists_tenant_eq hconsistent hserve hdefault⟩
  · refine Or.inr ⟨earlier, vendor, later, source, hvendors, hearlier, hsource, ?_⟩
    rw [ofSettings, herror]
    rfl

/-! ### Two vendors -/

/-- A layer with two vendors, of which the second is the default. -/
def twoVendors : ConfigLayer where
  defaultVendor := some "box"
  vendors := some
    [{ company := "snapp"
       topics := [{ type := "chat", template := "{company}/chat/{audience}/{identityToken}/{room}" },
         { type := "news", template := "/news" }]
       codecParams := TextMap.ofList [("driver", ⟨"driver-salt", 15⟩)] },
     { company := "box" }]

/-- A gateway of two vendors, asked for a known name, an unknown one and none. -/
theorem built_of_finished_two :
    ∃ settings, twoVendors.finish = .ok settings ∧
      ∃ gateway warnings, ofSettings settings unavailableValidator = .ok (gateway, warnings) ∧
        gateway.defaultVendor = "box" ∧ gateway.companies = ["box", "snapp"] ∧
        (gateway.tenant (some "snapp")).company = "snapp" ∧
        (gateway.tenant (some "unknown")).company = "box" ∧ (gateway.tenant none).company = "box" := by
  have hfinish : twoVendors.finish = .ok (twoVendors.settingsFor "box") := by
    decide +kernel
  have hcompiles : ∀ vendor ∈ (twoVendors.settingsFor "box").vendors,
      (Registry.ofDefinitions vendor.company vendor.topics).isOk = true := by
    decide +kernel
  rcases built_of_finished hfinish unavailableValidator with
    ⟨gateway, warnings, hgateway, hdefault, hperm, hsorted, htenant⟩ |
    ⟨earlier, vendor, later, source, hvendors, -, hsource, -⟩
  · -- The company of a chosen tenant is that of the vendor of the name.
    have hcompany : ∀ name vendor, vendorFor? (twoVendors.settingsFor "box") name = some vendor →
        (gateway.tenant name).company = vendor.company := by
      intro name vendor hvendor
      obtain ⟨found, hfound, hserved⟩ := htenant name
      obtain rfl : vendor = found := Option.some.inj (hvendor.symm.trans hfound)
      exact Tenant.company_of_ofVendor hserved
    have hcompanies : gateway.companies = ["box", "snapp"] := by
      refine List.Perm.eq_of_pairwise ?_ hsorted (by decide +kernel)
        (hperm.trans (List.Perm.swap "box" "snapp" []))
      intro a b _ _ hlt hgt
      exact absurd (String.lt_trans hlt hgt) (String.lt_irrefl a)
    exact ⟨_, hfinish, gateway, warnings, hgateway, hdefault, hcompanies,
      hcompany (some "snapp") _ rfl, hcompany (some "unknown") { company := "box" } rfl,
      hcompany none { company := "box" } rfl⟩
  · have hok := hcompiles vendor (by rw [hvendors]; simp)
    rw [hsource] at hok
    cases hok

end Gateway

end TopicGate
