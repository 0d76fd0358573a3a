import CachePurge.Proofs.Vendor.Usable

/-!
Selecting a backend, checking the settings and building the backend look at the settings alike. The
check rejects just the settings for which building reports that one is missing; what passes it can
only fail by the URL of the API. So a backend is selected just if its vendor is known and it can be
built, and nothing that the check rejects is ever built.
-/

namespace CachePurge

theorem VendorSettings.setting?_eq_some {s : VendorSettings} {name value : String} :
    s.setting? name = some value ↔
      ∃ text, s.settings.get? name = some text ∧ Blank.trim text = value ∧ value ≠ "" := by
  rw [setting?]
  cases s.settings.get? name with
  | none => simp
  | some text =>
      by_cases blank : Blank.trim text = ""
      · simp [blank]
      · simp only [Option.map_some, String.isEmpty_iff, blank, if_false, Option.some.injEq,
          exists_eq_left']
        exact ⟨fun same => ⟨same, same ▸ blank⟩, fun both => both.1⟩

theorem VendorSettings.setting?_eq_none {s : VendorSettings} {name : String} :
    s.setting? name = none ↔ ∀ text, s.settings.get? name = some text → Blank.trim text = "" := by
  rw [Option.eq_none_iff_forall_ne_some]
  simp only [ne_eq, setting?_eq_some, not_exists, not_and, not_not]
  exact ⟨fun none_ text own => none_ _ text own rfl, fun blank _ text own same =>
    same ▸ blank text own⟩

namespace Vendor

/-- A vendor is known by its name in lower case, whatever blanks stand around it. -/
theorem Name.ofText_eq_ok {text : String} {vendor : Name} :
    ofText text = .ok vendor ↔
      String.ofList ((Blank.trim text).toList.map Char.toLower) = vendor.toText := by
  cases vendor
  simp [ofText, toText]

namespace Fastly

section Build
variable {s other : VendorSettings} {site : String}

theorem validates_iff : validates s = true ↔
    ∃ serviceId token, s.setting? "service_id" = some serviceId ∧
      s.setting? "token" = some token := by
  simp only [validates, Bool.and_eq_true, Option.isSome_iff_exists, exists_and_left,
    exists_and_right]

theorem ofSettings_of_not_validates (rejected : validates s = false) (site : String) :
    ∃ text, ofSettings s site = .error (.configuration text) := by
  rw [validates, Bool.and_eq_false_iff, Option.isSome_eq_false_iff, Option.isSome_eq_false_iff,
    Option.isNone_iff_eq_none, Option.isNone_iff_eq_none] at rejected
  rw [ofSettings]
  cases id : s.setting? "service_id" with
  | none => exact ⟨_, rfl⟩
  | some serviceId =>
      rw [id] at rejected
      have absent : s.setting? "token" = none := rejected.resolve_left (Option.some_ne_none _)
      rw [absent]
      exact ⟨_, rfl⟩

theorem ofSettings_of_validates (accepted : validates s = true) (site : String) :
    (∃ v, Url.parse ((s.setting? "api_base").getD defaultApiBase) = .ok v.apiBase ∧
        ofSettings s site = .ok v) ∨
      ∃ e, Url.parse ((s.setting? "api_base").getD defaultApiBase) = .error e ∧
        ofSettings s site = .error (.invalidUrl e) := by
  obtain ⟨serviceId, token, id, own⟩ := validates_iff.mp accepted
  rw [ofSettings, id, own]
  cases Url.parse ((s.setting? "api_base").getD defaultApiBase) with
  | ok api => exact .inl ⟨_, rfl, rfl⟩
  | error e => exact .inr ⟨e, rfl, rfl⟩

/-- The API's own URL can be read. -/
theorem parse_defaultApiBase : ∃ api, Url.parse defaultApiBase = .ok api :=
  ⟨⟨"https", some ⟨"", none, some (.domain "api.fastly.com"), none⟩, .rooted [""], none, none⟩,
    by decide +kernel⟩

theorem parse_apiBase_eq_error {e : UrlError} :
    Url.parse ((s.setting? "api_base").getD defaultApiBase) = .error e ↔
      ∃ base, s.setting? "api_base" = some base ∧ Url.parse base = .error e := by
  cases s.setting? "api_base" with
  | none =>
      obtain ⟨api, parsed⟩ := parse_defaultApiBase
      simp [parsed]
  | some base => simp

theorem ofSettings_congr (same : ∀ name, s.setting? name = other.setting? name) :
    validates s = validates other ∧ ofSettings s site = ofSettings other site := by
  simp only [validates, ofSettings, same, true_and]

end Build

end Fastly

section Names
variable {vendor : Name} {s : VendorSettings} {site : String}

theorem Name.build_configuration_iff :
    (∃ text, vendor.build s site = .error (.configuration text)) ↔
      vendor.validates s = false := by
  cases vendor
  rw [Name.build, Name.validates]
  cases accepted : Fastly.validates s with
  | false => exact iff_of_true (Fastly.ofSettings_of_not_validates accepted site) rfl
  | true =>
      refine iff_of_false ?_ Bool.true_eq_false.mp
      rintro ⟨text, failed⟩
      rcases Fastly.ofSettings_of_validates accepted site with ⟨v, -, built⟩ | ⟨e, -, unread⟩
      · rw [built] at failed
        cases failed
      · rw [unread] at failed
        cases failed

theorem Name.build_invalidUrl_iff {e : UrlError} :
    vendor.build s site = .error (.invalidUrl e) ↔ vendor.validates s = true ∧
      ∃ base, s.setting? "api_base" = some base ∧ Url.parse base = .error e := by
  cases vendor
  rw [Name.build, Name.validates, ← Fastly.parse_apiBase_eq_error]
  cases accepted : Fastly.validates s with
  | false =>
      obtain ⟨text, failed⟩ := Fastly.ofSettings_of_not_validates accepted site
      simp [failed]
  | true =>
      rcases Fastly.ofSettings_of_validates accepted site with
        ⟨v, read, built⟩ | ⟨_, unread, failed⟩
      · simp [read, built]
      · simp [unread, failed]

/-- Building fails by what the check rejects or by the URL of the API, and by nothing else. -/
theorem Name.build_error {fault : Fault} (failed : vendor.build s site = .error fault) :
    (∃ text, fault = .configuration text) ∨ ∃ e, fault = .invalidUrl e := by
  cases vendor
  rw [Name.build] at failed
  cases accepted : Fastly.validates s with
  | false =>
      obtain ⟨text, missing⟩ := Fastly.ofSettings_of_not_validates accepted site
      exact .inl ⟨text, Except.error.inj (failed.symm.trans missing)⟩
  | true =>
      rcases Fastly.ofSettings_of_validates accepted site with ⟨v, -, built⟩ | ⟨e, -, unread⟩
      · rw [built] at failed
        cases failed
      · exact .inr ⟨e, Except.error.inj (failed.symm.trans unread)⟩

theorem select_eq_some_iff_build {v : Backend} :
    select (some s) site = some v ↔
      ∃ vendor, Name.ofText s.vendor = .ok vendor ∧ vendor.build s site = .ok v := by
  rw [select_eq_some]
  refine ⟨fun chosen => ⟨.fastly, chosen⟩, ?_⟩
  rintro ⟨vendor, chosen⟩
  cases vendor
  exact chosen

end Names

/-- Settings that differ only in a blank URL of the API, which one of them does not have. -/
structure BlankApiBase (s without : VendorSettings) : Prop where
  vendor : without.vendor = s.vendor
  others : ∀ name ≠ "api_base", without.settings.get? name = s.settings.get? name
  absent : without.settings.get? "api_base" = none
  blank : ∀ text, s.settings.get? "api_base" = some text → Blank.trim text = ""

theorem BlankApiBase.setting? {s without : VendorSettings} (blank : BlankApiBase s without)
    (name : String) : s.setting? name = without.setting? name := by
  by_cases own : name = "api_base"
  · subst own
    have unset : ∀ text, without.settings.get? "api_base" = some text → Blank.trim text = "" := by
      intro text found
      rw [blank.absent] at found
      cases found
    rw [VendorSettings.setting?_eq_none.mpr blank.blank, VendorSettings.setting?_eq_none.mpr unset]
  · rw [VendorSettings.setting?, VendorSettings.setting?, blank.others name own]

theorem BlankApiBase.build_eq {s without : VendorSettings} (blank : BlankApiBase s without)
    (vendor : Name) (site : String) :
    vendor.validates s = vendor.validates without ∧
      vendor.build s site = vendor.build without site := by
  cases vendor
  exact Fastly.ofSettings_congr blank.setting?

theorem BlankApiBase.select_eq {s without : VendorSettings} (blank : BlankApiBase s without)
    (site : String) : select (some s) site = select (some without) site := by
  ext v
  rw [select_eq_some_iff_build, select_eq_some_iff_build, blank.vendor]
  refine exists_congr fun vendor => and_congr_right fun _ => ?_
  rw [(blank.build_eq vendor site).2]

/-- A backend is selected just if there are settings, their vendor is known by its name in lower
case without the blanks around it, and the vendor's backend can be built from them, which is the one
selected. It cannot be built for want of a setting just if the check rejects the settings, and else
just if the URL of the API is given and cannot be read. A blank URL of the API is as good as
none. -/
theorem selection_agrees (settings : Option VendorSettings) (site : String) :
    (∀ v, select settings site = some v ↔
      ∃ s, ∃ vendor : Name, settings = some s ∧
        String.ofList ((Blank.trim s.vendor).toList.map Char.toLower) = vendor.toText ∧
        vendor.build s site = .ok v) ∧
    ∀ (vendor : Name) (s : VendorSettings),
      ((∃ text, vendor.build s site = .error (.configuration text)) ↔
        vendor.validates s = false) ∧
      (∀ e, vendor.build s site = .error (.invalidUrl e) ↔ vendor.validates s = true ∧
        ∃ text, s.settings.get? "api_base" = some text ∧ Blank.trim text ≠ "" ∧
          Url.parse (Blank.trim text) = .error e) ∧
      (∀ fault, vendor.build s site = .error fault →
        (∃ text, fault = .configuration text) ∨ ∃ e, fault = .invalidUrl e) ∧
      (∀ v, vendor.build s site = .ok v → vendor.validates s = true) ∧
      ∀ without, BlankApiBase s without →
        vendor.validates s = vendor.validates without ∧
          vendor.build s site = vendor.build without site ∧
          select (some s) site = select (some without) site := by
  refine ⟨fun v => ?_, fun vendor s => ⟨Name.build_configuration_iff, fun e => ?_,
    fun fault failed => Name.build_error failed, fun v built => ?_, fun without blank => ?_⟩⟩
  · cases settings with
    | none => simp [select]
    | some s =>
        rw [select_eq_some_iff_build]
        simp only [Name.ofText_eq_ok, Option.some.injEq]
        constructor
        · rintro ⟨vendor, named, built⟩
          exact ⟨s, vendor, rfl, named, built⟩
        · rintro ⟨_, vendor, rfl, named, built⟩
          exact ⟨vendor, named, built⟩
  · rw [Name.build_invalidUrl_iff]
    refine and_congr_right fun _ => ?_
    simp only [VendorSettings.setting?_eq_some]
    constructor
    · rintro ⟨_, ⟨text, own, rfl, nonblank⟩, unread⟩
      exact ⟨text, own, nonblank, unread⟩
    · rintro ⟨text, own, nonblank, unread⟩
      exact ⟨_, ⟨text, own, rfl, nonblank⟩, unread⟩
  · by_contra rejected
    obtain ⟨text, failed⟩ := Name.build_configuration_iff.mpr (Bool.eq_false_iff.mpr rejected)
    rw [built] at failed
    cases failed
  · obtain ⟨validates, builds⟩ := blank.build_eq vendor site
    exact ⟨validates, builds, blank.select_eq site⟩

/-- A vendor's name in another spelling with a blank URL of the API, a URL of no scheme, and no
settings but the vendor. -/
theorem selection_agrees_blank :
    let s := ((VendorSettings.ofVendor " Fastly\n").withSetting "service_id" "service").withSetting
      "token" "token"
    let blank := s.withSetting "api_base" "\u3000\t"
    let unread := s.withSetting "api_base" "::no url::"
    (∃ v, select (some s) "site-a" = some v ∧ select (some blank) "site-a" = some v) ∧
    Name.fastly.build unread "site-a" = .error (.invalidUrl .relativeWithoutBase) ∧
    (∀ v, select (some unread) "site-a" ≠ some v) ∧
    ∃ text, Name.fastly.build (.ofVendor "fastly") "site-a" = .error (.configuration text) := by
  intro s blank unread
  have without : BlankApiBase blank s := by
    have entries : blank.settings.entries = ("api_base", "\u3000\t") :: s.settings.entries := by
      decide +kernel
    refine ⟨rfl, fun name other => ?_, by decide +kernel, fun text own => ?_⟩
    · rw [SettingTable.get?, SettingTable.get?, entries, List.find?_cons_of_neg]
      exact fun same => other (eq_of_beq same).symm
    · have found : blank.settings.get? "api_base" = some "\u3000\t" := by decide +kernel
      obtain rfl := Option.some.inj (found.symm.trans own)
      decide +kernel
  obtain ⟨selects, agrees⟩ := selection_agrees (some unread) "site-a"
  obtain ⟨-, unbuilt, -, -, -⟩ := agrees .fastly unread
  have failed := (unbuilt .relativeWithoutBase).mpr
    ⟨by decide +kernel, "::no url::", by decide +kernel, by decide +kernel, by decide +kernel⟩
  obtain ⟨-, agrees⟩ := selection_agrees (some s) "site-a"
  obtain ⟨-, -, -, -, same⟩ := agrees .fastly blank
  obtain ⟨missing, -⟩ := agrees .fastly (.ofVendor "fastly")
  obtain ⟨v, selected⟩ : ∃ v, select (some s) "site-a" = some v := by
    rw [← Option.isSome_iff_exists]
    decide +kernel
  refine ⟨⟨v, selected, (same s without).2.2.trans selected⟩, failed, fun v selected => ?_,
    missing.mpr (by decide +kernel)⟩
  obtain ⟨own, vendor, given, -, built⟩ := (selects v).mp selected
  cases vendor
  rw [← Option.some.inj given, failed] at built
  cases built

end Vendor
end CachePurge
