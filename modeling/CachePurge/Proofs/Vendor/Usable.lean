import CachePurge.Proofs.Fleet.TagRequest
import CachePurge.Proofs.Vendor.Batch

/-!
From which settings requests to the API can be built. A backend is selected if the settings have
what it asks for and the URL of the API can be read. Whether the token may stand in a header and the
URL can be extended is seen only when a request is built, and then every batch fails without one.
-/

namespace CachePurge.Vendor

variable {ε : Type}

/-- The token may stand in a header, and the path of the API's URL, or of the one that stands for
it, can be extended. -/
def Usable (settings : VendorSettings) : Prop :=
  (∃ token, settings.setting? "token" = some token ∧ Header.isValue token = true) ∧
    ∃ api own, Url.parse ((settings.setting? "api_base").getD "https://api.fastly.com") = .ok api ∧
      api.path = .rooted own

theorem Fastly.ofSettings_eq_ok {settings : VendorSettings} {site : String} {v : Fastly} :
    ofSettings settings site = .ok v ↔
      settings.setting? "service_id" = some v.serviceId ∧
        settings.setting? "token" = some v.token ∧
        Url.parse ((settings.setting? "api_base").getD "https://api.fastly.com") = .ok v.apiBase ∧
        v.site = site := by
  obtain ⟨apiBase, serviceId, token, own⟩ := v
  rw [ofSettings, defaultApiBase]
  cases settings.setting? "service_id" with
  | none => simp
  | some serviceId' =>
      cases settings.setting? "token" with
      | none => simp
      | some token' =>
          cases Url.parse ((settings.setting? "api_base").getD "https://api.fastly.com") with
          | error e => simp
          | ok api =>
              simp only [Except.ok.injEq, Fastly.mk.injEq, Option.some.injEq]
              constructor
              · rintro ⟨base, id, token, site⟩
                exact ⟨id, token, base, site.symm⟩
              · rintro ⟨id, token, base, site⟩
                exact ⟨base, id, token, site.symm⟩

/-- A backend is selected just if the settings name its vendor and make it. -/
theorem select_eq_some {settings : VendorSettings} {site : String} {v : Backend} :
    select (some settings) site = some v ↔
      Name.ofText settings.vendor = .ok .fastly ∧ Fastly.ofSettings settings site = .ok v := by
  simp only [select, Option.bind_eq_bind, Option.bind_some]
  cases Name.ofText settings.vendor with
  | error fault => simp
  | ok vendor =>
      cases vendor
      have complete : Fastly.ofSettings settings site = .ok v →
          Name.fastly.validates settings = true := by
        intro built
        obtain ⟨id, token, -, -⟩ := Fastly.ofSettings_eq_ok.mp built
        rw [Name.validates, Fastly.validates, id, token]
        rfl
      simp only [true_and]
      split
      · rw [Name.build]
        cases Fastly.ofSettings settings site <;> simp [Except.toOption]
      · next incomplete =>
          exact iff_of_false (Option.some_ne_none v).symm (mt complete incomplete)

theorem canSend_iff_usable {settings : VendorSettings} {site : String} {v : Backend}
    (selected : select (some settings) site = some v) : v.CanSend ↔ Usable settings := by
  obtain ⟨-, built⟩ := select_eq_some.mp selected
  obtain ⟨-, token, api, -⟩ := Fastly.ofSettings_eq_ok.mp built
  rw [Fastly.CanSend, Usable, token, api]
  simp only [Option.some.injEq, Except.ok.injEq, exists_eq_left', exists_and_left]

/-- What is posted to the API has headers that may stand in a request. -/
theorem legal_of_wholePurge? {v : Backend} {batch : List Invalidation} {kind : Kind}
    {request : Http.Request} (built : wholePurge? v batch kind = some request) :
    request.method = "POST" ∧ ∀ header ∈ request.headers, Header.isValue header.2 = true := by
  have posted : ∀ {segments keys}, (∀ key ∈ keys, Header.isValue key.2 = true) →
      post? v segments keys = some request →
        request.method = "POST" ∧ ∀ header ∈ request.headers, Header.isValue header.2 = true := by
    intro segments keys legal built
    rw [post?] at built
    split at built
    · cases built
    · split at built
      · next token =>
          obtain rfl := Option.some.inj built
          refine ⟨rfl, List.forall_mem_append.mpr ⟨legal, ?_⟩⟩
          exact List.forall_mem_cons.mpr ⟨token, List.forall_mem_singleton.mpr (by decide)⟩
      · cases built
  cases kind with
  | tag =>
      refine posted (List.forall_mem_singleton.mpr ?_) built
      exact Header.isValue_intercalate fun key among =>
        Header.isValue_of_isKey (Fastly.isKey_digests among)
  | everything => exact posted (fun _ among => absurd among List.not_mem_nil) built
  | url | wildcardUrl => cases built

section Call
variable (s : Surroundings ε) {settings : VendorSettings} {site : String} {v : Backend}
  (selected : select (some settings) site = some v) {f : Forwarder ε} (chosen : f.backend = some v)
  (isOpen : f.gate.health (s.clock f.outside) = none) {kind : Kind}
  (whole : kind = .tag ∨ kind = .everything) {batch : List Invalidation} (nonempty : batch ≠ [])
  (unsettled : ∀ inv ∈ batch, inv.isTerminal = false)
include selected chosen isOpen whole nonempty unsettled

/-- A batch of tags or for the site, of which nothing is settled yet, given to the handler of a
backend that was selected by some settings, and whose gate is open. If the token of the settings may
stand in a header and the URL of the API can be extended, then one request is given to the client,
with headers that may stand in it. Else nothing is sent: the batch fails, but the call reports no
fault. -/
theorem sends_iff_usable :
    let run := (purger s).call kind batch f
    (Usable settings → ∃ request, run.2.requests = f.requests ++ [request] ∧
      request.method = "POST" ∧ ∀ header ∈ request.headers, Header.isValue header.2 = true) ∧
    (¬Usable settings →
      run.2.requests = f.requests ∧ run.1 = (batch.map Invalidation.fail, .done)) := by
  obtain ⟨answer, success, asked, -, listed, left, succeeded, -, -⟩ :=
    call_whole s chosen isOpen whole nonempty unsettled
  have unbuilt := wholePurge?_eq_none v batch whole
  rw [canSend_iff_usable selected, ← asked, Option.map_eq_none_iff] at unbuilt
  constructor
  · intro usable
    obtain ⟨x, rfl⟩ := Option.ne_none_iff_exists'.mp (mt unbuilt.mp (not_not.mpr usable))
    exact ⟨x.request, listed, legal_of_wholePurge? asked.symm⟩
  · intro unusable
    obtain rfl := unbuilt.mpr unusable
    obtain rfl : success = false := by simpa using succeeded
    refine ⟨listed.trans (List.append_nil _), left.trans ?_⟩
    refine congrArg (·, Ending.done) (List.map_congr_left fun inv among => ?_)
    rw [Invalidation.fail, Invalidation.advance, State.advance_failed (unsettled inv among)]
    rfl

end Call

/-- The URL of an API that is an address for mail has no path to extend: a backend is selected all
the same, but fails a tag without sending anything. The API's own URL serves. -/
theorem sends_iff_usable_mail :
    let settings := ((VendorSettings.ofVendor "fastly").withSetting "service_id"
      "service").withSetting "token" "token"
    let tag := Invalidation.ofId 1 .tag "a"
    let call := fun v : Backend => (purger Rehearsal.surroundings).call .tag [tag]
      { Forwarder.start ⟨[], "site-a", none, Rehearsal.opening, [], [], true⟩ with backend := v }
    (∃ v, select (some settings) "site-a" = some v ∧
      ∃ request, (call v).2.requests = [request] ∧ request.method = "POST") ∧
    ∃ v, select (some (settings.withSetting "api_base" "mailto:purge@example.com")) "site-a" =
        some v ∧
      (call v).2.requests = [] ∧ (call v).1 = ([tag.fail], .done) := by
  intro settings tag call
  let mail := settings.withSetting "api_base" "mailto:purge@example.com"
  let f : Backend → Forwarder Rehearsal := fun v =>
    { Forwarder.start ⟨[], "site-a", none, Rehearsal.opening, [], [], true⟩ with backend := v }
  have reads (text : String) (path : Url.Path)
      (found : (Url.parse text).toOption.map (·.path) = some path) :
      ∃ api, Url.parse text = .ok api ∧ api.path = path := by
    cases parsed : Url.parse text with
    | error e =>
        rw [parsed] at found
        cases found
    | ok api =>
        rw [parsed] at found
        exact ⟨api, rfl, Option.some.inj found⟩
  have usable : Usable settings := by
    obtain ⟨api, parsed, path⟩ := reads "https://api.fastly.com" (.rooted [""])
      (by decide +kernel)
    have base : settings.setting? "api_base" = none := by decide +kernel
    refine ⟨⟨"token", by decide +kernel, by decide⟩, api, [""], ?_, path⟩
    rw [base]
    exact parsed
  have unusable : ¬Usable mail := by
    rintro ⟨-, api, own, parsed, rooted⟩
    obtain ⟨api', parsed', plain⟩ := reads "mailto:purge@example.com"
      (.plain "purge@example.com") (by decide +kernel)
    have base : mail.setting? "api_base" = some "mailto:purge@example.com" := by decide +kernel
    rw [base, Option.getD_some, parsed'] at parsed
    obtain rfl := Except.ok.inj parsed
    rw [plain] at rooted
    cases rooted
  have selects : ∀ own ∈ [settings, mail], ∃ v, select (some own) "site-a" = some v := by
    simp only [← Option.isSome_iff_exists]
    decide +kernel
  obtain ⟨v, selected⟩ := selects settings (by simp)
  obtain ⟨w, selected'⟩ := selects mail (by simp)
  obtain ⟨sends, -⟩ := sends_iff_usable Rehearsal.surroundings selected (f := f v) rfl rfl
    (.inl rfl) (List.cons_ne_nil tag []) (by decide)
  obtain ⟨-, fails⟩ := sends_iff_usable Rehearsal.surroundings selected' (f := f w) rfl rfl
    (.inl rfl) (List.cons_ne_nil tag []) (by decide)
  obtain ⟨request, sent, posts, -⟩ := sends usable
  exact ⟨⟨v, selected, request, sent, posts⟩, w, selected', fails unusable⟩

end CachePurge.Vendor
