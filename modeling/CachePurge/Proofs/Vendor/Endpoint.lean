import CachePurge.Proofs.Vendor.Keys

/-!
Which service an endpoint of the API addresses. The endpoint is the API's URL with further segments,
one of which is the service's id. That can be read again from the endpoint just when appending it
drops nothing and resolves nothing.
-/

namespace CachePurge.Vendor

open Url.Path (standing bytes room push Plain)

/-- The segments of a path without an empty one at its end. -/
def withoutLastEmpty (own : List String) : List String :=
  if own.getLast? = some "" then own.dropLast else own

namespace Fastly

/-- What is left of a segment when the next one stands for the place above. -/
def above (kept : List String) : List String := if kept.isEmpty then [] else [""]

/-- The segment that is written for a text. One that stands for the place itself is resolved. -/
def written (set : List Char) (text : List Char) : String :=
  if text = ['.'] then "" else String.ofList (Percent.encode set text)

/-- The segments between those of the API's URL and those of a purge, by what stands for the id of
the service. -/
def serviceSegments (set : List Char) (kept : List String) : Option (List Char) → List String
  | none => ["service"]
  | some text => if text = ['.', '.'] then above kept else ["service", written set text]

theorem plain_service (url : Url) : Plain url.segmentSet "service" :=
  Url.Path.plain_of_lower url (by decide)

theorem plain_purge (url : Url) : Plain url.segmentSet "purge" :=
  Url.Path.plain_of_lower url (by decide)

theorem plain_of_digits (url : Url) {segments : List String}
    (digits : ∀ segment ∈ segments, ∀ c ∈ segment.toList, c ∈ Hex.lowerDigits) :
    ∀ segment ∈ segments, Plain url.segmentSet segment := by
  have lower : Hex.lowerDigits.all (Url.Path.lowers.contains ·) = true := by decide
  intro segment among
  refine Url.Path.plain_of_lower url (List.all_eq_true.mpr fun c inside => ?_)
  exact List.all_eq_true.mp lower c (digits segment among c inside)

theorem room_append_of_ne {kept : List String} {segment : String} (other : segment ≠ "") :
    room (kept ++ [segment]) = kept ++ [segment] :=
  Url.Path.room_of_ne fun only => other (by simpa using congrArg List.getLast? only)

theorem push_serviceId (set : List Char) (kept : List String) (serviceId : String) :
    room (push set (kept ++ ["service"]) serviceId) =
      kept ++ serviceSegments set kept (standing serviceId) := by
  have full : room (kept ++ ["service"]) = kept ++ ["service"] := room_append_of_ne (by decide)
  have left : Url.Path.leave (kept ++ ["service"]) = kept := by
    have drive : Url.Path.isDriveLetter "service".toList = false := by decide
    rw [Url.Path.leave, List.getLast?_concat, Option.any_some, drive, if_neg Bool.false_ne_true,
      List.dropLast_concat]
  rw [Url.Path.push_eq, full]
  split
  · next own => rw [own, full, serviceSegments]
  · next own =>
      rw [own, serviceSegments, if_neg (by decide), written, if_pos rfl, List.append_assoc]
      exact Url.Path.room_of_length (by simp)
  · next own =>
      rw [own, serviceSegments, if_pos rfl, left, above]
      cases kept with
      | nil => rfl
      | cons first rest => exact Url.Path.room_of_length (by simp)
  · next text notHere notAbove own =>
      rw [own, serviceSegments, if_neg notAbove, written, if_neg notHere, List.append_assoc]
      exact Url.Path.room_of_length (by simp)

/-- The path of an endpoint. -/
theorem foldl_push_endpoint (url : Url) (own : List String) (serviceId : String)
    {segments : List String}
    (digits : ∀ segment ∈ segments, ∀ c ∈ segment.toList, c ∈ Hex.lowerDigits) :
    (["service", serviceId, "purge"] ++ segments).foldl (push url.segmentSet) own =
      room own ++ serviceSegments url.segmentSet (room own) (standing serviceId) ++
        ["purge"] ++ segments := by
  rw [List.foldl_append, List.foldl_cons, List.foldl_cons, List.foldl_cons, List.foldl_nil,
    Url.Path.push_plain _ (plain_service url), Url.Path.push_plain _ (plain_purge url),
    push_serviceId]
  exact Url.Path.foldl_push_plain (plain_of_digits url digits)
    (List.append_ne_nil_of_right_ne_nil _ (List.cons_ne_nil _ _)) (room_append_of_ne (by decide))

theorem above_ne (kept rest : List String) : above kept ≠ "service" :: rest := by
  rw [above]
  split <;> simp

theorem length_serviceSegments (set : List Char) (kept : List String) (left : Option (List Char)) :
    (serviceSegments set kept left).length ≤ 2 := by
  cases left with
  | none => exact Nat.le_succ 1
  | some text =>
      rw [serviceSegments, above]
      split
      · split <;> decide
      · exact Nat.le_refl 2

section Bytes
variable {set : List Char} (marks : '%' ∈ set)
include marks

theorem bytes_encode (text : List Char) :
    bytes (String.ofList (Percent.encode set text)) = utf8 (String.ofList text) := by
  rw [bytes, utf8, String.toList_ofList, String.toList_ofList, Percent.decode_encode marks]

/-- The id of the service is read again just when all of it stands. -/
theorem bytes_serviceSegments (plain : Plain set "service") (kept : List String)
    (serviceId : String) :
    (serviceSegments set kept (standing serviceId)).map bytes = [utf8 "service", utf8 serviceId] ↔
      standing serviceId = some serviceId.toList := by
  have service := Url.Path.bytes_plain marks plain
  cases own : standing serviceId with
  | none => simp [serviceSegments]
  | some text =>
      have whole : text = serviceId.toList → text ≠ ['.'] ∧ text ≠ ['.', '.'] := by
        rintro rfl
        obtain ⟨here, above, -⟩ := Url.Path.standing_eq_self_iff.mp own
        exact ⟨fun dot => here (String.toList_inj.mp dot),
          fun dots => above (String.toList_inj.mp dots)⟩
      rw [serviceSegments, Option.some.injEq]
      by_cases dots : text = ['.', '.']
      · rw [if_pos dots, above]
        refine iff_of_false ?_ fun same => (whole same).2 dots
        split <;> simp
      · rw [if_neg dots, written]
        simp only [List.map_cons, List.map_nil, service, List.cons.injEq, true_and, and_true]
        by_cases dot : text = ['.']
        · rw [if_pos dot]
          refine iff_of_false (fun empty => ?_) fun same => (whole same).1 dot
          have blank : serviceId = "" := utf8_injective empty.symm
          rw [blank, dot] at own
          exact absurd own (by decide)
        · rw [if_neg dot, bytes_encode marks, utf8_injective.eq_iff, ← String.toList_inj,
            String.toList_ofList]

theorem written_inj {text text' : List Char} (nonempty : text ≠ []) (nonempty' : text' ≠ [])
    (same : written set text = written set text') : text = text' := by
  have unempty : ∀ text, text ≠ [] → String.ofList (Percent.encode set text) ≠ "" := by
    intro text nonempty empty
    exact nonempty (Percent.encode_injective marks (String.ofList_eq_empty_iff.mp empty))
  rw [written, written] at same
  split at same <;> split at same
  · next dot dot' => rw [dot, dot']
  · exact absurd same.symm (unempty _ nonempty')
  · exact absurd same (unempty _ nonempty)
  · exact Percent.encode_injective marks (String.ofList_inj.mp same)

theorem serviceSegments_inj {kept : List String} {a b : Option (List Char)}
    (nonempty : a ≠ some []) (nonempty' : b ≠ some []) :
    serviceSegments set kept a = serviceSegments set kept b ↔ a = b := by
  refine ⟨fun same => ?_, congrArg _⟩
  cases a with
  | none =>
      cases b with
      | none => rfl
      | some text' =>
          rw [serviceSegments, serviceSegments] at same
          split at same
          · exact absurd same.symm (above_ne kept _)
          · cases same
  | some text =>
      cases b with
      | none =>
          rw [serviceSegments, serviceSegments] at same
          split at same
          · exact absurd same (above_ne kept _)
          · cases same
      | some text' =>
          rw [serviceSegments, serviceSegments] at same
          split at same <;> split at same
          · next dots dots' => rw [dots, dots']
          · exact absurd same (above_ne kept _)
          · exact absurd same.symm (above_ne kept _)
          · have own := (List.cons.inj (List.cons.inj same).2).1
            rw [written_inj marks (fun empty => nonempty (congrArg some empty))
              (fun empty => nonempty' (congrArg some empty)) own]

end Bytes

/-- A mark that stands in neither of two lists divides what stands before them. -/
theorem append_cons_right_inj {α : Type} {mark : α} {before before' after after' : List α}
    (apart : mark ∉ after) (apart' : mark ∉ after') :
    before ++ mark :: after = before' ++ mark :: after' ↔ before = before' ∧ after = after' := by
  refine ⟨fun same => ?_, fun ⟨first, last⟩ => by rw [first, last]⟩
  rcases List.append_eq_append_iff.mp same with ⟨between, rfl, rest⟩ | ⟨between, rfl, rest⟩
  · rcases List.cons_eq_append_iff.mp rest with ⟨rfl, tails⟩ | ⟨others, rfl, rfl⟩
    · exact ⟨(List.append_nil before).symm, (List.cons.inj tails).2.symm⟩
    · exact absurd (List.mem_append_right others List.mem_cons_self) apart
  · rcases List.cons_eq_append_iff.mp rest with ⟨rfl, tails⟩ | ⟨others, rfl, rfl⟩
    · exact ⟨List.append_nil before', (List.cons.inj tails).2⟩
    · exact absurd (List.mem_append_right others List.mem_cons_self) apart'

theorem room_dropEmptyLast {own : List String} (other : own ≠ ["", ""]) :
    room (Url.Path.dropEmptyLast own) = withoutLastEmpty own := by
  rcases own with _ | ⟨first, _ | ⟨second, rest⟩⟩
  · rfl
  · rw [Url.Path.dropEmptyLast, room, withoutLastEmpty, List.getLast?_singleton]
    by_cases empty : first = "" <;> simp [empty]
  · have several : Url.Path.dropEmptyLast (first :: second :: rest) =
        if (first :: second :: rest).getLast? == some "" then (first :: second :: rest).dropLast
        else first :: second :: rest := rfl
    rw [several, withoutLastEmpty]
    simp only [beq_iff_eq]
    split
    · next empty =>
        refine Url.Path.room_of_ne fun only => other ?_
        obtain rfl : rest = [] := by simpa using congrArg List.length only
        obtain rfl : first = "" := (List.cons.inj only).1
        obtain rfl : second = "" := Option.some.inj empty
        rfl
    · exact Url.Path.room_of_length (by simp)

section Endpoint
variable (v : Fastly) {own : List String} (rooted : v.apiBase.path = .rooted own)
  {segments : List String}
  (digits : ∀ segment ∈ segments, ∀ c ∈ segment.toList, c ∈ Hex.lowerDigits)
include rooted digits

theorem endpoint_eq : v.endpoint segments = .ok { v.apiBase with
    path := .rooted (room (Url.Path.dropEmptyLast own) ++ serviceSegments v.apiBase.segmentSet
      (room (Url.Path.dropEmptyLast own)) (standing v.serviceId) ++ ["purge"] ++ segments) } := by
  rw [endpoint_rooted v rooted, foldl_push_endpoint v.apiBase _ v.serviceId digits]

theorem bytes_endpoint :
    (room (Url.Path.dropEmptyLast own) ++ serviceSegments v.apiBase.segmentSet
        (room (Url.Path.dropEmptyLast own)) (standing v.serviceId) ++ ["purge"] ++ segments).map
          bytes =
      (withoutLastEmpty own).map bytes ++ (["service", v.serviceId, "purge"] ++ segments).map utf8 ↔
    standing v.serviceId = some v.serviceId.toList ∧ own ≠ ["", ""] := by
  have marks := v.apiBase.mem_segmentSet
  have purge := Url.Path.bytes_plain marks (plain_purge v.apiBase)
  have rest : segments.map bytes = segments.map utf8 := List.map_congr_left fun segment among =>
    Url.Path.bytes_plain marks (plain_of_digits v.apiBase digits segment among)
  have tails : ∀ before : List String, (before ++ ["purge"] ++ segments).map bytes =
      before.map bytes ++ (["purge"] ++ segments).map utf8 := by
    intro before
    simp only [List.map_append, List.append_assoc, List.map_singleton, purge, rest]
  have service := bytes_serviceSegments marks (plain_service v.apiBase)
    (room (Url.Path.dropEmptyLast own)) v.serviceId
  have split : (["service", v.serviceId, "purge"] ++ segments).map utf8 =
      [utf8 "service", utf8 v.serviceId] ++ (["purge"] ++ segments).map utf8 := rfl
  rw [tails, split, ← List.append_assoc, List.append_cancel_right_eq, List.map_append]
  by_cases slashes : own = ["", ""]
  · refine iff_of_false (fun same => ?_) fun both => both.2 slashes
    have short := length_serviceSegments v.apiBase.segmentSet (room (Url.Path.dropEmptyLast own))
      (standing v.serviceId)
    have length := congrArg List.length same
    subst slashes
    simp only [List.length_append, List.length_map, List.length_cons, List.length_nil] at length
    exact absurd (length ▸ Nat.add_le_add_left short _) (by decide)
  · rw [room_dropEmptyLast slashes] at service ⊢
    rw [List.append_cancel_left_eq, service]
    exact (and_iff_left slashes).symm

/-- For an API whose URL has a path, and for a service whose id is not blank. The endpoint of a
purge, or of a key in hexadecimal digits, is the URL of the API but for its path. The segments of
the path read as those of the API, without an empty last one, and then "service", the id, "purge"
and the key, provided that the id is no dot and no two dots, has no tabs and no line ends, and the
path of the API is not two slashes. Two services have an endpoint in common only if what is left of
their ids without tabs and line ends is the same, or both ids are a dot or two. -/
theorem endpoint_addresses (nonblank : Blank.trim v.serviceId ≠ "") :
    (∃ all, v.endpoint segments = .ok { v.apiBase with path := .rooted all } ∧
      (all.map bytes = (withoutLastEmpty own).map bytes ++
          (["service", v.serviceId, "purge"] ++ segments).map utf8 ↔
        (v.serviceId ≠ "." ∧ v.serviceId ≠ ".." ∧
          ∀ c ∈ v.serviceId.toList, Url.Path.isTabOrBreak c = false) ∧ own ≠ ["", ""])) ∧
    ∀ (other : String) (others : List String), Blank.trim other ≠ "" →
      (∀ segment ∈ others, ∀ c ∈ segment.toList, c ∈ Hex.lowerDigits) →
      (v.endpoint segments = { v with serviceId := other }.endpoint others ↔
        standing v.serviceId = standing other ∧ segments = others) := by
  refine ⟨⟨_, endpoint_eq v rooted digits, ?_⟩, fun other others nonblank' digits' => ?_⟩
  · rw [bytes_endpoint v rooted digits, Url.Path.standing_eq_self_iff]
  · have unmarked : ∀ {keys : List String},
        (∀ key ∈ keys, ∀ c ∈ key.toList, c ∈ Hex.lowerDigits) → "purge" ∉ keys :=
      fun digits among => absurd (digits "purge" among 'p' (by decide)) (by decide)
    rw [endpoint_eq v rooted digits, endpoint_eq { v with serviceId := other } rooted digits']
    simp only [Except.ok.injEq, Url.mk.injEq, Url.Path.rooted.injEq, true_and, and_true,
      List.append_assoc, List.singleton_append, List.append_cancel_left_eq]
    rw [append_cons_right_inj (unmarked digits) (unmarked digits'),
      serviceSegments_inj v.apiBase.mem_segmentSet (Url.Path.nonempty_of_standing nonblank)
        (Url.Path.nonempty_of_standing nonblank')]

end Endpoint

/-- An id with a slash is read again from the endpoint; with a tab in it, it has the same one. -/
theorem endpoint_addresses_tab :
    let api : Url :=
      ⟨"https", some ⟨"", none, some (.domain "api.test"), none⟩, .rooted [""], none, none⟩
    let v : Fastly := ⟨api, "svc/1", "token", "site-a"⟩
    (∃ all, v.endpoint [] = .ok { api with path := .rooted all } ∧
      all.map bytes = ["service", "svc/1", "purge"].map utf8) ∧
    v.endpoint [] = { v with serviceId := "svc\t/1" }.endpoint [] := by
  intro api v
  have none : ∀ segment ∈ ([] : List String), ∀ c ∈ segment.toList, c ∈ Hex.lowerDigits :=
    fun _ among => absurd among List.not_mem_nil
  obtain ⟨⟨all, built, reads⟩, shares⟩ :=
    endpoint_addresses v (rfl : api.path = .rooted [""]) none (by decide +kernel)
  refine ⟨⟨all, built, ?_⟩, ?_⟩
  · have clean : v.serviceId.toList.all (Url.Path.isTabOrBreak · = false) = true := by decide
    refine reads.mpr ⟨⟨by decide, by decide, fun c inside => ?_⟩, by decide⟩
    exact of_decide_eq_true (List.all_eq_true.mp clean c inside)
  · exact (shares "svc\t/1" [] (by decide +kernel) none).mpr (by decide +kernel)

end Fastly
end CachePurge.Vendor
