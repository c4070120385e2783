import Inventory.Proofs.Client.Endpoint

/-!
# Records under their ids

A record is kept at the place of all records, under its id. The id is put into the address as it
is: nothing in it is escaped before the address is read as a URL. So an id stands for itself only if
it says nothing to a URL: two such ids never have their records kept at one place, but an id that
has a fragment, for one, names the place of another record. Main statements: `target_of_put` and
`put_targets_ne`.
-/

namespace Inventory.Client

open Url (Joins)
open Url.Segments (isPoint isTwoPoints)

variable {a : Account}

/-- The id says nothing to a URL: it has no backslash, no query and no fragment, nothing in it is
dropped or cut off at its end, and it has neither escapes nor segments of points. -/
structure IsInert (id : String) : Prop where
  isPlain : id.toList.all (fun c => c != '\\' && !Url.endsPath c && Url.isKept c) = true
  isTrimmed : id.toList.getLast?.all (!Url.isEdge ·) = true
  hasEscape : Url.Percent.hasEscape id.toList = false
  hasPoints : (Text.split Url.Kind.web.isSlash id.toList).any
    (fun part => isTwoPoints part || isPoint part) = false

namespace IsInert

variable {id : String} (h : IsInert id)
include h

theorem plain_of_mem : ∀ c ∈ id.toList,
    c ≠ '\\' ∧ Url.endsPath c = false ∧ Url.isKept c = true := by
  intro c hc
  simpa [and_assoc] using List.all_eq_true.1 h.isPlain c hc

theorem isPoint_of_mem : ∀ part ∈ Text.split Url.Kind.web.isSlash id.toList,
    isTwoPoints part = false ∧ isPoint part = false := by
  intro part hpart
  simpa using List.any_eq_false.1 h.hasPoints part hpart

/-- An inert id is clean. -/
theorem back_eq : Url.back id.toList = id.toList := by
  refine Url.back_eq_self (fun c hc => (h.plain_of_mem c hc).2.2) fun c hc => ?_
  simpa using (Option.all_eq_true _ _).1 h.isTrimmed c hc

theorem back_records_eq : Url.back (records ++ '/' :: id.toList) = records ++ '/' :: id.toList := by
  rw [Url.back_append fun c hc => (plain_of_mem_records c hc).1, Url.back_cons (by decide),
    h.back_eq]

theorem parts_eq : parts id.toList = Text.split Url.Kind.web.isSlash id.toList := by
  rw [parts, h.back_eq, List.takeWhile_eq_self_iff.2]
  intro c hc
  rw [(h.plain_of_mem c hc).2.1]
  rfl

/-- An inert id is put behind the place of all records as it is, escaped. -/
theorem pathOf_eq {bared : List Char} (hbared : Url.IsPath bared) :
    Url.pathOf .web (bared ++ '/' :: Url.back (records ++ '/' :: id.toList))
      = String.ofList (Url.spelled (Url.stack bared).reverse ++ ("/records/".toList
        ++ Url.Percent.escape Url.Percent.inPath id.toList)) := by
  have hslash : '\\' ∉ id.toList := fun hmem => (h.plain_of_mem _ hmem).1 rfl
  have hrecords : Url.spelled [records] = "/records".toList := by decide
  rw [pathOf_records hbared, h.parts_eq, Url.Segments.resolve_of_plain h.isPoint_of_mem,
    List.reverse_cons, Url.spelled_append, Url.spelled_append, Url.spelled_split hslash, hrecords,
    List.append_assoc]
  rfl

/-- It begins neither a query nor a fragment. -/
theorem endsPath_of_mem {bared : List Char} (hbared : Url.IsPath bared) :
    ∀ c ∈ bared ++ '/' :: (records ++ '/' :: id.toList), Url.endsPath c = false := by
  intro c hc
  rcases List.mem_append.1 hc with hc | hc
  · exact hbared.endsPath_of_mem c hc
  rcases List.mem_cons.1 hc with rfl | hc
  · rfl
  rcases List.mem_append.1 hc with hc | hc
  · exact (plain_of_mem_records c hc).2.2
  rcases List.mem_cons.1 hc with rfl | hc
  · rfl
  · exact (h.plain_of_mem c hc).2.1

/-- Inert ids that are escaped alike are one. -/
theorem escape_inj {other : String} (hother : IsInert other)
    (heq : Url.Percent.escape Url.Percent.inPath id.toList
      = Url.Percent.escape Url.Percent.inPath other.toList) : id = other := by
  have hbytes := congrArg Url.Percent.bytes heq
  rw [Url.Percent.bytes_escape (by decide) h.hasEscape,
    Url.Percent.bytes_escape (by decide) hother.hasEscape] at hbytes
  rw [← String.toByteArray_inj, ← String.toUTF8_eq_toByteArray, ← String.toUTF8_eq_toByteArray,
    Text.toUTF8_eq, Text.toUTF8_eq, hbytes]

end IsInert

/-- A record with an inert id is kept under the id, escaped, at a place that the account gives. -/
theorem target_of_put {base : Url} {more bared : List Char} (h : Joins a.address base more bared)
    (ht : Url.TakesPaths a.address base) {record : Record} (hid : IsInert record.id)
    {label : String} {store : Store} {r : Request}
    (hr : (put a store record label).request = some r) :
    r.url.target = String.ofList (Url.spelled (Url.stack bared).reverse ++ ("/records/".toList
      ++ Url.Percent.escape Url.Percent.inPath record.id.toList)) := by
  obtain ⟨hhead, hurl⟩ := Call.url_eq h (c := .put record label) hr
  have hbared := h.isPath ht hhead
  have hresource : (Call.put record label).resource = record.id.toList := rfl
  rw [hresource] at hurl
  have hquery : r.url.query = none := by
    rw [hurl, Url.onHost]
    dsimp only
    rw [hid.back_records_eq, List.dropWhile_eq_nil_iff.2]
    · rfl
    · intro c hc
      rw [hid.endsPath_of_mem hbared c hc]
      rfl
  have hpath := congrArg Url.path hurl
  rw [Url.target_of_no_query hquery, hpath]
  exact hid.pathOf_eq hbared

/-- Records with inert ids of their own are never kept at one place. -/
theorem put_targets_ne {base : Url} (hbase : Url.parse a.address = some base)
    (ht : Url.TakesPaths a.address base) {x y : Record} (hx : IsInert x.id) (hy : IsInert y.id)
    (hne : x.id ≠ y.id) (forX forY : String) (atX atY : Store) :
    (∀ r s, (put a atX x forX).request = some r → (put a atY y forY).request = some s →
      r.url.target ≠ s.url.target) ∧
    (a.hasPassword = true → base.scheme = "http" ∨ base.scheme = "https" →
      Url.isTrimmed a.address = true →
      (put a atX x forX).request.isSome ∧ (put a atY y forY).request.isSome) := by
  constructor
  · intro r s hr hs heq
    -- A request is only made to the web, where the account then is too.
    obtain ⟨hparse, hscheme⟩ := webUrl?_eq_some (Call.url_of_request (c := .put x forX) hr)
    rw [Call.endpoint_path] at hparse
    rw [Url.scheme_of_parse_joined hbase hparse] at hscheme
    obtain ⟨more, bared, hjoins⟩ := Url.exists_joins hbase (kind_of_webUrl hscheme)
    rw [target_of_put hjoins ht hx hr, target_of_put hjoins ht hy hs] at heq
    have hescape := List.append_cancel_left (List.append_cancel_left (String.ofList_injective heq))
    exact hne (hx.escape_inj hy hescape)
  · intro hp hscheme htrim
    obtain ⟨more, bared, hjoins⟩ := Url.exists_joins hbase (kind_of_webUrl hscheme)
    obtain ⟨r, hr⟩ := Call.exists_request hjoins hscheme htrim (c := .put x forX) (.inl hp) atX
    obtain ⟨s, hs⟩ := Call.exists_request hjoins hscheme htrim (c := .put y forY) (.inl hp) atY
    exact ⟨Option.isSome_of_eq_some hr, Option.isSome_of_eq_some hs⟩

/-- A percent sign without digits behind it is no escape. -/
theorem put_targets_ne_rate :
    ∃ r s,
      (put (localAccount "secret") (fun _ => none) { id := "load at 50%" } "").request = some r ∧
      (put (localAccount "secret") (fun _ => none) { id := "rack/50%" } "").request = some s ∧
      r.url.target ≠ s.url.target := by
  have hbase : Url.parse (localAccount "secret").address = some localBase := by decide +kernel
  have htakes : Url.TakesPaths (localAccount "secret").address localBase :=
    ⟨rfl, by decide +kernel⟩
  have htrim : Url.isTrimmed (localAccount "secret").address = true := by decide +kernel
  have hx : IsInert "load at 50%" :=
    ⟨by decide +kernel, by decide +kernel, by decide +kernel, by decide +kernel⟩
  have hy : IsInert "rack/50%" :=
    ⟨by decide +kernel, by decide +kernel, by decide +kernel, by decide +kernel⟩
  obtain ⟨hne, hmade⟩ := put_targets_ne hbase htakes (x := { id := "load at 50%" })
    (y := { id := "rack/50%" }) hx hy (by decide) "" "" (fun _ => none) fun _ => none
  obtain ⟨hr, hs⟩ := hmade (by decide) (.inl rfl) htrim
  obtain ⟨r, hr⟩ := Option.isSome_iff_exists.1 hr
  obtain ⟨s, hs⟩ := Option.isSome_iff_exists.1 hs
  exact ⟨r, s, hr, hs, hne r s hr hs⟩

/-- Records with the two ids are kept at one place. -/
def ShareTarget (a : Account) (id other : String) : Prop :=
  ∃ r ∈ (put a (fun _ => none) { id } "").request,
    ∃ s ∈ (put a (fun _ => none) { id := other } "").request, r.url.target = s.url.target

instance (a : Account) (id other : String) : Decidable (ShareTarget a id other) :=
  inferInstanceAs (Decidable (∃ _ ∈ _, ∃ _ ∈ _, _))

/-- Ids that differ, with which a record is kept at the place of another. -/
theorem put_targets_eq :
    ShareTarget (.ofTexts "http://h/v0" "" "p") "a" "a#b" ∧
    ShareTarget (.ofTexts "http://h/v0" "" "p") "a" "a " ∧
    ShareTarget (.ofTexts "http://h/v0" "" "p") "a" "b/../a" ∧
    ShareTarget (.ofTexts "http://h/v0" "" "p") "a/b" "a\\b" ∧
    ShareTarget (.ofTexts "http://h/v0" "" "p") "é" "%C3%A9" := by
  decide +kernel

end Inventory.Client
