import Inventory.Proofs.Url.Path
import Inventory.Proofs.Url.Web

/-!
# Paths put behind URLs

What becomes of a path that is put behind the bare text of a URL of the web. If the URL has a query
or a fragment, it is lost in them and the path stays that of the URL. Otherwise it is resolved on
top of the path of the URL. Main statements: `Joins.eq_of_parse`, `Joins.path_eq` and
`Joins.exists_path_eq`.
-/

namespace Inventory.Url

open Inventory.Text (runs_append)

/-- A path put behind the text of a URL is not lost: there is neither a query nor a fragment. -/
structure TakesPaths (text : String) (u : Url) : Prop where
  query : u.query = none
  hash_not_mem : '#' ∉ text.toList

/-- Nothing is cut off at the end of a text, but for tabs and line breaks. -/
def isTrimmed (text : String) : Bool := (text.toList.filter isKept).getLast?.all (!isEdge ·)

/-- A text ends, but for slashes, in a part that is neither empty nor points. -/
def endsOrdinary (text : String) : Bool :=
  (Text.split Kind.web.isSlash ((bare text.toList).filter isKept)).getLast?.all isOrdinary

theorem isSlash_of_endsHost {c : Char} (hhost : Kind.web.endsHost c = true)
    (hpath : endsPath c = false) : Kind.web.isSlash c = true := by
  rw [endsPath] at hpath
  rw [Kind.endsHost, Bool.or_assoc, hpath, Bool.or_false] at hhost
  exact hhost

namespace Joins

variable {text : String} {u : Url} {more bared : List Char} (h : Joins text u more bared)
include h

/-- A URL that there is goes on after the host with a path, a query or a fragment. -/
theorem eq_of_parse {after : List Char} {v : Url} (hv : parse (joined text after) = some v) :
    bared.head?.all Kind.web.endsHost = true ∧
      v = onHost .web u.scheme u.host u.port (bared ++ '/' :: back after) := by
  rw [h.parse_eq] at hv
  split at hv
  · next hhead => exact ⟨hhead, (Option.some.inj hv).symm⟩
  · contradiction

/-- Something ends the path where there is a query or a fragment, and nothing does otherwise. -/
theorem dropWhile_eq_nil_iff :
    more.dropWhile (!endsPath ·) = [] ↔ TakesPaths text u := by
  have hquery : u.query = queryOf .web (more.dropWhile (!endsPath ·)) :=
    congrArg Url.query h.eq_onHost
  constructor
  · intro hnil
    refine ⟨by rw [hquery, hnil]; rfl, fun hhash => ?_⟩
    exact absurd (List.dropWhile_eq_nil_iff.1 hnil _ (h.hash_mem.1 hhash)) (by decide)
  · rintro ⟨hnone, hhash⟩
    by_contra hne
    obtain ⟨c, rest, hrest⟩ := List.exists_cons_of_ne_nil hne
    have hc : endsPath c = true := by
      simpa using Text.head?_dropWhile (p := (!endsPath ·)) (l := more) c (by rw [hrest]; rfl)
    rw [endsPath, Bool.or_eq_true, beq_iff_eq, beq_iff_eq] at hc
    rcases hc with rfl | rfl
    · rw [hquery, hrest] at hnone
      contradiction
    · refine hhash (h.hash_mem.2 ((List.dropWhile_sublist (l := more) (!endsPath ·)).subset ?_))
      rw [hrest]
      exact List.mem_cons_self ..

/-- A URL with a query or a fragment keeps its path. -/
theorem path_eq (hlost : ¬TakesPaths text u) (after : List Char) :
    pathOf .web (bared ++ after) = u.path := by
  rw [← h.dropWhile_eq_nil_iff] at hlost
  obtain ⟨c, rest, hrest⟩ := List.exists_cons_of_ne_nil hlost
  have hc : (!endsPath c) = false :=
    Text.head?_dropWhile (p := (!endsPath ·)) (l := more) c (by rw [hrest]; rfl)
  have hslash : c ≠ '/' := by
    rintro rfl
    exact absurd hc (by decide)
  have hmore : more = more.takeWhile (!endsPath ·) ++ c :: rest := by
    rw [← hrest, List.takeWhile_append_dropWhile]
  obtain ⟨k, edges, hends, -⟩ := h.bares.ends
  rw [hmore, List.append_assoc, List.cons_append] at hends
  obtain ⟨rest', hbared, -⟩ := exists_of_append_slashes hslash hends
  have htake : (bared ++ after).takeWhile (!endsPath ·) = more.takeWhile (!endsPath ·) := by
    rw [hbared, List.append_assoc, List.cons_append]
    refine (runs_append (fun d hd => List.mem_takeWhile_imp hd) fun d hd => ?_).1
    rw [← Option.some.inj hd]
    exact hc
  have hpath : u.path = pathOf .web more := congrArg Url.path h.eq_onHost
  rw [hpath]
  unfold pathOf
  rw [htake]

/-- A URL with neither has nothing but a path. -/
theorem endsPath_of_mem (ht : TakesPaths text u) : ∀ c ∈ more, endsPath c = false := by
  intro c hc
  have hnil := h.dropWhile_eq_nil_iff.2 ht
  simpa using List.dropWhile_eq_nil_iff.1 hnil c hc

theorem isPath (ht : TakesPaths text u) (hhead : bared.head?.all Kind.web.endsHost = true) :
    IsPath bared := by
  obtain ⟨k, edges, hends, hedges, -⟩ := h.bares.ends
  have hmem : ∀ c ∈ bared, endsPath c = false := by
    intro c hc
    have hc : c ∈ more ++ edges := by
      rw [← hends]
      exact List.mem_append_left _ hc
    rcases List.mem_append.1 hc with hc | hc
    · exact h.endsPath_of_mem ht c hc
    · have hhost := endsHost_of_isEdge (hedges c hc)
      rw [Kind.endsHost, Bool.or_assoc, Bool.or_eq_false_iff] at hhost
      exact hhost.2
  refine ⟨fun c hc => ?_, hmem⟩
  cases bared with
  | nil => exact absurd hc (Option.not_mem_none c)
  | cons d rest =>
    obtain rfl : d = c := Option.some.inj hc
    exact isSlash_of_endsHost hhead (hmem d (List.mem_cons_self ..))

theorem exists_more (htrim : isTrimmed text = true) :
    ∃ k, bared ++ List.replicate k '/' = more := by
  obtain ⟨k, edges, hends, -, hnil⟩ := h.bares.ends
  have hlast : ∀ d ∈ (text.toList.filter isKept).getLast?, isEdge d = false := fun d hd => by
    simpa using (Option.all_eq_true _ _).1 htrim d hd
  rw [hnil hlast, List.append_nil] at hends
  exact ⟨k, hends⟩

theorem head_of_trimmed (htrim : isTrimmed text = true) :
    bared.head?.all Kind.web.endsHost = true := by
  obtain ⟨k, hmore⟩ := h.exists_more htrim
  cases bared with
  | nil => rfl
  | cons c rest => exact h.endsHost_of_head c (by rw [← hmore]; rfl)

/-- The path of a URL with neither is what it leaves, with slashes behind. -/
theorem exists_path_eq (ht : TakesPaths text u) (htrim : isTrimmed text = true) :
    ∃ j, u.path = String.ofList (spelled (stack bared).reverse ++ List.replicate j '/') := by
  obtain ⟨k, hmore⟩ := h.exists_more htrim
  have hpath : IsPath (bared ++ List.replicate k '/') := by
    rw [hmore]
    exact ⟨fun c hc => isSlash_of_endsHost (h.endsHost_of_head c hc)
      (h.endsPath_of_mem ht c (List.mem_of_head? hc)), h.endsPath_of_mem ht⟩
  obtain ⟨j, hj⟩ := exists_pathOf hpath
  refine ⟨j, ?_⟩
  rw [← hj, hmore]
  exact congrArg Url.path h.eq_onHost

/-- A path that ends in an ordinary part leaves no slashes at the end. -/
theorem bare_eq (ht : TakesPaths text u) (hhead : bared.head?.all Kind.web.endsHost = true)
    (hlast : endsOrdinary text = true) :
    bare (spelled (stack bared).reverse) = spelled (stack bared).reverse := by
  cases bared with
  | nil => rfl
  | cons c rest =>
    have hpath := h.isPath ht hhead
    have hc : Kind.web.isSlash c = true := hpath.isSlash_of_head c rfl
    refine bare_spelled_stack hpath fun part hpart => (Option.all_eq_true _ _).1 hlast part ?_
    obtain ⟨lead, hlead⟩ := h.bares.lead
    have hsame : ∀ parts, (parts ++ Text.split Kind.web.isSlash rest).getLast?
        = (Text.split Kind.web.isSlash rest).getLast? := fun parts => by
      rw [List.getLast?_append, List.getLast?_eq_some_getLast (Text.split_ne_nil _ _),
        Option.some_or]
    rw [Text.split, if_pos hc, ← List.singleton_append, hsame] at hpart
    rw [hlead, Text.split_append_separator hc, hsame]
    exact hpart

end Joins

end Inventory.Url
