import Inventory.Proofs.Url.Clean
import Inventory.Proofs.Url.Percent
import Inventory.Proofs.Url.Segments

/-!
# Paths after paths

The path of a text that another text is put behind, after a slash, is the path of the first and
then that of the second, as long as the second does not lead out. Between the two there may be
further slashes: for each segment without characters that the first ends in. Main statements:
`pathOf_append`, `exists_pathOf` and `bare_spelled_stack`.
-/

namespace Inventory.Url

open Segments
open Inventory.Text (runs_append)

/-- A text of the web that is all path: one that begins with a slash, if with anything. -/
structure IsPath (cs : List Char) : Prop where
  isSlash_of_head : ∀ c ∈ cs.head?, Kind.web.isSlash c = true
  endsPath_of_mem : ∀ c ∈ cs, endsPath c = false

/-- The segments that a path leaves for what is put behind it, in reverse. -/
def stack (cs : List Char) : List (List Char) :=
  (Text.split Kind.web.isSlash cs).tail.foldl enter []

/-- Segments as they stand in a URL. -/
def spelled (segments : List (List Char)) : List Char :=
  join (segments.map (Percent.escape Percent.inPath))

theorem spelled_append (before after : List (List Char)) :
    spelled (before ++ after) = spelled before ++ spelled after := by
  rw [spelled, List.map_append, join_append]
  rfl

theorem spelled_empty (k : Nat) : spelled (List.replicate k []) = List.replicate k '/' := by
  rw [spelled, List.map_replicate]
  exact join_empty k

theorem spelled_cons (segment : List Char) (rest : List (List Char)) :
    spelled (segment :: rest) = '/' :: (Percent.escape Percent.inPath segment ++ spelled rest) := by
  rw [spelled, List.map_cons, join_cons]
  rfl

/-- Parts between slashes are spelled as the text that has them. -/
theorem spelled_split {cs : List Char} (h : '\\' ∉ cs) :
    spelled (Text.split Kind.web.isSlash cs) = '/' :: Percent.escape Percent.inPath cs := by
  induction cs with
  | nil => rfl
  | cons c cs ih =>
    rw [List.mem_cons, not_or] at h
    have ih := ih h.2
    rw [Text.split]
    split
    · next hslash =>
      have hc : c = '/' := by
        have hslash : (c == '/' || c == '\\') = true := hslash
        rw [Bool.or_eq_true, beq_iff_eq, beq_iff_eq] at hslash
        exact hslash.resolve_right (Ne.symm h.1)
      rw [spelled_cons, ih, hc]
      rfl
    · obtain ⟨part, parts, hparts⟩ := List.exists_cons_of_ne_nil
        (Text.split_ne_nil Kind.web.isSlash cs)
      rw [hparts, spelled_cons] at ih
      rw [hparts]
      dsimp only
      rw [spelled_cons, Percent.escape, List.flatMap_cons, List.append_assoc, ← Percent.escape,
        (List.cons.inj ih).2]
      rfl

/-- The path of a text that is not empty is what its parts after the first resolve to. -/
theorem pathOf_eq {run rest : List Char} (hrun : IsPath run) (hne : run ≠ [])
    (hrest : ∀ c ∈ rest.head?, endsPath c = true) :
    pathOf .web (run ++ rest)
      = String.ofList (spelled (resolve [] (Text.split Kind.web.isSlash run).tail)) := by
  have htake : (run ++ rest).takeWhile (!endsPath ·) = run :=
    (runs_append (fun c hc => by rw [hrun.endsPath_of_mem c hc]; rfl)
      (fun c hc => by rw [hrest c hc]; rfl)).1
  obtain ⟨c, cs, rfl⟩ := List.exists_cons_of_ne_nil hne
  have hc : Kind.web.isSlash c = true := hrun.isSlash_of_head c rfl
  unfold pathOf
  rw [htake]
  dsimp only
  rw [if_pos hc, Text.split, if_pos hc]
  rfl

/-- A text put behind a path, after a slash, is resolved on top of what the path leaves. -/
theorem pathOf_append {cs : List Char} (h : IsPath cs) (after : List Char) :
    pathOf .web (cs ++ '/' :: after) = String.ofList (spelled (resolve (stack cs)
      (Text.split Kind.web.isSlash (after.takeWhile (!endsPath ·))))) := by
  have hslash : Kind.web.isSlash '/' = true := rfl
  have hrun : IsPath (cs ++ '/' :: after.takeWhile (!endsPath ·)) := by
    constructor
    · intro c hc
      cases cs with
      | nil => rw [← Option.some.inj hc, hslash]
      | cons d cs => exact h.isSlash_of_head c hc
    · intro c hc
      rcases List.mem_append.1 hc with hc | hc
      · exact h.endsPath_of_mem c hc
      · rcases List.mem_cons.1 hc with rfl | hc
        · rfl
        · simpa using List.mem_takeWhile_imp hc
  have hrest : ∀ c ∈ (after.dropWhile (!endsPath ·)).head?, endsPath c = true := fun c hc => by
    simpa using Text.head?_dropWhile c hc
  have hpath := pathOf_eq hrun (List.append_ne_nil_of_right_ne_nil _ (List.cons_ne_nil _ _)) hrest
  rw [List.append_assoc, List.cons_append, List.takeWhile_append_dropWhile,
    Text.split_append_separator hslash, List.tail_append_of_ne_nil (Text.split_ne_nil _ _)] at hpath
  obtain ⟨next, rest, hnext⟩ := List.exists_cons_of_ne_nil
    (Text.split_ne_nil Kind.web.isSlash (after.takeWhile (!endsPath ·)))
  rw [hpath, hnext, resolve_append]
  rfl

/-- A path with slashes at its end is what it leaves, with slashes behind. -/
theorem exists_pathOf {cs : List Char} {k : Nat} (h : IsPath (cs ++ List.replicate k '/')) :
    ∃ j, pathOf .web (cs ++ List.replicate k '/')
      = String.ofList (spelled (stack cs).reverse ++ List.replicate j '/') := by
  by_cases hne : cs ++ List.replicate k '/' = []
  · -- Where there is no path there is a slash.
    refine ⟨1, ?_⟩
    rw [hne, (List.append_eq_nil_iff.1 hne).1]
    rfl
  · have hnil : ∀ c ∈ ([] : List Char).head?, endsPath c = true := fun c hc => by contradiction
    have hpath := pathOf_eq h hne hnil
    rw [List.append_nil, split_append_slashes rfl,
      List.tail_append_of_ne_nil (Text.split_ne_nil _ _)] at hpath
    obtain ⟨j, hj⟩ := exists_resolve_append_empty k (Text.split Kind.web.isSlash cs).tail []
    refine ⟨j, ?_⟩
    rw [hpath, hj, spelled_append, spelled_empty]
    rfl

/-! ## Where the path goes on -/

/-- The part is an ordinary one: it stands for a segment of its own, which is not empty. -/
def isOrdinary (part : List Char) : Bool :=
  part ≠ [] ∧ isPoint part = false ∧ isTwoPoints part = false

/-- A path that ends in an ordinary part leaves no slashes at the end. -/
theorem bare_spelled_stack {cs : List Char} (h : IsPath cs)
    (hlast : ∀ part ∈ (Text.split Kind.web.isSlash cs).getLast?, isOrdinary part = true) :
    bare (spelled (stack cs).reverse) = spelled (stack cs).reverse := by
  cases cs with
  | nil => rfl
  | cons c cs =>
    have hc : Kind.web.isSlash c = true := h.isSlash_of_head c rfl
    obtain ⟨front, part, hparts⟩ := (List.eq_nil_or_concat
      (Text.split Kind.web.isSlash cs)).resolve_left (Text.split_ne_nil _ _)
    rw [List.concat_eq_append] at hparts
    have hsplit : Text.split Kind.web.isSlash (c :: cs) = [] :: (front ++ [part]) := by
      rw [Text.split, if_pos hc, hparts]
    have hordinary : isOrdinary part = true := by
      refine hlast part ?_
      rw [hsplit, ← List.cons_append, List.getLast?_concat]
      rfl
    rw [isOrdinary, decide_eq_true_eq] at hordinary
    obtain ⟨hne, hone, htwo⟩ := hordinary
    have hstack : stack (c :: cs) = part :: front.foldl enter [] := by
      rw [stack, hsplit, List.tail_cons, List.foldl_append, List.foldl_cons, List.foldl_nil, enter,
        if_neg (Bool.eq_false_iff.1 htwo), if_neg (Bool.eq_false_iff.1 hone)]
    have hslash : '/' ∉ part := fun hmem => by
      have hpart : part ∈ Text.split Kind.web.isSlash cs := by
        rw [hparts]
        exact List.mem_append_right _ (List.mem_singleton_self part)
      exact absurd (Text.isSeparator_of_mem_split hpart '/' hmem) (by decide)
    obtain ⟨letters, d, hescape⟩ := (List.eq_nil_or_concat
      (Percent.escape Percent.inPath part)).resolve_left (Percent.escape_ne_nil hne)
    rw [List.concat_eq_append] at hescape
    have hd : d ≠ '/' := by
      rintro rfl
      exact Percent.slash_not_mem_escape hslash (by rw [hescape]; simp)
    have hspelled : spelled [part] = ('/' :: letters) ++ [d] := by
      rw [spelled_cons, hescape, spelled, List.map_nil, join, List.flatMap_nil, List.append_nil]
      rfl
    rw [hstack, List.reverse_cons, spelled_append, hspelled, ← List.append_assoc, bare_concat hd]

end Inventory.Url
