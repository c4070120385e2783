import Inventory.Url.Basic
import Mathlib.Data.List.TakeWhile

/-!
# Text put behind the text of a URL

The text of a URL is cleaned as a whole. When text is put behind it, after the slashes at its end
were taken off, what was the end is now in the middle: controls and blanks there are no longer cut
off. Apart from these and the slashes, the cleaned text goes on where it went on before. Main
statements: `clean_append` and `clean_joined`.
-/

namespace Inventory.Url

/-- What is cut off at both ends of a text. -/
def isEdge (c : Char) : Bool := c.toNat ≤ 0x20

/-- What is not dropped from the middle of a text. -/
def isKept (c : Char) : Bool := c ≠ '\t' ∧ c ≠ '\n' ∧ c ≠ '\r'

/-- A text without the slashes at its end. -/
def bare (cs : List Char) : List Char := (cs.reverse.dropWhile (· = '/')).reverse

/-- A text put behind the bare text of a URL, after a slash. -/
def joined (text : String) (after : List Char) : String :=
  String.ofList (bare text.toList ++ '/' :: after)

/-- A text that more is put behind, cleaned. -/
def front (cs : List Char) : List Char := (cs.dropWhile isEdge).filter isKept

/-- A text that is put behind another, cleaned. -/
def back (cs : List Char) : List Char := (cs.reverse.dropWhile isEdge).reverse.filter isKept

theorem isKept_of_not_edge {c : Char} (h : isEdge c = false) : isKept c = true := by
  rw [isKept, decide_eq_true_eq]
  refine ⟨?_, ?_, ?_⟩
  · rintro rfl
    exact absurd h (by decide)
  · rintro rfl
    exact absurd h (by decide)
  · rintro rfl
    exact absurd h (by decide)

/-! ## Slashes at the end -/

/-- Only slashes are taken off. -/
theorem bare_append (cs : List Char) : ∃ k, cs = bare cs ++ List.replicate k '/' := by
  have hsplit := congrArg List.reverse
    (List.takeWhile_append_dropWhile (p := (· = '/')) (l := cs.reverse))
  rw [List.reverse_append, List.reverse_reverse] at hsplit
  refine ⟨(cs.reverse.takeWhile (· = '/')).length, ?_⟩
  have hslashes : (cs.reverse.takeWhile (· = '/')).reverse
      = List.replicate (cs.reverse.takeWhile (· = '/')).length '/' := by
    rw [List.eq_replicate_iff]
    refine ⟨List.length_reverse, fun c hc => ?_⟩
    have hc := List.mem_takeWhile_imp (List.mem_reverse.1 hc)
    simpa using hc
  rw [← hslashes]
  exact hsplit.symm

/-- Slashes put at the end are taken off again. -/
theorem bare_append_slashes (cs : List Char) (k : Nat) :
    bare (cs ++ List.replicate k '/') = bare cs := by
  have hall : ∀ c ∈ List.replicate k '/', decide (c = '/') = true := fun c hc => by
    rw [decide_eq_true_eq]
    exact List.eq_of_mem_replicate hc
  rw [bare, List.reverse_append, List.reverse_replicate, List.dropWhile_append_of_pos hall, bare]

/-- A text that ends in no slash is left alone. -/
theorem bare_concat {c : Char} (h : c ≠ '/') (cs : List Char) : bare (cs ++ [c]) = cs ++ [c] := by
  rw [bare, List.reverse_append, List.reverse_singleton, List.singleton_append,
    List.dropWhile_cons_of_neg (by simpa using h), List.reverse_cons, List.reverse_reverse]

/-- If slashes put at the end make a text that goes on after one that ends in no slash, they are
part of how it goes on. -/
theorem exists_of_append_slashes {cs before more : List Char} {c : Char} {k : Nat} (hc : c ≠ '/')
    (h : cs ++ List.replicate k '/' = before ++ c :: more) :
    ∃ more', cs = before ++ c :: more' ∧ more' ++ List.replicate k '/' = more := by
  have happend : cs ++ List.replicate k '/' = (before ++ [c]) ++ more := by
    rw [h, List.append_assoc, List.singleton_append]
  rcases List.append_eq_append_iff.1 happend with ⟨slashes, hends, hslashes⟩ | ⟨more', hcs, hmore⟩
  · -- The slashes do not reach over the character that is no slash.
    rcases List.eq_nil_or_concat slashes with rfl | ⟨ds, d, rfl⟩
    · refine ⟨[], ?_, hslashes⟩
      rw [List.append_nil] at hends
      exact hends.symm
    · have hd : d = '/' := by
        have hmem : d ∈ List.replicate k '/' := by
          rw [hslashes]
          simp
        exact List.eq_of_mem_replicate hmem
      rw [List.concat_eq_append, ← List.append_assoc] at hends
      obtain rfl : c = d := by simpa using (List.append_inj_right' hends rfl)
      exact absurd hd hc
  · refine ⟨more', ?_, hmore.symm⟩
    rw [hcs, List.append_assoc, List.singleton_append]

/-! ## Cleaning what is put together -/

theorem front_append {before : List Char} (h : ∃ c ∈ before, isEdge c = false) (after : List Char) :
    front (before ++ after) = front before ++ after.filter isKept := by
  obtain ⟨c, hc, hedge⟩ := h
  have hne : (before.dropWhile isEdge).isEmpty = false := by
    rw [List.isEmpty_eq_false_iff]
    intro hnil
    exact absurd (List.dropWhile_eq_nil_iff.1 hnil c hc) (Bool.eq_false_iff.1 hedge)
  rw [front, front, List.dropWhile_append, hne, if_neg Bool.false_ne_true, List.filter_append]

/-- A character that is not cut off stays where it is. -/
theorem back_cons {c : Char} (h : isEdge c = false) (cs : List Char) :
    back (c :: cs) = c :: back cs := by
  have hc : [c].dropWhile isEdge = [c] := List.dropWhile_cons_of_neg (Bool.eq_false_iff.1 h)
  rw [back, back, List.reverse_cons, List.dropWhile_append]
  split
  · next hnil =>
    rw [hc, List.isEmpty_iff.1 hnil, List.reverse_nil, List.filter_nil, List.reverse_singleton,
      List.filter_cons_of_pos (isKept_of_not_edge h), List.filter_nil]
  · rw [List.reverse_append, List.reverse_singleton, List.singleton_append,
      List.filter_cons_of_pos (isKept_of_not_edge h)]

theorem back_append {cs : List Char} (h : ∀ c ∈ cs, isEdge c = false) (more : List Char) :
    back (cs ++ more) = cs ++ back more := by
  induction cs with
  | nil => rfl
  | cons c cs ih =>
    obtain ⟨hc, hcs⟩ := List.forall_mem_cons.1 h
    rw [List.cons_append, back_cons hc, ih hcs, List.cons_append]

/-- A text that holds nothing that is dropped, and nothing that is cut off at its end, is clean. -/
theorem back_eq_self {cs : List Char} (hkept : ∀ c ∈ cs, isKept c = true)
    (hlast : ∀ c ∈ cs.getLast?, isEdge c = false) : back cs = cs := by
  have hdrop : cs.reverse.dropWhile isEdge = cs.reverse := by
    rw [List.getLast?_eq_head?_reverse] at hlast
    cases hr : cs.reverse with
    | nil => rfl
    | cons c rest =>
      rw [hr] at hlast
      exact List.dropWhile_cons_of_neg (Bool.eq_false_iff.1 (hlast c rfl))
  rw [back, hdrop, List.reverse_reverse]
  exact List.filter_eq_self.2 hkept

/-- Two texts in a row, neither of which is cut off as a whole, are each cleaned at the one end that
stays an end. -/
theorem clean_append {before : List Char} (h : ∃ c ∈ before, isEdge c = false) {c : Char}
    (hc : isEdge c = false) (after : List Char) :
    clean (before ++ c :: after) = front before ++ back (c :: after) := by
  obtain ⟨d, hd, hedge⟩ := h
  have hne : (before.dropWhile isEdge).isEmpty = false := by
    rw [List.isEmpty_eq_false_iff]
    intro hnil
    exact absurd (List.dropWhile_eq_nil_iff.1 hnil d hd) (Bool.eq_false_iff.1 hedge)
  have hne' : ((c :: after).reverse.dropWhile isEdge).isEmpty = false := by
    rw [List.isEmpty_eq_false_iff]
    intro hnil
    have hmem : c ∈ (c :: after).reverse := List.mem_reverse.2 (List.mem_cons_self ..)
    exact absurd (List.dropWhile_eq_nil_iff.1 hnil c hmem) (Bool.eq_false_iff.1 hc)
  show (((before ++ c :: after).dropWhile isEdge).reverse.dropWhile isEdge).reverse.filter isKept
    = _
  rw [List.dropWhile_append, hne, if_neg Bool.false_ne_true, List.reverse_append,
    List.dropWhile_append, hne', if_neg Bool.false_ne_true, List.reverse_append,
    List.reverse_reverse, List.filter_append]
  rfl

/-- Cleaning drops only what is cut off or dropped. -/
theorem mem_clean {c : Char} (hc : isEdge c = false) (cs : List Char) : c ∈ clean cs ↔ c ∈ cs := by
  have hdrop : ∀ ds : List Char, c ∈ ds.dropWhile isEdge ↔ c ∈ ds := by
    intro ds
    refine ⟨fun h => (List.dropWhile_sublist _).subset h, fun h => ?_⟩
    rw [← List.takeWhile_append_dropWhile (p := isEdge) (l := ds)] at h
    refine (List.mem_append.1 h).resolve_left fun htake => ?_
    exact Bool.eq_false_iff.1 hc (List.mem_takeWhile_imp htake)
  show c ∈ ((cs.dropWhile isEdge).reverse.dropWhile isEdge).reverse.filter isKept ↔ _
  rw [List.mem_filter, List.mem_reverse, hdrop, List.mem_reverse, hdrop]
  exact ⟨And.left, fun h => ⟨h, isKept_of_not_edge hc⟩⟩

/-- What is cleaned at one end only keeps what is cut off at the other. -/
theorem front_eq_clean (cs : List Char) :
    ∃ edges, front cs = clean cs ++ edges ∧ (∀ c ∈ edges, isEdge c = true) ∧
      ((∀ c ∈ (cs.filter isKept).getLast?, isEdge c = false) → edges = []) := by
  have hsplit := congrArg List.reverse
    (List.takeWhile_append_dropWhile (p := isEdge) (l := (cs.dropWhile isEdge).reverse))
  rw [List.reverse_append, List.reverse_reverse] at hsplit
  have hfront : front cs
      = clean cs ++ ((cs.dropWhile isEdge).reverse.takeWhile isEdge).reverse.filter isKept := by
    rw [front]
    conv => lhs; rw [← hsplit]
    rw [List.filter_append]
    rfl
  have hedges : ∀ c ∈ ((cs.dropWhile isEdge).reverse.takeWhile isEdge).reverse.filter isKept,
      isEdge c = true := fun c hc =>
    List.mem_takeWhile_imp (List.mem_reverse.1 (List.mem_filter.1 hc).1)
  refine ⟨_, hfront, hedges, fun hlast => ?_⟩
  rcases List.eq_nil_or_concat
    (((cs.dropWhile isEdge).reverse.takeWhile isEdge).reverse.filter isKept) with hnil | ⟨ds, d, hd⟩
  · exact hnil
  · have hmem : d ∈ (cs.filter isKept).getLast? := by
      rw [← List.takeWhile_append_dropWhile (p := isEdge) (l := cs), List.filter_append, ← front,
        hfront, hd, List.concat_eq_append, ← List.append_assoc, ← List.append_assoc,
        List.getLast?_concat]
      rfl
    have hedge := hedges d (by rw [hd]; simp)
    rw [hlast d hmem] at hedge
    contradiction

/-- How the bare text of a URL ends, where the clean text ends in `more`: in the same, but for
slashes at the end and for what was cut off there. -/
structure Bares (cs more bared : List Char) : Prop where
  ends : ∃ k edges, bared ++ List.replicate k '/' = more ++ edges ∧
    (∀ d ∈ edges, isEdge d = true) ∧
    ((∀ d ∈ (cs.filter isKept).getLast?, isEdge d = false) → edges = [])
  lead : ∃ lead, (bare cs).filter isKept = lead ++ bared

/-- When text is put behind the bare text of a URL, after a slash, it follows what the bare text has
after a character that is no slash. -/
theorem clean_joined {cs before more : List Char} {c : Char}
    (h : clean cs = before ++ c :: more) (hc : c ≠ '/')
    (hsolid : ∃ d ∈ cs, isEdge d = false ∧ d ≠ '/') :
    ∃ bared, Bares cs more bared ∧
      ∀ after, clean (bare cs ++ '/' :: after) = before ++ c :: (bared ++ '/' :: back after) := by
  obtain ⟨k, hk⟩ := bare_append cs
  obtain ⟨edges, hfront, hedges, hlast⟩ := front_eq_clean cs
  obtain ⟨d, hd, hsolid, hslash⟩ := hsolid
  have hmem : d ∈ bare cs := by
    rw [hk] at hd
    rcases List.mem_append.1 hd with hd | hd
    · exact hd
    · exact absurd (List.eq_of_mem_replicate hd) hslash
  have hslashes : (List.replicate k '/').filter isKept = List.replicate k '/' :=
    List.filter_eq_self.2 fun e he => by
      rw [List.eq_of_mem_replicate he]
      rfl
  have hjoined : front (bare cs) ++ List.replicate k '/' = before ++ c :: (more ++ edges) := by
    have hfull : front cs = front (bare cs) ++ List.replicate k '/' := by
      conv => lhs; rw [hk]
      rw [front_append ⟨d, hmem, hsolid⟩, hslashes]
    rw [← hfull, hfront, h, List.append_assoc, List.cons_append]
  obtain ⟨bared, hbare, hends⟩ := exists_of_append_slashes hc hjoined
  refine ⟨bared, ⟨⟨k, edges, hends, hedges, hlast⟩, ?_⟩, fun after => ?_⟩
  · refine ⟨((bare cs).takeWhile isEdge).filter isKept ++ (before ++ [c]), ?_⟩
    rw [List.append_assoc, List.append_assoc, List.singleton_append, ← hbare, front,
      ← List.filter_append, List.takeWhile_append_dropWhile]
  · rw [clean_append ⟨d, hmem, hsolid⟩ (by decide), back_cons (by decide), hbare, List.append_assoc,
      List.cons_append]

end Inventory.Url
