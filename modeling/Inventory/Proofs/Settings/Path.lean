import Inventory.Proofs.Settings.Request
import Inventory.Proofs.Sql.Single

/-!
# Paths in literals

A path into a document stands in a literal, with its quotes doubled and its backslashes as they
are. So every quote is read back, but a backslash only where a percent sign or an underscore comes
right after it. Any other backslash is lost: the literal then stands for another path, or, with the
backslash at the end of the path, does not end at all. Main statements: `scan_quotePath`,
`asksAt_extract` and `paths_contained`.
-/

namespace Inventory.Settings.Placement

open Sql

/-! ## Paths -/

/-- Every backslash stands right in front of a percent sign or an underscore. -/
def Kept : List Char → Prop
  | [] => True
  | c :: cs => (c = '\\' → cs.head? = some '%' ∨ cs.head? = some '_') ∧ Kept cs

theorem quotePath_quote (cs : List Char) :
    quotePath ('\'' :: cs) = '\'' :: '\'' :: quotePath cs := rfl

theorem quotePath_of_ne {c : Char} (h : c ≠ '\'') (cs : List Char) :
    quotePath (c :: cs) = c :: quotePath cs := by
  simp [quotePath, h]

theorem length_quotePath (cs : List Char) :
    (quotePath cs).length = cs.length + cs.count '\'' := by
  induction cs with
  | nil => rfl
  | cons c cs ih =>
    by_cases hc : c = '\''
    · subst hc
      simp only [quotePath_quote, List.length_cons, ih, List.count_cons_self]
      omega
    · simp only [quotePath_of_ne hc, List.length_cons, ih, List.count_cons_of_ne hc]
      omega

theorem count_quotePath (cs : List Char) :
    (quotePath cs).count '\'' = 2 * cs.count '\'' := by
  induction cs with
  | nil => rfl
  | cons c cs ih =>
    by_cases hc : c = '\''
    · subst hc
      simp only [quotePath_quote, ih, List.count_cons_self]
      omega
    · simp only [quotePath_of_ne hc, ih, List.count_cons_of_ne hc]

theorem quotePath_cons (c : Char) (cs : List Char) : ∃ more, quotePath (c :: cs) = c :: more := by
  by_cases hc : c = '\''
  · exact ⟨_, hc ▸ quotePath_quote cs⟩
  · exact ⟨_, quotePath_of_ne hc cs⟩

section
variable {after : List Char}

/-- What is read behind the first character of a path is no longer than the rest of the path. -/
theorem length_le_of_quotePath {c : Char} {cs more w : List Char}
    (hmore : quotePath (c :: cs) = c :: more)
    (h : scan (some '\'') (more ++ '\'' :: after) = some ⟨[after], [w]⟩) :
    w.length ≤ cs.length := by
  obtain ⟨used, w', hused, hw, hle⟩ := oneLiteral_of_scan (by decide) h
  obtain rfl := List.append_cancel_right hused
  obtain rfl : w = w' := by simpa using hw
  have hlength := length_quotePath (c :: cs)
  have hcount := count_quotePath (c :: cs)
  rw [hmore] at hlength hcount
  simp only [List.length_cons, List.count_cons] at hlength hcount
  -- At most one quote is missing from the count, the one in front.
  by_cases hc : (c == '\'') = true
  · simp only [if_pos hc] at hlength hcount
    omega
  · simp only [if_neg hc] at hlength hcount
    omega

/-- A text that is left over holds no literal that ends. -/
theorem scan_after_ne (literals : List (List Char)) :
    scan (some '\'') after ≠ some ⟨[after], literals⟩ := by
  intro h
  obtain ⟨used, -, hused, -⟩ := oneLiteral_of_scan (by decide) h
  have hlength := congrArg List.length hused
  simp only [List.length_append, List.length_cons] at hlength
  omega

/-- A backslash and the character after it are read as they stand exactly when the backslash is
kept in front of that character. -/
theorem scan_backslash (d : Char) (cs : List Char)
    (ih : scan (some '\'') (quotePath cs ++ '\'' :: after) = some ⟨[after], [cs]⟩ ↔ Kept cs) :
    scan (some '\'') (quotePath ('\\' :: d :: cs) ++ '\'' :: after)
        = some ⟨[after], ['\\' :: d :: cs]⟩ ↔ Kept ('\\' :: d :: cs) := by
  obtain ⟨more, hmore⟩ := quotePath_cons d cs
  have hscan : scan (some '\'') (quotePath ('\\' :: d :: cs) ++ '\'' :: after)
      = (scan (some '\'') (more ++ '\'' :: after)).map (Cut.content (escaped d)) := by
    rw [quotePath_of_ne (by decide), hmore]
    rfl
  by_cases hd : d = '%' ∨ d = '_'
  · have hquote : d ≠ '\'' := by rcases hd with rfl | rfl <;> decide
    have hback : d ≠ '\\' := by rcases hd with rfl | rfl <;> decide
    have hescaped : escaped d = ['\\', d] := by rcases hd with rfl | rfl <;> rfl
    obtain rfl : quotePath cs = more := by simpa [quotePath_of_ne hquote] using hmore
    have hkept : Kept ('\\' :: d :: cs) ↔ Kept cs := by simp [Kept, hd, hback]
    rw [hscan, hescaped, hkept, ← ih]
    exact scan_content_iff (by decide) ['\\', d] cs
  · refine iff_of_false (fun h => ?_) fun h => hd (by simpa using h.1 rfl)
    -- The backslash is lost, so what is read is too short.
    rw [hscan] at h
    obtain ⟨⟨out, ls⟩, hs, h⟩ := Option.map_eq_some_iff.1 h
    simp only [Cut.content, Cut.mk.injEq] at h
    obtain ⟨rfl, hls⟩ := h
    obtain ⟨-, w, -, rfl, -⟩ := oneLiteral_of_scan (by decide) hs
    have hlength := congrArg List.length (List.cons.inj hls).1
    rw [List.length_append, length_escaped (not_or.1 hd)] at hlength
    have hle := length_le_of_quotePath hmore hs
    simp only [List.length_cons] at hlength
    omega

/-- The quote that is to end the literal is none behind a backslash. -/
theorem scan_hanging (w : List Char) :
    scan (some '\'') (quotePath ['\\'] ++ '\'' :: after) ≠ some ⟨[after], [w]⟩ := by
  intro h
  obtain ⟨⟨out, ls⟩, hs, h⟩ := Option.map_eq_some_iff.1 h
  obtain rfl : out = [after] := by simpa [Cut.content] using congrArg Cut.outside h
  exact scan_after_ne ls hs

/-- A path is read as it stands exactly when all its backslashes are kept. -/
theorem scan_quotePath (hafter : ∀ c ∈ after, c ≠ '\'' ∧ c ≠ '"') : ∀ cs : List Char,
    scan (some '\'') (quotePath cs ++ '\'' :: after) = some ⟨[after], [cs]⟩ ↔ Kept cs
  | [] => by
    have hhead : after.head? ≠ some '\'' := fun h => (hafter _ (List.mem_of_head? h)).1 rfl
    show scan (some '\'') ('\'' :: after) = _ ↔ True
    rw [scan_quote hhead, scan_tail hafter]
    exact iff_true_intro rfl
  | c :: cs => by
    by_cases hback : c = '\\'
    · subst hback
      cases cs with
      | nil => exact iff_of_false (scan_hanging _) (by simp [Kept])
      | cons d cs => exact scan_backslash d cs (scan_quotePath hafter cs)
    · have hkept : Kept (c :: cs) ↔ Kept cs := by simp [Kept, hback]
      rw [hkept, ← scan_quotePath hafter cs]
      by_cases hquote : c = '\''
      · subst hquote
        exact scan_content_iff (by decide) ['\''] cs
      · rw [quotePath_of_ne hquote, List.cons_append, scan_char hquote hback]
        exact scan_content_iff (by decide) [c] cs

end

/-! ## Expressions -/

/-- A path from the root of its document: a point is put in front of it, unless it begins with a
point or a bracket of its own. -/
def rooted (path : String) : String :=
  if path.toList.head? = some '.' ∨ path.toList.head? = some '[' then "$" ++ path
  else "$." ++ path

theorem rooted_eq (path : String) : rooted path = pathStart path ++ path := by
  unfold rooted pathStart
  cases path.toList with
  | nil => rfl
  | cons c cs =>
    by_cases hpoint : c = '.'
    · subst hpoint
      rfl
    · by_cases hbracket : c = '['
      · subst hbracket
        rfl
      · simp [hpoint, hbracket]

/-- The expression asks a document with one literal, which stands for `path`. -/
def AsksAt (expression document path : String) : Prop :=
  cut? expression = some
    ⟨[("JSON_UNQUOTE(JSON_EXTRACT(" ++ document ++ ", ").toList, [')', ')']], [path.toList]⟩

instance (expression document path : String) : Decidable (AsksAt expression document path) :=
  inferInstanceAs (Decidable (_ = _))

/-- The start of a path is read as it stands. -/
theorem scan_pathStart_iff (path : String) (rest after w : List Char) :
    scan (some '\'') ((pathStart path).toList ++ rest)
        = some ⟨[after], [(pathStart path).toList ++ w]⟩ ↔
      scan (some '\'') rest = some ⟨[after], [w]⟩ := by
  have hroot (cs w : List Char) :
      scan (some '\'') ('$' :: cs) = some ⟨[after], ['$' :: w]⟩
        ↔ scan (some '\'') cs = some ⟨[after], [w]⟩ := by
    rw [scan_char (by decide) (by decide)]
    exact scan_content_iff (by decide) ['$'] w
  have hpoint : scan (some '\'') ('.' :: rest) = some ⟨[after], ['.' :: w]⟩
      ↔ scan (some '\'') rest = some ⟨[after], [w]⟩ := by
    rw [scan_char (by decide) (by decide)]
    exact scan_content_iff (by decide) ['.'] w
  unfold pathStart
  split
  · exact hroot rest w
  · exact hroot rest w
  · exact (hroot ('.' :: rest) ('.' :: w)).trans hpoint

/-- A document without quotes in its name is asked at the path exactly when all backslashes of the
path are kept. -/
theorem asksAt_extract {document : String} (hdocument : IsStretch document.toList) (path : String) :
    AsksAt (extract document path) document (rooted path) ↔ Kept path.toList := by
  have hopening : ∀ c ∈ ("JSON_UNQUOTE(JSON_EXTRACT(" ++ document ++ ", ").toList,
      c ≠ '\'' ∧ c ≠ '"' := by
    have hcall : IsStretch "JSON_UNQUOTE(JSON_EXTRACT(".toList := by decide
    have hcomma : IsStretch ", ".toList := by decide
    simp only [String.toList_append, List.forall_mem_append]
    exact ⟨⟨hcall.2, hdocument.2⟩, hcomma.2⟩
  have hchars : (extract document path).toList
      = ("JSON_UNQUOTE(JSON_EXTRACT(" ++ document ++ ", ").toList ++
        '\'' :: ((pathStart path).toList ++ (quotePath path.toList ++ '\'' :: [')', ')'])) := by
    have hquote : ", '".toList = ", ".toList ++ ['\''] := rfl
    have hclose : "'))".toList = ['\'', ')', ')'] := rfl
    unfold extract
    simp only [String.toList_append, String.toList_ofList, hquote, hclose, List.append_assoc,
      List.cons_append, List.nil_append]
  have hrooted : (rooted path).toList = (pathStart path).toList ++ path.toList := by
    rw [rooted_eq, String.toList_append]
  have hclosing : IsStretch [')', ')'] := by decide
  rw [← scan_quotePath hclosing.2, ← scan_pathStart_iff path, AsksAt, cut?,
    hchars, scan_stretch _ hopening, hrooted]
  constructor
  · intro h
    obtain ⟨⟨out, ls⟩, hs, h⟩ := Option.map_eq_some_iff.1 h
    simp only [Cut.mk.injEq, List.cons.injEq, true_and] at h
    rw [hs, h.1, h.2]
  · intro h
    rw [h]
    rfl

/-- The expressions for the two paths of a placement are among its keys, and each of them asks at
its path exactly when all backslashes of the path are kept. -/
theorem paths_contained (p : Placement) :
    (p.context ≠ "" → p.expression .context ∈ p.keys ∧
      (AsksAt (p.expression .context) "context" (rooted p.context) ↔ Kept p.context.toList)) ∧
    (p.data ≠ "" → p.expression .data ∈ p.keys ∧
      (AsksAt (p.expression .data) "data" (rooted p.data) ↔ Kept p.data.toList)) := by
  have hkey (place : Place) (h : p.entry place ≠ "") : p.expression place ∈ p.keys := by
    rw [keys_eq, places]
    exact List.mem_map_of_mem (List.mem_filter.2 ⟨by cases place <;> decide, by simpa using h⟩)
  exact ⟨fun h => ⟨hkey .context h, asksAt_extract (by decide) _⟩,
    fun h => ⟨hkey .data h, asksAt_extract (by decide) _⟩⟩

/-- A backslash at the end of a path takes the quote that is to end the literal. -/
theorem path_not_contained :
    (Placement.keys { context := "a\\" }) = ["JSON_UNQUOTE(JSON_EXTRACT(context, '$.a\\'))"] ∧
    cut? "JSON_UNQUOTE(JSON_EXTRACT(context, '$.a\\'))" = none ∧
    ¬ AsksAt "JSON_UNQUOTE(JSON_EXTRACT(context, '$.a\\'))" "context" "$.a\\" := by
  decide +kernel

/-- Quotes in a path do not end the literal. -/
example :
    AsksAt (extract "data" "[\"it's\"].n''") "data" "$[\"it's\"].n''" ∧
    AsksAt (extract "context" "a\\_b") "context" "$.a\\_b" := by
  decide +kernel

end Inventory.Settings.Placement
