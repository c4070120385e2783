import Inventory.Proofs.Json.Schema

/-!
# Reading back values that are laid out on lines

Blanks may stand in front of every part of a value, so a value is read the same whether its items
and members stand on lines of their own or not. The proof goes the way of the one for values
without blanks, along the lines instead of the commas; what has nothing to put on lines is written
the same in both ways. Main statements: `scanItems_lines`, `scanMembers_lines`, `reads_indented`
and `read_writeIndented`.
-/

namespace Inventory.Json

open Value

/-! ## Blanks -/

theorem skipBlanks_append {gap : List Char} (h : ∀ c ∈ gap, isGap c = true) (cs : List Char) :
    skipBlanks (gap ++ cs) = skipBlanks cs := by
  induction gap with
  | nil => rfl
  | cons c gap ih =>
    obtain ⟨hc, hgap⟩ := List.forall_mem_cons.1 h
    rw [List.cons_append, skipBlanks_blank hc, ih hgap]

theorem isGap_newline (level : Nat) : ∀ c ∈ newline level, isGap c = true := by
  intro c hc
  rcases List.mem_cons.1 hc with rfl | hc
  · decide
  · obtain rfl := List.eq_of_mem_replicate hc
    decide

theorem skipBlanks_newline (level : Nat) (cs : List Char) :
    skipBlanks (newline level ++ cs) = skipBlanks cs :=
  skipBlanks_append (isGap_newline level) cs

/-- A blank may follow a number. -/
theorem stops_gap {c : Char} (h : isGap c = true) (rest : List Char) : Stops (c :: rest) := by
  intro d hd
  obtain rfl : c = d := by simpa using hd
  simp only [isGap, Bool.or_eq_true, beq_iff_eq] at h
  rcases h with ((rfl | rfl) | rfl) | rfl
  · decide
  · decide
  · decide
  · decide

theorem stops_blanks {rest : List Char} (h : ∀ c ∈ rest, isGap c = true) : Stops rest := by
  cases rest with
  | nil => exact stops_nil
  | cons c rest => exact stops_gap (h c (List.mem_cons_self ..)) rest

theorem scanValue_blank {c : Char} (h : isGap c = true) (steps levels : Nat) (cs : List Char) :
    scanValue steps levels (c :: cs) = scanValue steps levels cs := by
  rw [scanValue.eq_def, scanValue.eq_def steps levels cs]
  dsimp only
  rw [skipBlanks_blank h]

/-! ## Lines -/

/-- Texts on lines of their own, with a comma in front of each line but the first one of all. -/
def lines (level : Nat) : Bool → List (List Char) → List Char
  | _, [] => []
  | true, p :: ps => newline level ++ (p ++ lines level false ps)
  | false, p :: ps => ',' :: (newline level ++ (p ++ lines level false ps))

/-- A name with its value, which goes on at the given level. -/
def indentedMember (level : Nat) (m : String × Value) : List Char :=
  Literal.render m.1 ++ ':' :: ' ' :: m.2.renderIndented level

theorem indentedItems_eq (level : Nat) :
    ∀ vs : List Value, indentedItems level vs = lines level true (vs.map (renderIndented level))
  | [] => rfl
  | [v] => by simp [indentedItems, lines]
  | v :: w :: vs => by simp [indentedItems, lines, indentedItems_eq level (w :: vs)]

theorem indentedMembers_eq (level : Nat) :
    ∀ ms : List (String × Value),
      indentedMembers level ms = lines level true (ms.map (indentedMember level))
  | [] => rfl
  | [(k, v)] => by simp [indentedMembers, lines, indentedMember]
  | (k, v) :: m :: ms => by
    simp [indentedMembers, lines, indentedMember, indentedMembers_eq level (m :: ms)]

/-- After a line comes a comma or the last line, on which the bracket is closed. -/
theorem stops_lines (level outer : Nat) (ps : List (List Char)) (rest : List Char) :
    Stops (lines level false ps ++ (newline outer ++ rest)) := by
  match ps with
  | [] => exact stops_gap (by decide) _
  | p :: ps => exact stops_cons (List.mem_cons_self ..) _

/-- The next item is reached over the comma in front of its line. -/
theorem nextItem_lines {p : List Char} (h : Opens p) (level : Nat) (first : Bool)
    (ps : List (List Char)) (rest : List Char) :
    nextItem first (lines level first (p :: ps) ++ rest)
      = .ok (.more (p ++ (lines level false ps ++ rest))) := by
  have hopens := h.append (lines level false ps ++ rest)
  have hblanks := skipBlanks_open hopens
  obtain ⟨c, t, hcs, -, hc⟩ := hopens
  cases first with
  | true =>
    rw [lines, List.append_assoc, List.append_assoc, nextItem, skipBlanks_newline, hblanks, hcs]
    simp only [if_neg hc, if_true]
  | false =>
    have hcomma (cs : List Char) : skipBlanks (',' :: cs) = ',' :: cs := rfl
    rw [hcs] at hblanks
    rw [lines, List.cons_append, List.append_assoc, List.append_assoc, hcs, nextItem, hcomma]
    simp [skipBlanks_newline, hblanks, hc]

theorem nextItem_lines_closed (first : Bool) (outer : Nat) (rest : List Char) :
    nextItem first (newline outer ++ ']' :: rest) = .ok (.closed rest) := by
  rw [nextItem, skipBlanks_newline]
  rfl

/-- The next name is reached over the comma in front of its line. -/
theorem nextName_lines (level : Nat) (first : Bool) (m : String × Value) (ps : List (List Char))
    (rest : List Char) :
    nextName first (lines level first (indentedMember level m :: ps) ++ rest)
      = .ok (.more (Literal.encode m.1.toList ++ '"' :: ':' :: ' ' :: (m.2.renderIndented level ++
          (lines level false ps ++ rest)))) := by
  have hquote (cs : List Char) : skipBlanks ('"' :: cs) = '"' :: cs := rfl
  have hcomma (cs : List Char) : skipBlanks (',' :: cs) = ',' :: cs := rfl
  cases first <;>
    simp [lines, indentedMember, Literal.render, nextName, skipBlanks_newline, hquote, hcomma]

theorem nextName_lines_closed (first : Bool) (outer : Nat) (rest : List Char) :
    nextName first (newline outer ++ '}' :: rest) = .ok (.closed rest) := by
  rw [nextName, skipBlanks_newline]
  rfl

/-! ## Between the brackets -/

/-- The scan reads the text as `x`, in front of anything that may follow. -/
structure Reads {α : Type} (scan : Scan α) (cs : List Char) (x : α) : Prop where
  opens : Opens cs
  ok : ∀ {rest : List Char}, Stops rest → scan (cs ++ rest) = .ok (x, rest)

theorem Takes.reads {α : Type} {scan : Scan α} {v : Value} {x : α} (h : Takes scan v x) :
    Reads scan v.render x :=
  ⟨h.opens, h.ok⟩

section
variable {steps levels level : Nat}

/-- Items on lines are read one by one. -/
theorem scanItems_lines (outer : Nat) (rest : List Char) :
    ∀ (vs : List Value) (first : Bool) {count : Nat}, vs.length < count →
      (∀ v ∈ vs, Reads (scanValue steps levels) (v.renderIndented level) v) →
      scanItems (scanValue steps levels) count first
          (lines level first (vs.map (renderIndented level)) ++ (newline outer ++ ']' :: rest))
        = .ok (vs, rest)
  | [], first, count + 1, _, _ => by
    rw [List.map_nil, lines, List.nil_append, scanItems,
      ok_bind (nextItem_lines_closed first outer rest)]
  | v :: vs, first, count + 1, hcount, h => by
    obtain ⟨hv, hvs⟩ := List.forall_mem_cons.1 h
    rw [List.map_cons, scanItems, ok_bind (nextItem_lines hv.opens ..)]
    dsimp only
    rw [ok_bind (hv.ok (stops_lines _ _ _ _))]
    dsimp only
    rw [ok_bind (scanItems_lines outer rest vs false (by simpa using hcount) hvs)]

/-- Members on lines, with names that increase, are read one by one and put behind those read
before. -/
theorem scanMembers_lines (outer : Nat) (rest : List Char) :
    ∀ (ms : List (String × Value)) (first : Bool) (entries : List (String × Value)) {count : Nat},
      ms.length < count → Sorted (entries ++ ms) →
      (∀ m ∈ ms, Reads (scanValue steps levels) (m.2.renderIndented level) m.2) →
      scanMembers (scanValue steps levels) count first entries
          (lines level first (ms.map (indentedMember level)) ++ (newline outer ++ '}' :: rest))
        = .ok (entries ++ ms, rest)
  | [], first, entries, count + 1, _, _, _ => by
    rw [List.map_nil, lines, List.nil_append, scanMembers,
      ok_bind (nextName_lines_closed first outer rest), List.append_nil]
  | (k, v) :: ms, first, entries, count + 1, hcount, hsorted, h => by
    obtain ⟨hv, hms⟩ := List.forall_mem_cons.1 h
    have hlast : insertEntry k v entries = entries ++ [(k, v)] :=
      insertEntry_last fun e he =>
        (List.pairwise_append.1 hsorted).2.2 e he (k, v) (List.mem_cons_self ..)
    have happend : entries ++ (k, v) :: ms = (entries ++ [(k, v)]) ++ ms := by simp
    rw [List.map_cons, scanMembers, ok_bind (nextName_lines ..)]
    dsimp only
    rw [ok_bind (scanText_render ..)]
    dsimp only
    -- After the colon there is one blank more than without lines.
    rw [ok_bind (scanColon_colon _), scanValue_blank (by decide),
      ok_bind (hv.ok (stops_lines _ _ _ _))]
    dsimp only
    rw [hlast, happend]
    exact scanMembers_lines outer rest ms false _ (by simpa using hcount) (happend ▸ hsorted) hms

/-! ## Values -/

/-- What is read inside the brackets of an array on lines is the array. -/
theorem reads_array {v : Value} {vs : List Value} (hcount : (v :: vs).length < steps)
    (h : ∀ w ∈ v :: vs, Reads (scanValue steps levels) (w.renderIndented (level + 1)) w) :
    Reads (scanValue steps (levels + 1)) ((array (v :: vs)).renderIndented level)
      (array (v :: vs)) := by
  refine ⟨.cons (by decide) (by decide) _, fun {rest} _ => ?_⟩
  have hitems := scanItems_lines level rest (v :: vs) true hcount h
  have hrender : (array (v :: vs)).renderIndented level ++ rest
      = '[' :: (lines (level + 1) true ((v :: vs).map (renderIndented (level + 1)))
          ++ (newline level ++ ']' :: rest)) := by
    simp [renderIndented, indentedItems_eq]
  rw [hrender, scanValue.eq_def]
  dsimp only
  rw [skipBlanks_of_ne (by decide)]
  exact ok_bind hitems _

theorem reads_object {m : String × Value} {ms : List (String × Value)}
    (hcount : (m :: ms).length < steps) (hsorted : Sorted (m :: ms))
    (h : ∀ e ∈ m :: ms, Reads (scanValue steps levels) (e.2.renderIndented (level + 1)) e.2) :
    Reads (scanValue steps (levels + 1)) ((object (m :: ms)).renderIndented level)
      (object (m :: ms)) := by
  refine ⟨.cons (by decide) (by decide) _, fun {rest} _ => ?_⟩
  have hmembers := scanMembers_lines level rest (m :: ms) true [] hcount hsorted h
  have hrender : (object (m :: ms)).renderIndented level ++ rest
      = '{' :: (lines (level + 1) true ((m :: ms).map (indentedMember (level + 1)))
          ++ (newline level ++ '}' :: rest)) := by
    simp [renderIndented, indentedMembers_eq]
  rw [hrender, scanValue.eq_def]
  dsimp only
  rw [skipBlanks_of_ne (by decide)]
  exact ok_bind hmembers _

end

mutual

/-- A canonical value is read back as it is laid out on lines. -/
theorem reads_indented : ∀ {v : Value} {b : Budget} (level : Nat), v.Canonical → v.Legible b →
    Reads (scanValue b.steps b.levels) (v.renderIndented level) v
  | .null, _, _, hc, h => (takes_value hc h).reads
  | .bool true, _, _, hc, h => (takes_value hc h).reads
  | .bool false, _, _, hc, h => (takes_value hc h).reads
  | .number _, _, _, hc, h => (takes_value hc h).reads
  | .text _, _, _, hc, h => (takes_value hc h).reads
  | .array [], _, _, hc, h => (takes_value hc h).reads
  | .object [], _, _, hc, h => (takes_value hc h).reads
  | .array (v :: vs), b, level, hc, h => by
    obtain ⟨n, hlevels, hcount, hitems⟩ := h.array
    rw [hlevels]
    exact reads_array hcount (reads_items (level + 1) hc hitems)
  | .object (m :: ms), b, level, hc, h => by
    obtain ⟨n, hlevels, hcount, hmembers⟩ := h.object
    rw [hlevels]
    exact reads_object hcount hc.1 (reads_members (level + 1) hc.2 hmembers)

theorem reads_items : ∀ {vs : List Value} {b : Budget} (level : Nat), ItemsCanonical vs →
    (∀ v ∈ vs, v.Legible b) →
    ∀ v ∈ vs, Reads (scanValue b.steps b.levels) (v.renderIndented level) v
  | [], _, _, _, _ => by simp
  | v :: vs, b, level, hc, h => by
    obtain ⟨hv, hvs⟩ := List.forall_mem_cons.1 h
    exact List.forall_mem_cons.2 ⟨reads_indented level hc.1 hv, reads_items level hc.2 hvs⟩

theorem reads_members : ∀ {ms : List (String × Value)} {b : Budget} (level : Nat),
    MembersCanonical ms → (∀ m ∈ ms, m.2.Legible b) →
    ∀ m ∈ ms, Reads (scanValue b.steps b.levels) (m.2.renderIndented level) m.2
  | [], _, _, _, _ => by simp
  | (k, v) :: ms, b, level, hc, h => by
    obtain ⟨hv, hms⟩ := List.forall_mem_cons.1 h
    exact List.forall_mem_cons.2 ⟨reads_indented level hc.1 hv, reads_members level hc.2 hms⟩

end

/-! ## Documents -/

mutual

/-- Lines only make a value longer. -/
theorem length_render_le : ∀ (level : Nat) (v : Value),
    v.render.length ≤ (v.renderIndented level).length
  | _, .null => Nat.le_refl _
  | _, .bool true => Nat.le_refl _
  | _, .bool false => Nat.le_refl _
  | _, .number _ => Nat.le_refl _
  | _, .text _ => Nat.le_refl _
  | _, .array [] => Nat.le_refl _
  | _, .object [] => Nat.le_refl _
  | level, .array (v :: vs) => by
    have := length_renderItems_le (level + 1) (v :: vs)
    simp only [render, renderIndented, List.length_cons, List.length_append]
    omega
  | level, .object (m :: ms) => by
    have := length_renderMembers_le (level + 1) (m :: ms)
    simp only [render, renderIndented, List.length_cons, List.length_append]
    omega

theorem length_renderItems_le : ∀ (level : Nat) (vs : List Value),
    (renderItems vs).length ≤ (indentedItems level vs).length
  | _, [] => Nat.le_refl _
  | level, [v] => by
    have := length_render_le level v
    simp only [renderItems, indentedItems, List.length_append]
    omega
  | level, v :: w :: vs => by
    have := length_render_le level v
    have := length_renderItems_le level (w :: vs)
    simp only [renderItems, indentedItems, List.length_cons, List.length_append]
    omega

theorem length_renderMembers_le : ∀ (level : Nat) (ms : List (String × Value)),
    (renderMembers ms).length ≤ (indentedMembers level ms).length
  | _, [] => Nat.le_refl _
  | level, [(k, v)] => by
    have := length_render_le level v
    simp only [renderMembers, indentedMembers, List.length_cons, List.length_append]
    omega
  | level, (k, v) :: m :: ms => by
    have := length_render_le level v
    have := length_renderMembers_le level (m :: ms)
    simp only [renderMembers, indentedMembers, List.length_cons, List.length_append]
    omega

end

/-- A document on lines is read back, whatever blanks come after it. -/
theorem read_writeIndented {v : Value} (hc : v.Canonical) (hv : Schema.value.Portable v)
    {after : String} (hafter : ∀ c ∈ after.toList, isGap c = true) :
    Schema.value.read (v.writeIndented ++ after) = .ok v := by
  have htext : (v.writeIndented ++ after).toList = v.renderIndented 0 ++ after.toList := by
    simp [writeIndented]
  have hlegible : v.Legible ⟨(v.writeIndented ++ after).toList.length + 1, maxLevels⟩ := by
    refine ⟨hv.levels, ?_, hv.floats⟩
    have := length_render_le 0 v
    show v.render.length < (v.writeIndented ++ after).toList.length + 1
    rw [htext, List.length_append]
    omega
  have hread := (reads_indented 0 hc hlegible).ok (stops_blanks hafter)
  rw [← htext] at hread
  refine Schema.read_of_scan hread ?_
  have hblanks := skipBlanks_append hafter []
  rwa [List.append_nil] at hblanks

end Inventory.Json
