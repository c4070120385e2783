import Inventory.Proofs.Json.Leaf

/-!
# Reading back values

The written form of a value is read as that value, in front of anything that may follow a value.
The proof follows the value: items and members are read one by one, each between its separators,
within what is left of the budget. Floats are the one exception: they are read back as far as each
of them is. Main statements: `scanItems_commas`, `scanMembers_commas` (what stands between the
brackets, for any kind of item) and `takes_value`.
-/

namespace Inventory.Json

/-! ## Separators -/

/-- Texts with a comma in front of each, except in front of the first one of all. -/
def commas : Bool → List (List Char) → List Char
  | _, [] => []
  | true, p :: ps => p ++ commas false ps
  | false, p :: ps => ',' :: (p ++ commas false ps)

theorem le_length_commas {p : List Char} :
    ∀ (first : Bool) {ps : List (List Char)}, p ∈ ps → p.length ≤ (commas first ps).length
  | true, q :: ps, h => by
    rw [commas, List.length_append]
    rcases List.mem_cons.1 h with rfl | h
    · omega
    · have := le_length_commas false h
      omega
  | false, q :: ps, h => by
    rw [commas, List.length_cons, List.length_append]
    rcases List.mem_cons.1 h with rfl | h
    · omega
    · have := le_length_commas false h
      omega

theorem length_le_commas_false :
    ∀ ps : List (List Char), ps.length ≤ (commas false ps).length
  | [] => Nat.zero_le _
  | p :: ps => by
    have := length_le_commas_false ps
    simp only [commas, List.length_cons, List.length_append]
    omega

/-- There is a comma for each text but the first. -/
theorem length_le_commas (ps : List (List Char)) : ps.length ≤ (commas true ps).length + 1 := by
  match ps with
  | [] => simp
  | p :: ps =>
    have := length_le_commas_false ps
    simp only [commas, List.length_cons, List.length_append]
    omega

/-- After one of the texts comes a comma or the closing bracket. -/
theorem stops_commas {close : Char} (h : close ∈ [']', '}']) (ps : List (List Char))
    (rest : List Char) : Stops (commas false ps ++ close :: rest) := by
  match ps with
  | [] => exact stops_cons (List.mem_cons_of_mem _ h) rest
  | p :: ps => exact stops_cons (List.mem_cons_self ..) _

/-- A name with its value. -/
def renderMember (m : String × Value) : List Char := Literal.render m.1 ++ ':' :: m.2.render

theorem renderItems_eq : ∀ vs : List Value, Value.renderItems vs = commas true (vs.map Value.render)
  | [] => rfl
  | [v] => by simp [Value.renderItems, commas]
  | v :: w :: vs => by simp [Value.renderItems, commas, renderItems_eq (w :: vs)]

theorem renderMembers_eq :
    ∀ ms : List (String × Value), Value.renderMembers ms = commas true (ms.map renderMember)
  | [] => rfl
  | [(k, v)] => by simp [Value.renderMembers, commas, renderMember]
  | (k, v) :: m :: ms => by
    simp [Value.renderMembers, commas, renderMember, renderMembers_eq (m :: ms)]

/-! ## Between the brackets -/

/-- The text begins with neither a blank nor a closing bracket. -/
def Opens (cs : List Char) : Prop := ∃ c t, cs = c :: t ∧ isGap c = false ∧ c ≠ ']'

theorem Opens.cons {c : Char} (h : isGap c = false) (hc : c ≠ ']') (t : List Char) :
    Opens (c :: t) := ⟨c, t, rfl, h, hc⟩

theorem Opens.append {cs : List Char} (h : Opens cs) (rest : List Char) : Opens (cs ++ rest) := by
  obtain ⟨c, t, rfl, hgap, hc⟩ := h
  exact .cons hgap hc _

theorem skipBlanks_open {cs : List Char} (h : Opens cs) : skipBlanks cs = cs := by
  obtain ⟨c, t, rfl, hgap, -⟩ := h
  exact skipBlanks_of_ne hgap t

theorem nextItem_closed (first : Bool) (rest : List Char) :
    nextItem first (']' :: rest) = .ok (.closed rest) := rfl

/-- The next item is reached over the comma in front of it. -/
theorem nextItem_commas {p : List Char} (h : Opens p) (first : Bool) (ps : List (List Char))
    (rest : List Char) :
    nextItem first (commas first (p :: ps) ++ rest)
      = .ok (.more (p ++ (commas false ps ++ rest))) := by
  have hopens := h.append (commas false ps ++ rest)
  have hblanks := skipBlanks_open hopens
  obtain ⟨c, t, hcs, -, hc⟩ := hopens
  cases first with
  | true =>
    rw [commas, List.append_assoc, nextItem, hblanks, hcs]
    simp only [if_neg hc, if_true]
  | false =>
    have hcomma : skipBlanks (',' :: c :: t) = ',' :: c :: t := rfl
    rw [hcs] at hblanks
    rw [commas, List.cons_append, List.append_assoc, hcs, nextItem, hcomma]
    simp [hblanks, hc]

theorem nextName_closed (first : Bool) (rest : List Char) :
    nextName first ('}' :: rest) = .ok (.closed rest) := rfl

/-- The next name is reached over the comma in front of it. -/
theorem nextName_commas (m : String × Value) (first : Bool) (ps : List (List Char))
    (rest : List Char) :
    nextName first (commas first (renderMember m :: ps) ++ rest)
      = .ok (.more (Literal.encode m.1.toList ++ '"' :: ':' :: (m.2.render ++
          (commas false ps ++ rest)))) := by
  cases first <;> simp [commas, renderMember, Literal.render, nextName, skipBlanks, isGap]

theorem scanColon_colon (rest : List Char) : scanColon (':' :: rest) = .ok rest := rfl

/-! ## What a scan takes -/

/-- The scan takes the written form of a value as `x`, in front of anything that may follow. -/
structure Takes {α : Type} (scan : Scan α) (v : Value) (x : α) : Prop where
  opens : Opens v.render
  ok : ∀ {rest : List Char}, Stops rest → scan (v.render ++ rest) = .ok (x, rest)

section
variable {α : Type} (enc : α → Value)

/-- Items are read one by one. -/
theorem scanItems_commas {item : Scan α} (rest : List Char) :
    ∀ (xs : List α) (first : Bool) {steps : Nat}, xs.length < steps →
      (∀ x ∈ xs, Takes item (enc x) x) →
      scanItems item steps first (commas first (xs.map fun x => (enc x).render) ++ ']' :: rest)
        = .ok (xs, rest)
  | [], first, steps + 1, _, _ => by
    rw [List.map_nil, commas, List.nil_append, scanItems, ok_bind (nextItem_closed first rest)]
  | x :: xs, first, steps + 1, hsteps, h => by
    obtain ⟨hx, hxs⟩ := List.forall_mem_cons.1 h
    rw [List.map_cons, scanItems, ok_bind (nextItem_commas hx.opens ..)]
    dsimp only
    rw [ok_bind (hx.ok (stops_commas (by decide) _ rest))]
    dsimp only
    rw [ok_bind (scanItems_commas rest xs false (by simpa using hsteps) hxs)]

/-- A name past all others is set at the end. -/
theorem insertEntry_last {name : String} {x : α} :
    ∀ {entries : List (String × α)}, (∀ e ∈ entries, e.1 < name) →
      insertEntry name x entries = entries ++ [(name, x)]
  | [], _ => rfl
  | (k, y) :: entries, h => by
    obtain ⟨hk, hentries⟩ := List.forall_mem_cons.1 h
    have hlt : ¬ name < k := fun hlt => String.lt_irrefl k (String.lt_trans hk hlt)
    rw [insertEntry, if_neg hlt, if_neg (String.ne_of_lt hk).symm, insertEntry_last hentries]
    rfl

/-- Members whose names increase are read one by one and put behind those read before. -/
theorem scanMembers_commas {value : Scan α} (rest : List Char) :
    ∀ (xs : List (String × α)) (first : Bool) (entries : List (String × α)) {steps : Nat},
      xs.length < steps → Sorted (entries ++ xs) → (∀ e ∈ xs, Takes value (enc e.2) e.2) →
      scanMembers value steps first entries
          (commas first (xs.map fun e => renderMember (e.1, enc e.2)) ++ '}' :: rest)
        = .ok (entries ++ xs, rest)
  | [], first, entries, steps + 1, _, _, _ => by
    rw [List.map_nil, commas, List.nil_append, scanMembers, ok_bind (nextName_closed first rest),
      List.append_nil]
  | (k, x) :: xs, first, entries, steps + 1, hsteps, hsorted, h => by
    obtain ⟨hx, hxs⟩ := List.forall_mem_cons.1 h
    -- Names increase, so what is read goes behind all that was read before.
    have hlast : insertEntry k x entries = entries ++ [(k, x)] :=
      insertEntry_last fun e he =>
        (List.pairwise_append.1 hsorted).2.2 e he (k, x) (List.mem_cons_self ..)
    have happend : entries ++ (k, x) :: xs = (entries ++ [(k, x)]) ++ xs := by simp
    rw [List.map_cons, scanMembers, ok_bind (nextName_commas ..)]
    dsimp only
    rw [ok_bind (scanText_render ..)]
    dsimp only
    rw [ok_bind (scanColon_colon _), ok_bind (hx.ok (stops_commas (by decide) _ rest))]
    dsimp only
    rw [hlast, happend]
    exact scanMembers_commas rest xs false _ (by simpa using hsteps) (happend ▸ hsorted) hxs

end

/-! ## Numbers -/

/-- The number is read from its own digits. -/
def Number.ReadsBack (n : Number) : Prop := scanNumber n.render = .ok (n, [])

theorem Number.readsBack_whole {n : Int} (h : FitsWord n) : (Number.whole n h).ReadsBack :=
  scanNumber_whole h

/-- A number begins with a minus or a digit. -/
theorem begins_of_scanNumber {cs r : List Char} {x : Number} (h : scanNumber cs = .ok (x, r)) :
    ∃ c t, cs = c :: t ∧ (c = '-' ∨ c.isDigit = true) := by
  match cs with
  | [] => contradiction
  | c :: t =>
    refine ⟨c, t, rfl, ?_⟩
    by_cases hminus : c = '-'
    · exact .inl hminus
    · right
      rw [scanNumber, if_neg hminus] at h
      obtain ⟨⟨whole, tail⟩, hwhole, -⟩ := bind_eq_ok.1 h
      by_cases hzero : c = '0'
      · rw [hzero]; rfl
      · by_cases hdigit : c.isDigit = true
        · exact hdigit
        · simp [scanWhole, hzero, hdigit] at hwhole

/-! ## Values -/

namespace Value

mutual

/-- The floats in a value. -/
def floats : Value → List Decimal.Binary64
  | .number (.float x) => [x]
  | .array xs => itemFloats xs
  | .object xs => memberFloats xs
  | _ => []

/-- The floats in the items. -/
def itemFloats : List Value → List Decimal.Binary64
  | [] => []
  | x :: xs => x.floats ++ itemFloats xs

/-- The floats in the members. -/
def memberFloats : List (String × Value) → List Decimal.Binary64
  | [] => []
  | (_, x) :: xs => x.floats ++ memberFloats xs

end

/-- Every float in the value is read from its own digits. -/
def FloatsReadBack (v : Value) : Prop := ∀ x ∈ v.floats, (Number.float x).ReadsBack

theorem mem_itemFloats (x : Decimal.Binary64) (xs : List Value) :
    x ∈ itemFloats xs ↔ ∃ v ∈ xs, x ∈ v.floats := by
  induction xs with
  | nil => simp [itemFloats]
  | cons v xs ih => simp [itemFloats, ih]

theorem mem_memberFloats (x : Decimal.Binary64) (xs : List (String × Value)) :
    x ∈ memberFloats xs ↔ ∃ m ∈ xs, x ∈ m.2.floats := by
  induction xs with
  | nil => simp [memberFloats]
  | cons m xs ih => simp [memberFloats, ih]

theorem itemLevels_le (n : Nat) (xs : List Value) :
    itemLevels xs ≤ n ↔ ∀ v ∈ xs, v.levels ≤ n := by
  induction xs with
  | nil => simp [itemLevels]
  | cons v xs ih => rw [itemLevels, Nat.max_le, ih, List.forall_mem_cons]

theorem memberLevels_le (n : Nat) (xs : List (String × Value)) :
    memberLevels xs ≤ n ↔ ∀ m ∈ xs, m.2.levels ≤ n := by
  induction xs with
  | nil => simp [memberLevels]
  | cons m xs ih => rw [memberLevels, Nat.max_le, ih, List.forall_mem_cons]

theorem itemsCanonical_iff (xs : List Value) :
    ItemsCanonical xs ↔ ∀ v ∈ xs, v.Canonical := by
  induction xs with
  | nil => simp [ItemsCanonical]
  | cons v xs ih => rw [ItemsCanonical, ih, List.forall_mem_cons]

theorem membersCanonical_iff (xs : List (String × Value)) :
    MembersCanonical xs ↔ ∀ m ∈ xs, m.2.Canonical := by
  induction xs with
  | nil => simp [MembersCanonical]
  | cons m xs ih => rw [MembersCanonical, ih, List.forall_mem_cons]

/-- The budget is enough for reading the written form of a value, in which every float is read
back. -/
structure Legible (v : Value) (b : Budget) : Prop where
  levels : v.levels ≤ b.levels
  steps : v.render.length < b.steps
  floats : v.FloatsReadBack

/-- What stands between brackets has one level less, and fewer parts and shorter ones than the
budget has steps. -/
theorem Legible.inside {v : Value} {b : Budget} (h : v.Legible b) {l : Nat}
    {ps : List (List Char)} (hlevels : v.levels = l + 1)
    (hrender : v.render.length = (commas true ps).length + 2) :
    ∃ n, b.levels = n + 1 ∧ l ≤ n ∧ ps.length < b.steps ∧ ∀ p ∈ ps, p.length < b.steps := by
  have hbudget := h.levels
  have hsteps := h.steps
  have hcount := length_le_commas ps
  refine ⟨b.levels - 1, by omega, by omega, by omega, fun p hp => ?_⟩
  have := le_length_commas true hp
  omega

theorem Legible.array {xs : List Value} {b : Budget} (h : (array xs).Legible b) :
    ∃ n, b.levels = n + 1 ∧ xs.length < b.steps ∧
      ∀ v ∈ xs, v.Legible { b with levels := n } := by
  have hrender : (Value.array xs).render.length = (commas true (xs.map render)).length + 2 := by
    simp [render, renderItems_eq]
  obtain ⟨n, hn, hlevels, hcount, hlength⟩ := h.inside (l := itemLevels xs) rfl hrender
  rw [List.length_map] at hcount
  refine ⟨n, hn, hcount, fun v hv => ⟨?_, ?_, fun x hx => ?_⟩⟩
  · exact (itemLevels_le n xs).1 hlevels v hv
  · exact hlength _ (List.mem_map_of_mem hv)
  · exact h.floats x (by simpa [Value.floats] using (mem_itemFloats x xs).2 ⟨v, hv, hx⟩)

theorem Legible.object {ms : List (String × Value)} {b : Budget} (h : (object ms).Legible b) :
    ∃ n, b.levels = n + 1 ∧ ms.length < b.steps ∧
      ∀ m ∈ ms, m.2.Legible { b with levels := n } := by
  have hrender : (Value.object ms).render.length
      = (commas true (ms.map renderMember)).length + 2 := by
    simp [render, renderMembers_eq]
  obtain ⟨n, hn, hlevels, hcount, hlength⟩ := h.inside (l := memberLevels ms) rfl hrender
  rw [List.length_map] at hcount
  refine ⟨n, hn, hcount, fun m hm => ⟨?_, ?_, fun x hx => ?_⟩⟩
  · exact (memberLevels_le n ms).1 hlevels m hm
  · -- The value is the end of its member.
    have hmember := hlength _ (List.mem_map_of_mem hm)
    have hvalue : m.2.render.length ≤ (renderMember m).length := by
      simp only [renderMember, List.length_append, List.length_cons]
      omega
    exact Nat.lt_of_le_of_lt hvalue hmember
  · exact h.floats x (by simpa [Value.floats] using (mem_memberFloats x ms).2 ⟨m, hm, hx⟩)

end Value

open Value

/-- A number is taken wherever it is read from its own digits. -/
theorem takes_number {n : Number} (h : n.ReadsBack) (steps levels : Nat) :
    Takes (scanValue steps levels) (.number n) (.number n) := by
  obtain ⟨c, t, hrender, hc⟩ := begins_of_scanNumber h
  -- None of the other beginnings of a value is a minus or a digit.
  have hne {d : Char} (hd : ¬ (d = '-' ∨ d.isDigit = true)) : c ≠ d := fun heq => hd (heq ▸ hc)
  have hspace : c ≠ ' ' := hne (by decide)
  have hline : c ≠ '\n' := hne (by decide)
  have htab : c ≠ '\t' := hne (by decide)
  have hreturn : c ≠ '\r' := hne (by decide)
  have hclose : c ≠ ']' := hne (by decide)
  have hnull : c ≠ 'n' := hne (by decide)
  have htrue : c ≠ 't' := hne (by decide)
  have hfalse : c ≠ 'f' := hne (by decide)
  have hquote : c ≠ '"' := hne (by decide)
  have harray : c ≠ '[' := hne (by decide)
  have hobject : c ≠ '{' := hne (by decide)
  have hgap : isGap c = false := by simp [isGap, hspace, hline, htab, hreturn]
  constructor
  · show Opens n.render
    rw [hrender]
    exact .cons hgap hclose t
  · -- A number has no end of its own: this is where it matters what may follow.
    intro rest hrest
    have hread : scanNumber (c :: (t ++ rest)) = .ok (n, rest) := by
      have := scanNumber_append hrest h
      rwa [hrender] at this
    show scanValue steps levels (n.render ++ rest) = _
    rw [hrender, List.cons_append, scanValue.eq_def]
    simp only [skipBlanks_of_ne hgap, hnull, htrue, hfalse, hquote, harray, hobject, if_false,
      if_pos hc]
    rw [ok_bind hread]

/-- What is read inside the brackets of an array is the array. -/
theorem takes_array {xs : List Value} {steps levels : Nat} (hsteps : xs.length < steps)
    (h : ∀ v ∈ xs, Takes (scanValue steps levels) v v) :
    Takes (scanValue steps (levels + 1)) (.array xs) (.array xs) := by
  refine ⟨.cons (by decide) (by decide) _, fun {rest} _ => ?_⟩
  have hitems := scanItems_commas id rest xs true hsteps h
  have hrender : (array xs).render ++ rest
      = '[' :: (commas true (xs.map fun v => (id v).render) ++ ']' :: rest) := by
    simp [render, renderItems_eq]
  rw [hrender, scanValue.eq_def]
  dsimp only
  rw [skipBlanks_of_ne (by decide)]
  exact ok_bind hitems _

theorem takes_object {ms : List (String × Value)} {steps levels : Nat} (hsteps : ms.length < steps)
    (hsorted : Sorted ms) (h : ∀ m ∈ ms, Takes (scanValue steps levels) m.2 m.2) :
    Takes (scanValue steps (levels + 1)) (.object ms) (.object ms) := by
  refine ⟨.cons (by decide) (by decide) _, fun {rest} _ => ?_⟩
  have hmembers := scanMembers_commas id rest ms true [] hsteps hsorted h
  have hrender : (object ms).render ++ rest
      = '{' :: (commas true (ms.map fun m => renderMember (m.1, id m.2)) ++ '}' :: rest) := by
    simp [render, renderMembers_eq]
  rw [hrender, scanValue.eq_def]
  dsimp only
  rw [skipBlanks_of_ne (by decide)]
  exact ok_bind hmembers _

mutual

/-- A canonical value is read back as it is written. -/
theorem takes_value : ∀ {v : Value} {b : Budget}, v.Canonical → v.Legible b →
    Takes (scanValue b.steps b.levels) v v
  | .null, b, _, _ => by
    refine ⟨.cons (by decide) (by decide) _, fun {rest} _ => ?_⟩
    rw [scanValue.eq_def]
    rfl
  | .bool true, b, _, _ => by
    refine ⟨.cons (by decide) (by decide) _, fun {rest} _ => ?_⟩
    rw [scanValue.eq_def]
    rfl
  | .bool false, b, _, _ => by
    refine ⟨.cons (by decide) (by decide) _, fun {rest} _ => ?_⟩
    rw [scanValue.eq_def]
    rfl
  | .number (.whole n hn), b, _, _ => takes_number (Number.readsBack_whole hn) ..
  | .number (.float x), b, _, h => takes_number (h.floats x (by simp [floats])) ..
  | .text s, b, _, _ => by
    refine ⟨.cons (by decide) (by decide) _, fun {rest} _ => ?_⟩
    have htext := scanText_render s rest
    rw [render, Literal.render, List.cons_append, List.append_assoc, scanValue.eq_def]
    dsimp only
    rw [skipBlanks_of_ne (by decide)]
    exact ok_bind htext _
  | .array xs, b, hc, h => by
    obtain ⟨n, hlevels, hsteps, hitems⟩ := h.array
    rw [hlevels]
    exact takes_array hsteps (takes_items hc hitems)
  | .object ms, b, hc, h => by
    obtain ⟨n, hlevels, hsteps, hmembers⟩ := h.object
    rw [hlevels]
    exact takes_object hsteps hc.1 (takes_members hc.2 hmembers)

theorem takes_items : ∀ {xs : List Value} {b : Budget}, ItemsCanonical xs →
    (∀ v ∈ xs, v.Legible b) → ∀ v ∈ xs, Takes (scanValue b.steps b.levels) v v
  | [], _, _, _ => by simp
  | v :: xs, b, hc, h => by
    obtain ⟨hv, hxs⟩ := List.forall_mem_cons.1 h
    exact List.forall_mem_cons.2 ⟨takes_value hc.1 hv, takes_items hc.2 hxs⟩

theorem takes_members : ∀ {ms : List (String × Value)} {b : Budget}, MembersCanonical ms →
    (∀ m ∈ ms, m.2.Legible b) → ∀ m ∈ ms, Takes (scanValue b.steps b.levels) m.2 m.2
  | [], _, _, _ => by simp
  | (k, v) :: ms, b, hc, h => by
    obtain ⟨hv, hms⟩ := List.forall_mem_cons.1 h
    exact List.forall_mem_cons.2 ⟨takes_value hc.1 hv, takes_members hc.2 hms⟩

end

end Inventory.Json
