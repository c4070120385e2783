import Inventory.Proofs.Json.Passed
import Inventory.Proofs.Json.Yield

/-!
# Documents that differ in places

Two texts of a document can be alike in everything but some of its parts: a relation says how such
a part may differ, and is carried up through lists and records to the whole text. A relation fits a
scan if related texts are read as the same, and if whatever is read is related to itself, so that
the relation speaks of every text that can be read at all. Members that are no fields, and those
that no relation is given for, are the same on both sides; one member of a record may be left out
where reading it changes nothing. Main statements: `fits_list`, `fits_record` (a list or record
fits if its parts do) and `Fits.read` (documents that are alike are read as the same).
-/

namespace Inventory.Json

variable {α σ : Type} {cs ds t rest v w : List Char} {first first' : Bool}

/-! ## Likenesses -/

/-- A relation between texts. -/
abbrev Likeness := List Char → List Char → Prop

/-- One value, the same on both sides. -/
def Same : Likeness := fun v w => v = w ∧ IsValue v

/-- The text is a string in its quotes that is read as `s`. -/
def Quotes (v : List Char) (s : String) : Prop :=
  ∃ letters, v = '"' :: letters ∧ scanText letters = .ok (s, [])

section
variable (R : Likeness)

/-- Items that are alike one by one, up to the closing bracket. -/
inductive Items : Bool → Likeness
  | nil {first : Bool} {cs ds : List Char} : Gap cs → Gap ds → Items first cs ds
  | cons {first : Bool} {sep sep' v w cs ds : List Char} :
    Sep first sep → Sep first sep' → R v w → Items false cs ds →
    Items first (sep ++ (v ++ cs)) (sep' ++ (w ++ ds))

/-- Arrays whose items are alike. -/
inductive Arrays : Likeness
  | intro {cs ds : List Char} :
    Items R true cs ds → Arrays ('[' :: (cs ++ [']'])) ('[' :: (ds ++ [']']))

/-- Documents that are alike, with any blanks around them. -/
inductive Documents : Likeness
  | intro {l v r l' w r' : List Char} :
    Gap l → Gap r → Gap l' → Gap r' → R v w → Documents (l ++ (v ++ r)) (l' ++ (w ++ r'))

end

section
variable (R : String → Likeness) (key : String) (spare : List Char → Prop)

/-- Members that are alike, up to the closing bracket: names are the same, and values are as their
names ask. Of the members with the name `key`, those with a spare value may be left out. -/
inductive Members : Bool → Bool → Likeness
  | nil {first first' : Bool} {cs ds : List Char} : Gap cs → Gap ds → Members first first' cs ds
  | keep {first first' : Bool} {sep sep' name colon colon' v w cs ds : List Char} {s : String} :
    Sep first sep → Sep first' sep' → Quotes name s → Colon colon → Colon colon' → R s v w →
    Members false false cs ds →
    Members first first' (sep ++ (name ++ (colon ++ (v ++ cs))))
      (sep' ++ (name ++ (colon' ++ (w ++ ds))))
  | drop {first first' : Bool} {sep name colon v cs ds : List Char} :
    Sep first sep → Quotes name key → Colon colon → spare v → Members false first' cs ds →
    Members first first' (sep ++ (name ++ (colon ++ (v ++ cs)))) ds

/-- Items that are alike as the names of their places ask, up to the closing bracket. -/
inductive Positions : List String → Bool → Likeness
  | nil {names : List String} {first : Bool} {cs ds : List Char} :
    Gap cs → Gap ds → Positions names first cs ds
  | cons {name : String} {names : List String} {first : Bool} {sep sep' v w cs ds : List Char} :
    Sep first sep → Sep first sep' → R name v w → Positions names false cs ds →
    Positions (name :: names) first (sep ++ (v ++ cs)) (sep' ++ (w ++ ds))

/-- Records that are alike, as objects or as arrays of their fields in order. -/
inductive Records (names : List String) : Likeness
  | object {cs ds : List Char} : Members R key spare true true cs ds →
    Records names ('{' :: (cs ++ ['}'])) ('{' :: (ds ++ ['}']))
  | array {cs ds : List Char} : Positions R names true cs ds →
    Records names ('[' :: (cs ++ [']'])) ('[' :: (ds ++ [']']))

end

/-! ## Fitting -/

/-- Wherever it stands, the text is read as `x`, if `n` levels can be opened. -/
def Spells (scan : Budget → Scan α) (n : Nat) (v : List Char) (x : α) : Prop :=
  ∀ b : Budget, n ≤ b.levels → v.length < b.steps → Reads (scan b) v x

/-- The relation is about the texts that the scan reads, and related texts are read as the same. -/
structure Fits (scan : Budget → Scan α) (n : Nat) (R : Likeness) : Prop where
  /-- Blanks in front of a value do not matter. -/
  gap : ∀ {b gap}, Gap gap → ∀ cs, scan b (gap ++ cs) = scan b cs
  opens : ∀ {v w}, R v w → Opens v
  /-- What is read from the one text is read from the other, wherever that stands. -/
  carry : ∀ {b v w rest x tail}, R v w → Stops rest → scan b (v ++ rest) = .ok (x, tail) →
    tail = rest ∧ Spells scan n w x
  /-- What is read is a text that the relation is about. -/
  cover : ∀ {b cs x rest}, scan b cs = .ok (x, rest) →
    ∃ gap v, Gap gap ∧ cs = gap ++ (v ++ rest) ∧ R v v

theorem Fits.mono {scan : Budget → Scan α} {n m : Nat} {R : Likeness} (h : Fits scan n R)
    (hnm : n ≤ m) : Fits scan m R where
  gap := h.gap
  opens := h.opens
  cover := h.cover
  carry hR hrest hread := by
    obtain ⟨htail, hspells⟩ := h.carry hR hrest hread
    exact ⟨htail, fun b hb => hspells b (Nat.le_trans hnm hb)⟩

/-- What stands between brackets is read one level further in. -/
theorem Spells.inside {scan : Budget → Scan α} (inside : Budget → Scan α) {n : Nat}
    {opening closing : Char} {x : α} (hgap : isGap opening = false) (hopening : opening ≠ ']')
    (hscan : ∀ {b : Budget} {k : Nat}, b.levels = k + 1 → ∀ t,
      scan b (opening :: t) = inside { b with levels := k } t)
    (hinside : ∀ {b : Budget}, n ≤ b.levels → cs.length < b.steps → ∀ r,
      inside b (cs ++ closing :: r) = .ok (x, r)) :
    Spells scan (n + 1) (opening :: (cs ++ [closing])) x := by
  intro b hlevels hlength
  refine ⟨.cons hgap hopening _, fun {r} _ => ?_⟩
  have htext : opening :: (cs ++ [closing]) ++ r = opening :: (cs ++ closing :: r) := by simp
  have hlevel : b.levels = (b.levels - 1) + 1 := by omega
  simp only [List.length_cons, List.length_append] at hlength
  rw [htext, hscan hlevel]
  apply hinside
  · show n ≤ b.levels - 1
    omega
  · show cs.length < b.steps
    omega

theorem Sep.append_gap {sep gap : List Char} (h : Sep first sep) (hgap : Gap gap) :
    Sep first (sep ++ gap) := by
  cases first with
  | true => exact Gap.append h hgap
  | false =>
    obtain ⟨l, r, hl, hr, rfl⟩ := h
    exact ⟨l, r ++ gap, hl, hr.append hgap, by simp⟩

theorem Opens.ne_gap {gap u : List Char} (hv : Opens v) (hgap : Gap gap) (h : v = gap ++ u) :
    gap = [] := by
  obtain ⟨c, t, rfl, hc, -⟩ := hv
  cases gap with
  | nil => rfl
  | cons d gap =>
    obtain ⟨rfl, -⟩ := List.cons.inj h
    rw [hgap c (List.mem_cons_self ..)] at hc
    contradiction

/-- The same values are read as the same by a scan that reads values whole. -/
theorem fits_same {scan : Budget → Scan α} {n : Nat}
    (hgap : ∀ {b gap}, Gap gap → ∀ cs, scan b (gap ++ cs) = scan b cs)
    (hskip : ∀ {b cs x rest}, scan b cs = .ok (x, rest) →
      ∃ m, skipFrom m .value [] cs = .ok rest)
    (hwhole : ∀ {b cs x rest}, Stops rest → scan b cs = .ok (x, rest) →
      ∃ gap v, Gap gap ∧ cs = gap ++ (v ++ rest) ∧ Spells scan n v x) : Fits scan n Same where
  gap := hgap
  opens := fun ⟨_, hv⟩ => hv.opens
  cover hread := by
    obtain ⟨m, hm⟩ := hskip hread
    obtain ⟨gap, v, hgap, hcs, hv⟩ := isValue_of_skip hm
    exact ⟨gap, v, hgap, hcs, rfl, hv⟩
  carry := by
    rintro b v _ rest x tail ⟨rfl, hv⟩ hrest hread
    obtain ⟨m, hm⟩ := hskip hread
    have hvalue : skipValue (v ++ rest) = .ok rest := skipValue_isValue hv gap_nil hrest
    obtain rfl : tail = rest := by simpa [hvalue] using (skipValue_of_skip hm).symm
    obtain ⟨gap, u, hgap, hcs, hspells⟩ := hwhole hrest hread
    have hv' : v = gap ++ u := by simpa [← List.append_assoc] using hcs
    rw [hv.opens.ne_gap hgap hv', List.nil_append] at hv'
    exact ⟨rfl, hv' ▸ hspells⟩

/-! ## Texts -/

theorem scanText_piece {s : String} (h : scanText cs = .ok (s, rest)) :
    Piece scanText (fun r => .ok (s, r)) cs rest := by
  cases hread : scanChars cs with
  | error e =>
    rw [scanText, hread] at h
    contradiction
  | ok p =>
    rw [scanText, hread] at h
    obtain ⟨rfl, rfl⟩ : String.ofList p.1 = s ∧ p.2 = rest := by simpa [Except.map] using h
    obtain ⟨piece, hpiece, hscan⟩ := scanChars_piece hread
    refine ⟨piece, hpiece, fun r hr => ?_⟩
    rw [scanText, hscan r hr]
    rfl

theorem text_gap {b : Budget} {gap : List Char} (h : Gap gap) (cs : List Char) :
    Schema.text.scan b (gap ++ cs) = Schema.text.scan b cs := by
  simp only [Schema.text, skipBlanks_gap h]

theorem Quotes.opens {s : String} (h : Quotes v s) : Opens v := by
  obtain ⟨letters, rfl, -⟩ := h
  exact .cons (by decide) (by decide) _

/-- A string is read after its opening quote wherever it stands. -/
theorem Quotes.scanText {s : String} (h : Quotes v s) :
    ∃ letters, v = '"' :: letters ∧
      ∀ r, Stops r → Json.scanText (letters ++ r) = .ok (s, r) := by
  obtain ⟨letters, rfl, hread⟩ := h
  obtain ⟨piece, hpiece, hscan⟩ := scanText_piece hread
  rw [List.append_nil] at hpiece
  exact ⟨letters, rfl, hpiece ▸ hscan⟩

theorem Quotes.reads {s : String} (h : Quotes v s) (b : Budget) :
    Reads (Schema.text.scan b) v s := by
  refine ⟨h.opens, fun {r} hr => ?_⟩
  obtain ⟨letters, rfl, hscan⟩ := h.scanText
  exact hscan r hr

/-- What is read after an opening quote is a string with that quote in front. -/
theorem quotes_of_scanText {s : String} (h : Json.scanText cs = .ok (s, rest)) :
    ∃ letters, cs = letters ++ rest ∧ Quotes ('"' :: letters) s := by
  obtain ⟨letters, rfl, hscan⟩ := scanText_piece h
  have hread := hscan [] stops_nil
  rw [List.append_nil] at hread
  exact ⟨letters, rfl, letters, rfl, hread⟩

/-- What is read as a text is a string after blanks. -/
theorem quotes_of_text {b : Budget} {s : String} (h : Schema.text.scan b cs = .ok (s, rest)) :
    ∃ gap v, Gap gap ∧ cs = gap ++ (v ++ rest) ∧ Quotes v s := by
  simp only [Schema.text] at h
  split at h
  · next t hcs =>
    obtain ⟨-, gap, hgap, rfl⟩ := skipBlanks_eq_cons.1 hcs
    obtain ⟨letters, rfl, hquotes⟩ := quotes_of_scanText h
    exact ⟨gap, '"' :: letters, hgap, rfl, hquotes⟩
  · contradiction

theorem fits_text : Fits Schema.text.scan 0 Same := by
  refine fits_same text_gap (fun h => ⟨2, skipFrom_text h 1 []⟩) fun _ h => ?_
  obtain ⟨gap, v, hgap, hcs, hv⟩ := quotes_of_text h
  exact ⟨gap, v, hgap, hcs, fun b _ _ => hv.reads b⟩

/-! ## Lists -/

/-- After what stands in front of it comes an item. -/
theorem nextItem_item {sep : List Char} (hsep : Sep first sep) (hv : Opens v)
    (cs t : List Char) :
    nextItem first (sep ++ (v ++ cs) ++ t) = .ok (.more (v ++ (cs ++ t))) :=
  nextItem_eq_more.2 ⟨hv.append (cs ++ t), sep, hsep, by simp⟩

section
variable {scan : Scan α} {steps : Nat}

theorem scanItems_end {gap : List Char} (h : Gap gap) :
    scanItems scan (steps + 1) first (gap ++ ']' :: rest) = .ok ([], rest) := by
  rw [scanItems, ok_bind (nextItem_eq_closed.2 ⟨gap, h, rfl⟩)]

/-- An item is read, then those that follow it. -/
theorem scanItems_item {sep : List Char} (hsep : Sep first sep) (hv : Opens v) :
    scanItems scan (steps + 1) first (sep ++ (v ++ cs) ++ t) =
      scan (v ++ (cs ++ t)) >>= fun p =>
        scanItems scan steps false p.2 >>= fun q => .ok (p.1 :: q.1, q.2) := by
  rw [scanItems, ok_bind (nextItem_item hsep hv cs t)]

end

section
variable {R : Likeness} {item : Budget → Scan α} {n : Nat}

theorem Items.stops (h : Items R false cs ds) (rest rest' : List Char) :
    Stops (cs ++ ']' :: rest) ∧ Stops (ds ++ ']' :: rest') := by
  cases h with
  | nil hcs hds =>
    exact ⟨hcs.stops (stops_cons (by decide) _), hds.stops (stops_cons (by decide) _)⟩
  | cons hsep hsep' _ _ => exact ⟨hsep.stops _ _, hsep'.stops _ _⟩

/-- Items that are alike are read as the same. -/
theorem scanItems_alike (h : Fits item n R) (hitems : Items R first cs ds) :
    ∀ {b : Budget} {steps : Nat} {rest tail : List Char} {xs : List α},
      scanItems (item b) steps first (cs ++ ']' :: rest) = .ok (xs, tail) →
      tail = rest ∧ ∀ {b' : Budget} {steps' : Nat} (rest' : List Char), n ≤ b'.levels →
        ds.length < b'.steps → ds.length < steps' →
        scanItems (item b') steps' first (ds ++ ']' :: rest') = .ok (xs, rest') := by
  induction hitems with
  | nil hcs hds =>
    intro b steps rest tail xs hread
    cases steps with
    | zero => contradiction
    | succ steps =>
      rw [scanItems_end hcs] at hread
      obtain ⟨rfl, rfl⟩ : [] = xs ∧ rest = tail := by simpa using hread
      refine ⟨rfl, fun {b' steps'} rest' _ _ hsteps => ?_⟩
      obtain ⟨k, rfl⟩ := Nat.exists_eq_add_one_of_ne_zero (show steps' ≠ 0 by omega)
      exact scanItems_end hds
  | @cons first sep sep' v w cs ds hsep hsep' hR hrest ih =>
    intro b steps rest tail xs hread
    cases steps with
    | zero => contradiction
    | succ steps =>
      rw [scanItems_item hsep (h.opens hR)] at hread
      obtain ⟨⟨x, t⟩, hx, hread⟩ := bind_eq_ok.1 hread
      obtain ⟨⟨ys, t'⟩, hys, hread⟩ := bind_eq_ok.1 hread
      obtain ⟨rfl, rfl⟩ : x :: ys = xs ∧ t' = tail := by simpa using hread
      obtain ⟨rfl, hspells⟩ := h.carry hR (hrest.stops rest rest).1 hx
      obtain ⟨htail, hys'⟩ := ih hys
      refine ⟨htail, fun {b' steps'} rest' hlevels hlength hsteps => ?_⟩
      simp only [List.length_append] at hlength hsteps
      obtain ⟨k, rfl⟩ := Nat.exists_eq_add_one_of_ne_zero (show steps' ≠ 0 by omega)
      have hw := hspells b' hlevels (by omega)
      have hwlength : 0 < w.length := by
        obtain ⟨c, t, rfl, -⟩ := hw.opens
        exact Nat.succ_pos _
      rw [scanItems_item hsep' hw.opens, ok_bind (hw.ok (hrest.stops rest rest').2),
        ok_bind (hys' rest' hlevels (by omega) (by omega))]

/-- Items that are read are alike to themselves. -/
theorem items_of_scanItems (h : Fits item n R) {b : Budget} :
    ∀ {steps : Nat} {first : Bool} {cs : List Char} {xs : List α},
      scanItems (item b) steps first cs = .ok (xs, rest) →
      ∃ ds, cs = ds ++ ']' :: rest ∧ Items R first ds ds := by
  intro steps
  induction steps with
  | zero => intro first cs xs hread; contradiction
  | succ steps ih =>
    intro first cs xs hread
    rw [scanItems] at hread
    obtain ⟨next, hnext, hread⟩ := bind_eq_ok.1 hread
    cases next with
    | closed t =>
      obtain ⟨-, rfl⟩ : [] = xs ∧ t = rest := by simpa using hread
      obtain ⟨gap, hgap, rfl⟩ := nextItem_eq_closed.1 hnext
      exact ⟨gap, rfl, .nil hgap hgap⟩
    | more t =>
      obtain ⟨⟨x, t'⟩, hx, hread⟩ := bind_eq_ok.1 hread
      obtain ⟨⟨ys, tail⟩, hys, hread⟩ := bind_eq_ok.1 hread
      obtain ⟨-, rfl⟩ : x :: ys = xs ∧ tail = rest := by simpa using hread
      obtain ⟨-, sep, hsep, rfl⟩ := nextItem_eq_more.1 hnext
      obtain ⟨gap, v, hgap, rfl, hv⟩ := h.cover hx
      obtain ⟨ds, rfl, hds⟩ := ih hys
      have hsep' := hsep.append_gap hgap
      exact ⟨(sep ++ gap) ++ (v ++ ds), by simp, .cons hsep' hsep' hv hds⟩

/-- A list fits if its items do. -/
theorem fits_list {item : Schema α} (h : Fits item.scan n R) :
    Fits (Schema.list item).scan (n + 1) (Arrays R) where
  gap hgap cs := by simp only [Schema.list, skipBlanks_gap hgap]
  opens := fun ⟨_⟩ => .cons (by decide) (by decide) _
  carry := by
    intro b v w rest xs tail hR _ hread
    obtain @⟨cs, ds, hitems⟩ := hR
    have htext : '[' :: (cs ++ [']']) ++ rest = '[' :: (cs ++ ']' :: rest) := by simp
    rw [htext] at hread
    obtain ⟨inner, -, hread⟩ := bind_eq_ok.1 hread
    obtain ⟨htail, hsame⟩ := scanItems_alike h hitems hread
    refine ⟨htail, .inside (fun inner => scanItems (item.scan inner) inner.steps true)
      (by decide) (by decide) (fun hlevel _ => ok_bind (enter_of_levels hlevel) _) ?_⟩
    intro b' hlevels hlength r
    exact hsame r hlevels hlength hlength
  cover hread := by
    simp only [Schema.list] at hread
    split at hread
    · next t hcs =>
      obtain ⟨-, gap, hgap, rfl⟩ := skipBlanks_eq_cons.1 hcs
      obtain ⟨inner, -, hread⟩ := bind_eq_ok.1 hread
      obtain ⟨ds, rfl, hds⟩ := items_of_scanItems h hread
      exact ⟨gap, '[' :: (ds ++ [']']), hgap, by simp, ⟨hds⟩⟩
    · contradiction

end

end Inventory.Json
