import Inventory.Proofs.Json.Likeness

/-!
# Records that differ in places

A record is read member by member, in any order, so two objects that are alike are read as the same
record as long as each member of the one is a member of the other, or reading it changes nothing.
What makes that so is an invariant: a field that has not been seen still has its default. Main
statements: `scanNamed_alike` (objects), `scanFields_alike` (arrays of fields) and `fits_record`.
-/

namespace Inventory.Json

variable {α σ : Type} {cs ds t rest v w : List Char} {first first' : Bool}

/-! ## Lists of texts -/

theorem skipFrom_listText {b : Budget} {xs : List String}
    (h : (Schema.list .text).scan b cs = .ok (xs, rest)) :
    ∃ m, skipFrom m .value [] cs = .ok rest := by
  simp only [Schema.list] at h
  split at h
  · next t hcs =>
    obtain ⟨hc, gap, hgap, rfl⟩ := skipBlanks_eq_cons.1 hcs
    obtain ⟨inner, -, h⟩ := bind_eq_ok.1 h
    obtain ⟨m, hm⟩ := skipFrom_texts h
    exact ⟨m + 1, (skipFrom_value hgap hc).trans hm⟩
  · contradiction

/-- A list of texts, the same on both sides, is read as the same. -/
theorem fits_listText : Fits (Schema.list .text).scan 1 Same := by
  have hlist := fits_list fits_text
  refine fits_same hlist.gap skipFrom_listText fun hrest h => ?_
  obtain ⟨gap, v, hgap, rfl, hv⟩ := hlist.cover h
  rw [hlist.gap hgap] at h
  exact ⟨gap, v, hgap, rfl, (hlist.carry hv hrest h).2⟩

/-! ## Fields -/

/-- A field fits a relation when reading it into any record does. -/
def Field.Fits (f : Field σ) (n : Nat) (R : Likeness) : Prop :=
  ∀ s, Json.Fits (fun b => f.scan b s) n R

theorem Field.scan_of_eq_ok {name : String} {schema : Schema α} {get : σ → α} {set : σ → α → σ}
    {b : Budget} {s s' : σ} : (Field.of name schema get set).scan b s cs = .ok (s', rest) ↔
      ∃ x, schema.scan b cs = .ok (x, rest) ∧ set s x = s' := by
  cases hread : schema.scan b cs with
  | error e => simp [Field.of, hread, Except.map]
  | ok p =>
    obtain ⟨x, t⟩ := p
    simp only [Field.of, hread, Except.map, Except.ok.injEq, Prod.mk.injEq]
    constructor
    · rintro ⟨rfl, rfl⟩
      exact ⟨x, ⟨rfl, rfl⟩, rfl⟩
    · rintro ⟨y, ⟨rfl, rfl⟩, rfl⟩
      exact ⟨rfl, rfl⟩

/-- A field fits if its schema does. -/
theorem Field.fits_of {name : String} {schema : Schema α} {get : σ → α} {set : σ → α → σ}
    {n : Nat} {R : Likeness} (h : Json.Fits schema.scan n R) :
    (Field.of name schema get set).Fits n R := fun s => {
  gap := fun hgap cs => by simp only [Field.of, h.gap hgap]
  opens := h.opens
  carry := fun hR hrest hread => by
    obtain ⟨x, hx, rfl⟩ := Field.scan_of_eq_ok.1 hread
    obtain ⟨htail, hspells⟩ := h.carry hR hrest hx
    refine ⟨htail, fun b hb hlength => ⟨(hspells b hb hlength).opens, fun hr => ?_⟩⟩
    exact Field.scan_of_eq_ok.2 ⟨x, (hspells b hb hlength).ok hr, rfl⟩
  cover := fun hread => by
    obtain ⟨x, hx, -⟩ := Field.scan_of_eq_ok.1 hread
    exact h.cover hx }

/-- Every field fits what its name asks, none must be given, and what is no field is the same. -/
structure Loose (all : List (Field σ)) (n : Nat) (R : String → Likeness) : Prop where
  fits : ∀ f ∈ all, f.Fits n (R f.name)
  optional : ∀ f ∈ all, f.required = false
  others : ∀ name, (∀ f ∈ all, f.name ≠ name) → R name = Same

/-- Reading a spare value changes nothing while the record is as at first, which other fields do
not change. -/
structure Idle (all : List (Field σ)) (key : String) (spare : List Char → Prop)
    (initial : σ → Prop) : Prop where
  known : ∀ v, spare v → ∃ f ∈ all, f.name = key
  idle : ∀ f ∈ all, f.name = key → ∀ v, spare v → ∀ b s, initial s → Reads (f.scan b s) v s
  kept : ∀ f ∈ all, f.name ≠ key → ∀ b s, initial s → Gives (f.scan b s) initial

section
variable {all : List (Field σ)} {n : Nat} {R : String → Likeness} {key : String}
  {spare : List Char → Prop} {initial : σ → Prop}

/-- Where nothing is spare there is nothing to ask. -/
theorem idle_none : Idle all key (fun _ => False) fun _ => True where
  known _ h := h.elim
  idle _ _ _ _ h := h.elim
  kept _ _ _ _ _ _ _ _ _ _ := trivial

/-! ## Arrays of fields -/

theorem Positions.stops {names : List String} (h : Positions R names false cs ds)
    (rest rest' : List Char) : Stops (cs ++ ']' :: rest) ∧ Stops (ds ++ ']' :: rest') := by
  cases h with
  | nil hcs hds =>
    exact ⟨hcs.stops (stops_cons (by decide) _), hds.stops (stops_cons (by decide) _)⟩
  | cons hsep hsep' _ _ => exact ⟨hsep.stops _ _, hsep'.stops _ _⟩

/-- When no field must be given, an array of fields may end anywhere. -/
theorem scanFields_closed (h : ∀ f ∈ all, f.required = false) {fields : List (Field σ)}
    (hfields : ∀ f ∈ fields, f ∈ all) {gap : List Char} (hgap : Gap gap) (wanted : String)
    (b : Budget) (count : Nat) (s : σ) :
    Schema.scanFields wanted b count fields first s (gap ++ ']' :: rest) = .ok (s, rest) := by
  cases fields with
  | nil =>
    rw [Schema.scanFields, ok_bind (scanArrayEnd_eq_ok.2 ⟨gap, hgap, rfl⟩)]
  | cons f fields =>
    have hnone : (f :: fields).any (·.required) = false := by
      refine List.any_eq_false.2 fun g hg => ?_
      rw [h g (hfields g hg)]
      decide
    rw [Schema.scanFields, ok_bind (nextItem_eq_closed.2 ⟨gap, hgap, rfl⟩)]
    simp only [hnone, Bool.false_eq_true, if_false]

/-- A field is read, then those that follow it. -/
theorem scanFields_field {wanted : String} {b : Budget} {count : Nat} {f : Field σ}
    {fields : List (Field σ)} {s : σ} {sep : List Char} (hsep : Sep first sep) (hv : Opens v) :
    Schema.scanFields wanted b count (f :: fields) first s (sep ++ (v ++ cs) ++ t) =
      f.scan b s (v ++ (cs ++ t)) >>= fun p =>
        Schema.scanFields wanted b (count + 1) fields false p.1 p.2 := by
  rw [Schema.scanFields, ok_bind (nextItem_item hsep hv cs t)]

/-- Arrays of fields that are alike are read as the same record. -/
theorem scanFields_alike (h : Loose all n R) (wanted : String) {names : List String}
    (hpositions : Positions R names first cs ds) :
    ∀ {fields : List (Field σ)}, names = fields.map (·.name) → (∀ f ∈ fields, f ∈ all) →
    ∀ {b : Budget} {count : Nat} {s x : σ} {rest tail : List Char},
      Schema.scanFields wanted b count fields first s (cs ++ ']' :: rest) = .ok (x, tail) →
      tail = rest ∧ ∀ {b' : Budget} (rest' : List Char), n ≤ b'.levels → ds.length < b'.steps →
        Schema.scanFields wanted b' count fields first s (ds ++ ']' :: rest') = .ok (x, rest') := by
  induction hpositions with
  | nil hcs hds =>
    intro fields _ hfields b count s x rest tail hread
    rw [scanFields_closed h.optional hfields hcs] at hread
    obtain ⟨rfl, rfl⟩ : s = x ∧ rest = tail := by simpa using hread
    exact ⟨rfl, fun rest' _ _ => scanFields_closed h.optional hfields hds wanted _ count s⟩
  | @cons name names first sep sep' v w cs ds hsep hsep' hR hrest ih =>
    intro fields hnames hfields b count s x rest tail hread
    cases fields with
    | nil => contradiction
    | cons f fields =>
      obtain ⟨rfl, hfollowing⟩ := List.cons.inj hnames
      have hf := h.fits f (hfields f (List.mem_cons_self ..)) s
      rw [scanFields_field hsep (hf.opens hR)] at hread
      obtain ⟨⟨s', t⟩, hs', hread⟩ := bind_eq_ok.1 hread
      obtain ⟨rfl, hspells⟩ := hf.carry hR (hrest.stops rest rest).1 hs'
      obtain ⟨htail, hsame⟩ :=
        ih hfollowing (fun g hg => hfields g (List.mem_cons_of_mem _ hg)) hread
      refine ⟨htail, fun {b'} rest' hlevels hlength => ?_⟩
      simp only [List.length_append] at hlength
      have hw := hspells b' hlevels (by omega)
      rw [scanFields_field hsep' hw.opens, ok_bind (hw.ok (hrest.stops rest rest').2)]
      exact hsame rest' hlevels (by omega)

/-- An array of fields that is read is alike to itself. -/
theorem positions_of_scanFields (h : Loose all n R) {wanted : String} {b : Budget} {x : σ} :
    ∀ {fields : List (Field σ)}, (∀ f ∈ fields, f ∈ all) →
    ∀ {count : Nat} {first : Bool} {s : σ} {cs : List Char},
      Schema.scanFields wanted b count fields first s cs = .ok (x, rest) →
      ∃ ds, cs = ds ++ ']' :: rest ∧ Positions R (fields.map (·.name)) first ds ds := by
  intro fields
  induction fields with
  | nil =>
    intro _ count first s cs hread
    rw [Schema.scanFields] at hread
    obtain ⟨t, hend, hread⟩ := bind_eq_ok.1 hread
    obtain ⟨-, rfl⟩ : s = x ∧ t = rest := by simpa using hread
    obtain ⟨gap, hgap, rfl⟩ := scanArrayEnd_eq_ok.1 hend
    exact ⟨gap, rfl, .nil hgap hgap⟩
  | cons f fields ih =>
    intro hfields count first s cs hread
    rw [Schema.scanFields] at hread
    obtain ⟨next, hnext, hread⟩ := bind_eq_ok.1 hread
    cases next with
    | closed t =>
      dsimp only at hread
      split at hread
      · contradiction
      · obtain ⟨-, rfl⟩ : s = x ∧ t = rest := by simpa using hread
        obtain ⟨gap, hgap, rfl⟩ := nextItem_eq_closed.1 hnext
        exact ⟨gap, rfl, .nil hgap hgap⟩
    | more t =>
      obtain ⟨⟨s', t'⟩, hs', hfollowing⟩ := bind_eq_ok.1 hread
      obtain ⟨-, sep, hsep, rfl⟩ := nextItem_eq_more.1 hnext
      obtain ⟨gap, v, hgap, rfl, hv⟩ := (h.fits f (hfields f (List.mem_cons_self ..)) s).cover hs'
      obtain ⟨ds, rfl, hds⟩ := ih (fun g hg => hfields g (List.mem_cons_of_mem _ hg)) hfollowing
      have hsep' := hsep.append_gap hgap
      exact ⟨(sep ++ gap) ++ (v ++ ds), by simp, .cons hsep' hsep' hv hds⟩

/-! ## Objects -/

theorem Members.stops (h : Members R key spare false first' cs ds) (rest : List Char) :
    Stops (cs ++ '}' :: rest) := by
  cases h with
  | nil hcs _ => exact hcs.stops (stops_cons (by decide) _)
  | keep hsep _ _ _ _ _ _ => exact hsep.stops _ _
  | drop hsep _ _ _ _ => exact hsep.stops _ _

theorem Members.stops_right (h : Members R key spare first false cs ds) (rest : List Char) :
    Stops (ds ++ '}' :: rest) := by
  generalize hfirst : false = first' at h
  induction h with
  | nil _ hds => exact hds.stops (stops_cons (by decide) _)
  | keep _ hsep' _ _ _ _ _ _ =>
    subst hfirst
    exact hsep'.stops _ _
  | drop _ _ _ _ _ ih => exact ih hfirst

/-- The value of a member that is read into a record: the names seen with it, the record, and what
follows. -/
def readMember (all : List (Field σ)) (b : Budget) (seen : List String) (s : σ) (k : String)
    (cs : List Char) : Except Misread (List String × σ × List Char) :=
  match all.find? fun f => f.name == k with
  | some f =>
    if seen.contains k then .error (.mismatch (.repeated k))
    else (f.scan b s cs).map fun p => (k :: seen, p)
  | none => (skipValue cs).map fun rest => (seen, s, rest)

section
variable {b : Budget} {steps : Nat} {seen seen₁ : List String} {s s₁ : σ} {k : String}

/-- A member is read into its field, or passed over if it has none. -/
theorem readMember_cases (h : readMember all b seen s k cs = .ok (seen₁, s₁, rest)) :
    (∃ f ∈ all, f.name = k ∧ all.find? (fun g => g.name == k) = some f ∧ k ∉ seen ∧
      f.scan b s cs = .ok (s₁, rest) ∧ seen₁ = k :: seen) ∨
    ((∀ f ∈ all, f.name ≠ k) ∧ all.find? (fun g => g.name == k) = none ∧
      skipValue cs = .ok rest ∧ s₁ = s ∧ seen₁ = seen) := by
  unfold readMember at h
  cases hfind : all.find? fun f => f.name == k with
  | some f =>
    rw [hfind] at h
    dsimp only at h
    split at h
    · contradiction
    next hseen =>
    cases hread : f.scan b s cs with
    | error e =>
      rw [hread] at h
      contradiction
    | ok p =>
      rw [hread] at h
      obtain ⟨rfl, hs, hrest⟩ : k :: seen = seen₁ ∧ p.1 = s₁ ∧ p.2 = rest := by
        simpa [Except.map, Prod.ext_iff] using h
      refine .inl ⟨f, List.mem_of_find?_eq_some hfind, ?_, rfl, by simpa using hseen, ?_, rfl⟩
      · simpa using List.find?_some hfind
      · rw [hread, ← hs, ← hrest]
  | none =>
    rw [hfind] at h
    dsimp only at h
    cases hread : skipValue cs with
    | error e =>
      rw [hread] at h
      contradiction
    | ok t =>
      rw [hread] at h
      obtain ⟨rfl, rfl, rfl⟩ : seen = seen₁ ∧ s = s₁ ∧ t = rest := by
        simpa [Except.map] using h
      exact .inr ⟨by simpa using List.find?_eq_none.1 hfind, rfl, rfl, rfl, rfl⟩

/-- When no field must be given, an object may end anywhere. -/
theorem scanNamed_closed (h : ∀ f ∈ all, f.required = false) {gap : List Char} (hgap : Gap gap) :
    Schema.scanNamed all b (steps + 1) first seen s (gap ++ '}' :: rest) = .ok (s, rest) := by
  have hnone : all.find? (fun f => f.required && !seen.contains f.name) = none := by
    refine List.find?_eq_none.2 fun f hf => ?_
    simp [h f hf]
  rw [Schema.scanNamed, ok_bind (nextName_eq_closed.2 ⟨gap, hgap, rfl⟩)]
  simp only [hnone]

/-- After a name and its colon comes the value of the member. -/
theorem scanNamed_name {sep name l r : List Char} (hsep : Sep first sep) (hname : Quotes name k)
    (hl : Gap l) (t : List Char) :
    Schema.scanNamed all b (steps + 1) first seen s (sep ++ (name ++ ((l ++ ':' :: r) ++ t)))
      = readMember all b seen s k (r ++ t) >>= fun p =>
          Schema.scanNamed all b steps false p.1 p.2.1 p.2.2 := by
  obtain ⟨letters, rfl, hletters⟩ := hname.scanText
  have hstops : Stops ((l ++ ':' :: r) ++ t) := by
    rw [List.append_assoc]
    exact hl.stops (stops_colon _)
  have hcolon : scanColon ((l ++ ':' :: r) ++ t) = .ok (r ++ t) :=
    scanColon_eq_ok.2 ⟨l, hl, by simp⟩
  rw [Schema.scanNamed, List.cons_append, ok_bind (nextName_eq_more.2 ⟨sep, hsep, rfl⟩)]
  dsimp only
  rw [ok_bind (hletters _ hstops)]
  unfold readMember
  cases all.find? fun f => f.name == k with
  | some f =>
    dsimp only
    split
    · rfl
    · rw [ok_bind hcolon]
      cases f.scan b s (r ++ t) <;> rfl
  | none =>
    dsimp only
    rw [ok_bind hcolon]
    cases skipValue (r ++ t) <;> rfl

/-- An object that is read ends, or goes on with a member. -/
theorem scanNamed_cases {x : σ}
    (h : Schema.scanNamed all b (steps + 1) first seen s cs = .ok (x, rest)) :
    (∃ gap, Gap gap ∧ cs = gap ++ '}' :: rest) ∨
    ∃ sep name colon k t p, Sep first sep ∧ Quotes name k ∧ Colon colon ∧
      cs = sep ++ (name ++ (colon ++ t)) ∧ readMember all b seen s k t = .ok p ∧
      Schema.scanNamed all b steps false p.1 p.2.1 p.2.2 = .ok (x, rest) := by
  have hread := h
  rw [Schema.scanNamed] at hread
  obtain ⟨next, hnext, hafter⟩ := bind_eq_ok.1 hread
  cases next with
  | closed t =>
    dsimp only at hafter
    split at hafter
    · contradiction
    · obtain ⟨-, rfl⟩ : s = x ∧ t = rest := by simpa using hafter
      exact .inl (nextName_eq_closed.1 hnext)
  | more t =>
    right
    obtain ⟨⟨k, t'⟩, hk, hvalue⟩ := bind_eq_ok.1 hafter
    obtain ⟨u, hu⟩ : ∃ u, scanColon t' = .ok u := by
      dsimp only at hvalue
      split at hvalue
      · split at hvalue
        · contradiction
        · obtain ⟨u, hu, -⟩ := bind_eq_ok.1 hvalue
          exact ⟨u, hu⟩
      · obtain ⟨u, hu, -⟩ := bind_eq_ok.1 hvalue
        exact ⟨u, hu⟩
    obtain ⟨sep, hsep, rfl⟩ := nextName_eq_more.1 hnext
    obtain ⟨l, hl, rfl⟩ := scanColon_eq_ok.1 hu
    obtain ⟨letters, rfl, hname⟩ := quotes_of_scanText hk
    have htext : sep ++ '"' :: (letters ++ (l ++ ':' :: u))
        = sep ++ (('"' :: letters) ++ ((l ++ ':' :: []) ++ u)) := by simp
    rw [htext, scanNamed_name hsep hname hl] at h
    obtain ⟨p, hp, h⟩ := bind_eq_ok.1 h
    exact ⟨sep, '"' :: letters, l ++ [':'], k, u, p, hsep, hname, ⟨l, [], hl, gap_nil, rfl⟩, htext,
      hp, h⟩

/-- A member that is read has a value that the relation is about. -/
theorem readMember_cover (h : Loose all n R)
    (hread : readMember all b seen s k cs = .ok (seen₁, s₁, rest)) :
    ∃ gap v, Gap gap ∧ cs = gap ++ (v ++ rest) ∧ R k v v := by
  rcases readMember_cases hread with ⟨f, hf, rfl, -, -, hscan, -⟩ | ⟨hnone, -, hskip, -, -⟩
  · exact (h.fits f hf s).cover hscan
  · obtain ⟨gap, v, hgap, hcs, hv⟩ := isValue_of_skip hskip
    exact ⟨gap, v, hgap, hcs, by rw [h.others k hnone]; exact ⟨rfl, hv⟩⟩

/-- Values that are alike are read into the record as the same. -/
theorem readMember_alike (h : Loose all n R) (hR : R k v w) {gap : List Char} (hgap : Gap gap)
    (hrest : Stops rest) {tail : List Char}
    (hread : readMember all b seen s k (gap ++ (v ++ rest)) = .ok (seen₁, s₁, tail)) :
    tail = rest ∧ ∀ {b' : Budget} {seen' : List String} {gap' rest' : List Char}, Gap gap' →
      Stops rest' → n ≤ b'.levels → w.length < b'.steps → (∀ j ∈ seen', j ∈ seen) →
      ∃ seen₁', readMember all b' seen' s k (gap' ++ (w ++ rest')) = .ok (seen₁', s₁, rest') ∧
        ∀ j ∈ seen₁', j ∈ seen₁ := by
  rcases readMember_cases hread with
    ⟨f, hf, rfl, hfind, hunseen, hscan, rfl⟩ | ⟨hnone, hfind, hskip, rfl, rfl⟩
  · have hfits := h.fits f hf s
    rw [hfits.gap hgap] at hscan
    obtain ⟨htail, hspells⟩ := hfits.carry hR hrest hscan
    refine ⟨htail, fun {b' seen' gap' rest'} hgap' hrest' hlevels hlength hseen => ?_⟩
    refine ⟨f.name :: seen', ?_, List.cons_subset_cons _ hseen⟩
    have hunseen' : seen'.contains f.name = false := by
      simpa using fun hmem => hunseen (hseen _ hmem)
    have hw : f.scan b' s (gap' ++ (w ++ rest')) = .ok (s₁, rest') :=
      (hfits.gap hgap' _).trans ((hspells b' hlevels hlength).ok hrest')
    simp only [readMember, hfind, hunseen', Bool.false_eq_true, if_false]
    rw [hw]
    rfl
  · rw [h.others k hnone] at hR
    obtain ⟨rfl, hv⟩ := hR
    rw [skipValue_isValue hv hgap hrest] at hskip
    obtain rfl : rest = tail := by simpa using hskip
    refine ⟨rfl, fun {b' seen' gap' rest'} hgap' hrest' _ _ hseen => ⟨seen', ?_, hseen⟩⟩
    simp only [readMember, hfind, skipValue_isValue hv hgap' hrest']
    rfl

/-- While the key has not been seen the record is as at first. -/
theorem readMember_initial (hidle : Idle all key spare initial) (hinitial : key ∉ seen → initial s)
    (hread : readMember all b seen s k cs = .ok (seen₁, s₁, rest)) (hkey : key ∉ seen₁) :
    initial s₁ := by
  rcases readMember_cases hread with ⟨f, hf, rfl, -, -, hscan, rfl⟩ | ⟨-, -, -, rfl, rfl⟩
  · have hne : f.name ≠ key := fun heq => hkey (heq ▸ List.mem_cons_self ..)
    have hunseen : key ∉ seen := fun hmem => hkey (List.mem_cons_of_mem _ hmem)
    exact hidle.kept f hf hne b s (hinitial hunseen) hscan
  · exact hinitial hkey

/-- A spare value changes nothing but that the key has been seen. -/
theorem readMember_spare (h : Loose all n R) (hidle : Idle all key spare initial)
    (hinitial : key ∉ seen → initial s) (hspare : spare v) {gap : List Char} (hgap : Gap gap)
    (hrest : Stops rest) {tail : List Char}
    (hread : readMember all b seen s key (gap ++ (v ++ rest)) = .ok (seen₁, s₁, tail)) :
    tail = rest ∧ s₁ = s ∧ seen₁ = key :: seen := by
  rcases readMember_cases hread with ⟨f, hf, hname, -, hunseen, hscan, rfl⟩ | ⟨hnone, -, -, -, -⟩
  · rw [(h.fits f hf s).gap hgap,
      (hidle.idle f hf hname v hspare b s (hinitial hunseen)).ok hrest] at hscan
    obtain ⟨rfl, rfl⟩ : s = s₁ ∧ rest = tail := by simpa using hscan
    exact ⟨rfl, rfl, rfl⟩
  · obtain ⟨f, hf, hname⟩ := hidle.known v hspare
    exact absurd hname (hnone f hf)

end

/-- Objects that are alike are read as the same record, from a record that is as at first unless
the key has been seen. On the right fewer names may have been seen, but not others. -/
theorem scanNamed_alike (h : Loose all n R) (hidle : Idle all key spare initial)
    (hmembers : Members R key spare first first' cs ds) :
    ∀ {b : Budget} {steps : Nat} {seen : List String} {s x : σ} {rest tail : List Char},
      (key ∉ seen → initial s) →
      Schema.scanNamed all b steps first seen s (cs ++ '}' :: rest) = .ok (x, tail) →
      tail = rest ∧ ∀ {b' : Budget} {steps' : Nat} {seen' : List String} (rest' : List Char),
        n ≤ b'.levels → ds.length < b'.steps → ds.length < steps' → (∀ k ∈ seen', k ∈ seen) →
        Schema.scanNamed all b' steps' first' seen' s (ds ++ '}' :: rest') = .ok (x, rest') := by
  induction hmembers with
  | nil hcs hds =>
    intro b steps seen s x rest tail _ hread
    cases steps with
    | zero => contradiction
    | succ steps =>
      rw [scanNamed_closed h.optional hcs] at hread
      obtain ⟨rfl, rfl⟩ : s = x ∧ rest = tail := by simpa using hread
      refine ⟨rfl, fun {b' steps' seen'} rest' _ _ hsteps _ => ?_⟩
      obtain ⟨m, rfl⟩ := Nat.exists_eq_add_one_of_ne_zero (show steps' ≠ 0 by omega)
      exact scanNamed_closed h.optional hds
  | @keep first first' sep sep' name colon colon' v w cs ds k hsep hsep' hname hcolon hcolon' hR
      hrest ih =>
    intro b steps seen s x rest tail hinitial hread
    obtain ⟨l, r, hl, hr, rfl⟩ := hcolon
    obtain ⟨l', r', hl', hr', rfl⟩ := hcolon'
    cases steps with
    | zero => contradiction
    | succ steps =>
      have htext : sep ++ (name ++ ((l ++ ':' :: r) ++ (v ++ cs))) ++ '}' :: rest
          = sep ++ (name ++ ((l ++ ':' :: r) ++ (v ++ (cs ++ '}' :: rest)))) := by simp
      rw [htext, scanNamed_name hsep hname hl] at hread
      obtain ⟨⟨seen₁, s₁, t⟩, hmember, hread⟩ := bind_eq_ok.1 hread
      obtain ⟨rfl, hsame⟩ := readMember_alike h hR hr (hrest.stops rest) hmember
      obtain ⟨htail, hothers⟩ := ih (readMember_initial hidle hinitial hmember) hread
      refine ⟨htail, fun {b' steps' seen'} rest' hlevels hlength hsteps hseen => ?_⟩
      simp only [List.length_append, List.length_cons] at hlength hsteps
      obtain ⟨m, rfl⟩ := Nat.exists_eq_add_one_of_ne_zero (show steps' ≠ 0 by omega)
      obtain ⟨seen₁', hmember', hseen₁⟩ :=
        hsame hr' (hrest.stops_right rest') hlevels (by omega) hseen
      have htext' : sep' ++ (name ++ ((l' ++ ':' :: r') ++ (w ++ ds))) ++ '}' :: rest'
          = sep' ++ (name ++ ((l' ++ ':' :: r') ++ (w ++ (ds ++ '}' :: rest')))) := by simp
      rw [htext', scanNamed_name hsep' hname hl', ok_bind hmember']
      exact hothers rest' hlevels (by omega) (by omega) hseen₁
  | @drop first first' sep name colon v cs ds hsep hname hcolon hspare hrest ih =>
    -- The left goes on with one name more seen, the right where it is.
    intro b steps seen s x rest tail hinitial hread
    obtain ⟨l, r, hl, hr, rfl⟩ := hcolon
    cases steps with
    | zero => contradiction
    | succ steps =>
      have htext : sep ++ (name ++ ((l ++ ':' :: r) ++ (v ++ cs))) ++ '}' :: rest
          = sep ++ (name ++ ((l ++ ':' :: r) ++ (v ++ (cs ++ '}' :: rest)))) := by simp
      rw [htext, scanNamed_name hsep hname hl] at hread
      obtain ⟨⟨seen₁, s₁, t⟩, hmember, hread⟩ := bind_eq_ok.1 hread
      obtain ⟨rfl, rfl, rfl⟩ :=
        readMember_spare h hidle hinitial hspare hr (hrest.stops rest) hmember
      obtain ⟨htail, hothers⟩ :=
        ih (fun hkey => absurd (List.mem_cons_self ..) hkey) hread
      exact ⟨htail, fun rest' hlevels hlength hsteps hseen =>
        hothers rest' hlevels hlength hsteps fun j hj => List.mem_cons_of_mem _ (hseen j hj)⟩

/-- An object that is read is alike to itself. -/
theorem members_of_scanNamed (h : Loose all n R) {b : Budget} {x : σ} :
    ∀ {steps : Nat} {first : Bool} {seen : List String} {s : σ} {cs : List Char},
      Schema.scanNamed all b steps first seen s cs = .ok (x, rest) →
      ∃ ds, cs = ds ++ '}' :: rest ∧ Members R key spare first first ds ds := by
  intro steps
  induction steps with
  | zero => intro first seen s cs hread; contradiction
  | succ steps ih =>
    intro first seen s cs hread
    rcases scanNamed_cases hread with
      ⟨gap, hgap, rfl⟩ | ⟨sep, name, colon, k, t, ⟨seen₁, s₁, t'⟩, hsep, hname, hcolon, rfl, hp, h'⟩
    · exact ⟨gap, rfl, .nil hgap hgap⟩
    · obtain ⟨gap, v, hgap, rfl, hv⟩ := readMember_cover h hp
      obtain ⟨ds, rfl, hds⟩ := ih h'
      obtain ⟨l, r, hl, hr, rfl⟩ := hcolon
      have hcolon' : Colon (l ++ ':' :: (r ++ gap)) := ⟨l, r ++ gap, hl, hr.append hgap, rfl⟩
      exact ⟨sep ++ (name ++ ((l ++ ':' :: (r ++ gap)) ++ (v ++ ds))), by simp,
        .keep hsep hsep hname hcolon' hcolon' hv hds⟩

/-! ## Records -/

/-- A record fits if its fields do, and if a spare value for the key changes nothing. -/
theorem fits_record {name : String} {blank : σ} (h : Loose all n R)
    (hidle : Idle all key spare initial) (hblank : initial blank) :
    Fits (Schema.record name blank all).scan (n + 1)
      (Records R key spare (all.map (·.name))) where
  gap hgap cs := by simp only [Schema.record, skipBlanks_gap hgap]
  opens hR := by
    cases hR with
    | object _ => exact .cons (by decide) (by decide) _
    | array _ => exact .cons (by decide) (by decide) _
  carry := by
    intro b v w rest x tail hR _ hread
    cases hR with
    | @object cs ds hmembers =>
      have htext : '{' :: (cs ++ ['}']) ++ rest = '{' :: (cs ++ '}' :: rest) := by simp
      rw [htext] at hread
      obtain ⟨inner, -, hread⟩ := bind_eq_ok.1 hread
      obtain ⟨htail, hsame⟩ := scanNamed_alike h hidle hmembers (fun _ => hblank) hread
      refine ⟨htail, .inside (fun inner => Schema.scanNamed all inner inner.steps true [] blank)
        (by decide) (by decide) (fun hlevel _ => ok_bind (enter_of_levels hlevel) _) ?_⟩
      intro b' hlevels hlength r
      exact hsame r hlevels hlength hlength fun k hk => hk
    | @array cs ds hpositions =>
      have htext : '[' :: (cs ++ [']']) ++ rest = '[' :: (cs ++ ']' :: rest) := by simp
      rw [htext] at hread
      obtain ⟨inner, -, hread⟩ := bind_eq_ok.1 hread
      obtain ⟨htail, hsame⟩ := scanFields_alike h _ hpositions rfl (fun f hf => hf) hread
      refine ⟨htail, .inside (fun inner => Schema.scanFields _ inner 0 all true blank)
        (by decide) (by decide) (fun hlevel _ => ok_bind (enter_of_levels hlevel) _) ?_⟩
      intro b' hlevels hlength r
      exact hsame r hlevels hlength
  cover hread := by
    simp only [Schema.record] at hread
    split at hread
    · next t hcs =>
      obtain ⟨-, gap, hgap, rfl⟩ := skipBlanks_eq_cons.1 hcs
      obtain ⟨inner, -, hread⟩ := bind_eq_ok.1 hread
      obtain ⟨ds, rfl, hds⟩ := positions_of_scanFields h (fun f hf => hf) hread
      exact ⟨gap, '[' :: (ds ++ [']']), hgap, by simp, .array hds⟩
    · next t hcs =>
      obtain ⟨-, gap, hgap, rfl⟩ := skipBlanks_eq_cons.1 hcs
      obtain ⟨inner, -, hread⟩ := bind_eq_ok.1 hread
      obtain ⟨ds, rfl, hds⟩ := members_of_scanNamed h hread
      exact ⟨gap, '{' :: (ds ++ ['}']), hgap, by simp, .object hds⟩
    · contradiction

end

/-! ## Documents -/

section
variable {schema : Schema α} {n : Nat} {R : Likeness} {text text' : String} {x : α}

theorem Schema.read_eq_ok : schema.read text = .ok x ↔
    ∃ rest, schema.scan ⟨text.toList.length + 1, maxLevels⟩ text.toList = .ok (x, rest) ∧
      skipBlanks rest = [] := by
  constructor
  · intro h
    obtain ⟨⟨y, rest⟩, hscan, h⟩ := bind_eq_ok.1 h
    dsimp only at h
    split at h
    · next hrest =>
      obtain rfl : y = x := by simpa using h
      exact ⟨rest, hscan, hrest⟩
    · contradiction
  · rintro ⟨rest, hscan, hrest⟩
    exact read_of_scan hscan hrest

/-- Documents that are alike are read as the same. -/
theorem Fits.read (h : Fits schema.scan n R) (hn : n ≤ maxLevels)
    (hread : schema.read text = .ok x) (hlike : Documents R text.toList text'.toList) :
    schema.read text' = .ok x := by
  obtain ⟨rest, hscan, -⟩ := Schema.read_eq_ok.1 hread
  refine Schema.read_eq_ok.2 ?_
  generalize text.toList = cs, text'.toList = ds at hlike hscan
  cases hlike with
  | @intro l v r l' w r' hl hr hl' hr' hR =>
    rw [h.gap hl] at hscan
    obtain ⟨-, hspells⟩ := h.carry hR (stops_blanks hr) hscan
    have hw := hspells ⟨(l' ++ (w ++ r')).length + 1, maxLevels⟩ hn (by
      show w.length < (l' ++ (w ++ r')).length + 1
      simp only [List.length_append]
      omega)
    exact ⟨r', (h.gap hl' _).trans (hw.ok (stops_blanks hr')), hr'.skipBlanks_eq⟩

end

end Inventory.Json
