import Inventory.Proofs.Json.Schema

/-!
# What reading gives

Whatever is read is well formed: every object that was read has its members sorted by name, one
for each name, and a value has no more levels than could still be opened when it was begun. For
records this is an invariant: it holds of the blank record and every field that is read keeps it.
Main statements: `scanValue_gives`, `record_yields` and `read_yields`.
-/

namespace Inventory.Json

open Value

variable {α σ : Type}

/-- Everything the scan reads has the property. -/
def Gives (scan : Scan α) (P : α → Prop) : Prop :=
  ∀ ⦃cs : List Char⦄ ⦃x : α⦄ ⦃rest : List Char⦄, scan cs = .ok (x, rest) → P x

/-! ## Items and members -/

theorem scanItems_gives {item : Scan α} {P : α → Prop} (h : Gives item P) :
    ∀ (steps : Nat) (first : Bool), Gives (scanItems item steps first) fun xs => ∀ x ∈ xs, P x := by
  intro steps
  induction steps with
  | zero => intro first cs xs rest hread; contradiction
  | succ steps ih =>
    intro first cs xs rest hread
    rw [scanItems] at hread
    obtain ⟨next, -, hread⟩ := bind_eq_ok.1 hread
    cases next with
    | closed tail =>
      obtain ⟨rfl, -⟩ : [] = xs ∧ tail = rest := by simpa using hread
      exact List.forall_mem_nil _
    | more tail =>
      obtain ⟨⟨x, tail⟩, hx, hread⟩ := bind_eq_ok.1 hread
      obtain ⟨⟨ys, tail⟩, hys, hread⟩ := bind_eq_ok.1 hread
      obtain ⟨rfl, -⟩ : x :: ys = xs ∧ tail = rest := by simpa using hread
      exact List.forall_mem_cons.2 ⟨h hx, ih false hys⟩

/-- Each member is put among those read before, which stay sorted. -/
theorem scanMembers_gives {value : Scan α} {P : α → Prop} (h : Gives value P) :
    ∀ (steps : Nat) (first : Bool) {entries : List (String × α)}, Sorted entries →
      (∀ e ∈ entries, P e.2) →
      Gives (scanMembers value steps first entries) fun ms => Sorted ms ∧ ∀ m ∈ ms, P m.2 := by
  intro steps
  induction steps with
  | zero => intro first entries _ _ cs ms rest hread; contradiction
  | succ steps ih =>
    intro first entries hsorted hentries cs ms rest hread
    rw [scanMembers] at hread
    obtain ⟨next, -, hread⟩ := bind_eq_ok.1 hread
    cases next with
    | closed tail =>
      obtain ⟨rfl, -⟩ : entries = ms ∧ tail = rest := by simpa using hread
      exact ⟨hsorted, hentries⟩
    | more tail =>
      obtain ⟨⟨name, tail⟩, -, hread⟩ := bind_eq_ok.1 hread
      obtain ⟨tail, -, hread⟩ := bind_eq_ok.1 hread
      obtain ⟨⟨x, tail⟩, hx, hread⟩ := bind_eq_ok.1 hread
      -- A name that was read before has its value replaced, so the old value need not be kept.
      refine ih false (sorted_insertEntry name x hsorted) (fun e he => ?_) hread
      rcases mem_insertEntry he with rfl | he
      · exact h hx
      · exact hentries e he

/-- A word is read as the one value that it stands for. -/
theorem value_of_word {letters cs rest : List Char} {v w : Value}
    (h : (scanWord letters cs >>= fun tail => .ok (w, tail)) = .ok (v, rest)) : v = w := by
  obtain ⟨tail, -, h⟩ := bind_eq_ok.1 h
  injection h with h
  exact (Prod.mk.inj h).1.symm

/-- A value that is read is canonical and has no more levels than could be opened. -/
theorem scanValue_gives (steps : Nat) :
    ∀ levels : Nat, Gives (scanValue steps levels) fun v => v.Canonical ∧ v.levels ≤ levels := by
  intro levels cs v rest hread
  rw [scanValue.eq_def] at hread
  dsimp only at hread
  split at hread
  · contradiction
  next c tail _ =>
  by_cases hnull : c = 'n'
  · rw [if_pos hnull] at hread
    obtain rfl := value_of_word hread
    exact ⟨trivial, Nat.zero_le _⟩
  rw [if_neg hnull] at hread
  by_cases htrue : c = 't'
  · rw [if_pos htrue] at hread
    obtain rfl := value_of_word hread
    exact ⟨trivial, Nat.zero_le _⟩
  rw [if_neg htrue] at hread
  by_cases hfalse : c = 'f'
  · rw [if_pos hfalse] at hread
    obtain rfl := value_of_word hread
    exact ⟨trivial, Nat.zero_le _⟩
  rw [if_neg hfalse] at hread
  by_cases hquote : c = '"'
  · rw [if_pos hquote] at hread
    obtain ⟨⟨s, tail⟩, -, hread⟩ := bind_eq_ok.1 hread
    obtain ⟨rfl, -⟩ : .text s = v ∧ tail = rest := by simpa using hread
    exact ⟨trivial, Nat.zero_le _⟩
  rw [if_neg hquote] at hread
  by_cases harray : c = '['
  · rw [if_pos harray] at hread
    cases levels with
    | zero => contradiction
    | succ levels =>
      obtain ⟨⟨xs, tail⟩, hxs, hread⟩ := bind_eq_ok.1 hread
      obtain ⟨rfl, -⟩ : .array xs = v ∧ tail = rest := by simpa using hread
      have hitems := scanItems_gives (scanValue_gives steps levels) steps true hxs
      have hlevels := (itemLevels_le levels xs).2 fun v hv => (hitems v hv).2
      exact ⟨(itemsCanonical_iff xs).2 fun v hv => (hitems v hv).1, Nat.succ_le_succ hlevels⟩
  rw [if_neg harray] at hread
  by_cases hobject : c = '{'
  · rw [if_pos hobject] at hread
    cases levels with
    | zero => contradiction
    | succ levels =>
      obtain ⟨⟨ms, tail⟩, hms, hread⟩ := bind_eq_ok.1 hread
      obtain ⟨rfl, -⟩ : .object ms = v ∧ tail = rest := by simpa using hread
      obtain ⟨hsorted, hmembers⟩ := scanMembers_gives (scanValue_gives steps levels) steps true .nil
        (List.forall_mem_nil _) hms
      have hlevels := (memberLevels_le levels ms).2 fun m hm => (hmembers m hm).2
      exact ⟨⟨hsorted, (membersCanonical_iff ms).2 fun m hm => (hmembers m hm).1⟩,
        Nat.succ_le_succ hlevels⟩
  rw [if_neg hobject] at hread
  split at hread
  · obtain ⟨⟨n, tail⟩, -, hread⟩ := bind_eq_ok.1 hread
    obtain ⟨rfl, -⟩ : .number n = v ∧ tail = rest := by simpa using hread
    exact ⟨by simp [Value.Canonical], by simp [Value.levels]⟩
  · contradiction

/-! ## Schemas -/

/-- Everything a field reads into a record keeps the property. -/
def Field.Keeps (f : Field σ) (P : Nat → σ → Prop) : Prop :=
  ∀ (b : Budget) (s : σ), P b.levels s → Gives (f.scan b s) (P b.levels)

namespace Schema

/-- Everything that is read has the property, given the levels that could be opened. -/
def Yields (schema : Schema α) (P : Nat → α → Prop) : Prop :=
  ∀ b : Budget, Gives (schema.scan b) (P b.levels)

theorem yields_true (schema : Schema α) : schema.Yields fun _ _ => True := by
  intro b cs x rest _
  trivial

theorem value_yields : value.Yields fun n v => v.Canonical ∧ v.levels ≤ n := by
  intro b
  exact scanValue_gives b.steps b.levels

theorem enter_eq_ok {b inner : Budget} (h : b.enter = .ok inner) :
    b.levels = inner.levels + 1 ∧ inner.steps = b.steps := by
  unfold Budget.enter at h
  split at h
  · contradiction
  · next n hn =>
    injection h with h
    subst h
    exact ⟨hn, rfl⟩

theorem list_yields {item : Schema α} {P : Nat → α → Prop} (h : item.Yields P) :
    (list item).Yields fun n xs => ∃ m, n = m + 1 ∧ ∀ x ∈ xs, P m x := by
  intro b cs xs rest hread
  simp only [list] at hread
  split at hread
  · obtain ⟨inner, hinner, hread⟩ := bind_eq_ok.1 hread
    exact ⟨inner.levels, (enter_eq_ok hinner).1, scanItems_gives (h inner) b.steps true hread⟩
  · contradiction

theorem table_yields {value : Schema α} {P : Nat → α → Prop} (h : value.Yields P) :
    (table value).Yields fun n t => ∃ m, n = m + 1 ∧ ∀ e ∈ t.entries, P m e.2 := by
  intro b cs t rest hread
  simp only [table] at hread
  split at hread
  · next tail _ =>
    obtain ⟨inner, hinner, hread⟩ := bind_eq_ok.1 hread
    have hentries := scanTable_entries (value.scan inner) b.steps true .empty tail
    rw [hread] at hentries
    have hgives := scanMembers_gives (h inner) b.steps true .nil (List.forall_mem_nil _)
      hentries.symm
    exact ⟨inner.levels, (enter_eq_ok hinner).1, hgives.2⟩
  · contradiction

section
variable {P : Nat → σ → Prop} {all : List (Field σ)} (hkeeps : ∀ f ∈ all, f.Keeps P) {b : Budget}
include hkeeps

/-- Fields that are read one after the other keep the property. -/
theorem scanFields_gives (wanted : String) :
    ∀ (fields : List (Field σ)), (∀ f ∈ fields, f ∈ all) → ∀ (count : Nat) (first : Bool) (s : σ),
      P b.levels s → Gives (scanFields wanted b count fields first s) (P b.levels) := by
  intro fields
  induction fields with
  | nil =>
    intro _ count first s hs cs x rest hread
    obtain ⟨tail, -, hread⟩ := bind_eq_ok.1 hread
    obtain ⟨rfl, -⟩ : s = x ∧ tail = rest := by simpa using hread
    exact hs
  | cons f fields ih =>
    intro hfields count first s hs cs x rest hread
    rw [scanFields] at hread
    obtain ⟨next, -, hread⟩ := bind_eq_ok.1 hread
    cases next with
    | closed tail =>
      dsimp only at hread
      split at hread
      · contradiction
      · obtain ⟨rfl, -⟩ : s = x ∧ tail = rest := by simpa using hread
        exact hs
    | more tail =>
      obtain ⟨⟨s', tail⟩, hs', hread⟩ := bind_eq_ok.1 hread
      have hkept := hkeeps f (hfields f (List.mem_cons_self ..)) b s hs hs'
      exact ih (fun g hg => hfields g (List.mem_cons_of_mem _ hg)) (count + 1) false s' hkept hread

/-- Fields that are read by name, in any order, keep the property. -/
theorem scanNamed_gives :
    ∀ (steps : Nat) (first : Bool) (seen : List String) (s : σ), P b.levels s →
      Gives (scanNamed all b steps first seen s) (P b.levels) := by
  intro steps
  induction steps with
  | zero => intro first seen s _ cs x rest hread; contradiction
  | succ steps ih =>
    intro first seen s hs cs x rest hread
    rw [scanNamed] at hread
    obtain ⟨next, -, hread⟩ := bind_eq_ok.1 hread
    cases next with
    | closed tail =>
      dsimp only at hread
      split at hread
      · contradiction
      · obtain ⟨rfl, -⟩ : s = x ∧ tail = rest := by simpa using hread
        exact hs
    | more tail =>
      obtain ⟨⟨name, tail⟩, -, hread⟩ := bind_eq_ok.1 hread
      dsimp only at hread
      split at hread
      · next f hf =>
        split at hread
        · contradiction
        · obtain ⟨tail, -, hread⟩ := bind_eq_ok.1 hread
          obtain ⟨⟨s', tail⟩, hs', hread⟩ := bind_eq_ok.1 hread
          have hkept := hkeeps f (List.mem_of_find?_eq_some hf) b s hs hs'
          exact ih false (name :: seen) s' hkept hread
      · obtain ⟨tail, -, hread⟩ := bind_eq_ok.1 hread
        obtain ⟨tail, -, hread⟩ := bind_eq_ok.1 hread
        exact ih false seen s hs hread

/-- A record that is read has every property that the blank record has and each field keeps. -/
theorem record_yields {name : String} {blank : σ} (hblank : ∀ n, P n blank) :
    (record name blank all).Yields fun n s => ∃ m, n = m + 1 ∧ P m s := by
  intro b cs s rest hread
  simp only [record] at hread
  split at hread
  · obtain ⟨inner, hinner, hread⟩ := bind_eq_ok.1 hread
    exact ⟨inner.levels, (enter_eq_ok hinner).1,
      scanFields_gives hkeeps _ all (fun f hf => hf) 0 true blank (hblank _) hread⟩
  · obtain ⟨inner, hinner, hread⟩ := bind_eq_ok.1 hread
    exact ⟨inner.levels, (enter_eq_ok hinner).1,
      scanNamed_gives hkeeps b.steps true [] blank (hblank _) hread⟩
  · contradiction

end

/-- A document that is read may open as many levels as any. -/
theorem read_yields {schema : Schema α} {P : Nat → α → Prop} (h : schema.Yields P)
    {document : String} {x : α} (hread : schema.read document = .ok x) : P maxLevels x := by
  unfold read at hread
  obtain ⟨⟨y, rest⟩, hy, hread⟩ := bind_eq_ok.1 hread
  dsimp only at hread
  split at hread
  · injection hread with hread
    subst hread
    exact h _ hy
  · contradiction

end Schema

namespace Field

variable {name : String} {get : σ → α} {set : σ → α → σ} {P : Nat → σ → Prop}

/-- A part that is read keeps the property of the record if setting it does. -/
theorem keeps_of {schema : Schema α} {Q : Nat → α → Prop} (h : schema.Yields Q)
    (hset : ∀ n s x, P n s → Q n x → P n (set s x)) : (Field.of name schema get set).Keeps P := by
  intro b s hs cs s' rest hread
  simp only [Field.of] at hread
  cases hx : schema.scan b cs with
  | error e =>
    rw [hx] at hread
    contradiction
  | ok p =>
    rw [hx] at hread
    obtain ⟨rfl, -⟩ : set s p.1 = s' ∧ p.2 = rest := by simpa [Except.map] using hread
    exact hset _ s p.1 hs (h b hx)

/-- A part that the property does not speak of may be read as anything. -/
theorem keeps_any {schema : Schema α} (hset : ∀ n s x, P n s → P n (set s x)) :
    (Field.of name schema get set).Keeps P :=
  keeps_of (Schema.yields_true schema) fun n s x h _ => hset n s x h

theorem keeps_shownAs {f : Field σ} {label : String} (h : f.Keeps P) :
    (f.shownAs label).Keeps P := h

theorem keeps_omittedWhen {f : Field σ} {test : σ → Bool} (h : f.Keeps P) :
    (f.omittedWhen test).Keeps P := h

end Field

/-! ## Levels of what is written -/

/-- What a field writes for `s`, if anything, has at most `n` levels. -/
def Field.LevelsLe (f : Field σ) (s : σ) (n : Nat) : Prop := ∀ v ∈ f.encode s, v.levels ≤ n

namespace Schema

theorem mem_members {fields : List (Field σ)} {s : σ} {m : String × Value} :
    m ∈ members fields s ↔ ∃ f ∈ fields, f.name = m.1 ∧ f.encode s = some m.2 := by
  obtain ⟨name, v⟩ := m
  rw [members, List.mem_filterMap]
  refine exists_congr fun f => and_congr_right fun _ => ?_
  cases f.encode s <;> simp

/-- The members of a record have no more levels than what its fields write. -/
theorem memberLevels_members (fields : List (Field σ)) (s : σ) (n : Nat) :
    memberLevels (members fields s) ≤ n ↔ ∀ f ∈ fields, f.LevelsLe s n := by
  rw [memberLevels_le]
  constructor
  · intro h f hf v hv
    exact h (f.name, v) (mem_members.2 ⟨f, hf, rfl, hv⟩)
  · intro h m hm
    obtain ⟨f, hf, -, hv⟩ := mem_members.1 hm
    exact h f hf m.2 hv

theorem list_levels {item : Schema α} {xs : List α} {n : Nat} (hn : 0 < n)
    (h : ∀ x ∈ xs, (item.encode x).levels + 1 ≤ n) : ((list item).encode xs).levels ≤ n := by
  have hitems : itemLevels (xs.map item.encode) ≤ n - 1 := by
    refine (itemLevels_le _ _).2 fun v hv => ?_
    obtain ⟨x, hx, rfl⟩ := List.mem_map.1 hv
    have := h x hx
    omega
  show itemLevels (xs.map item.encode) + 1 ≤ n
  omega

theorem table_levels {value : Schema α} {t : Table α} {n : Nat} (hn : 0 < n)
    (h : ∀ e ∈ t.entries, (value.encode e.2).levels + 1 ≤ n) :
    ((table value).encode t).levels ≤ n := by
  have hmembers : memberLevels (t.entries.map fun e => (e.1, value.encode e.2)) ≤ n - 1 := by
    refine (memberLevels_le _ _).2 fun m hm => ?_
    obtain ⟨e, he, rfl⟩ := List.mem_map.1 hm
    have := h e he
    show (value.encode e.2).levels ≤ n - 1
    omega
  show memberLevels (t.entries.map fun e => (e.1, value.encode e.2)) + 1 ≤ n
  omega

end Schema

namespace Field

variable {name : String} {schema : Schema α} {get : σ → α} {set : σ → α → σ} {s : σ} {n : Nat}

theorem levelsLe_of (h : (schema.encode (get s)).levels ≤ n) :
    (Field.of name schema get set).LevelsLe s n := by
  intro v hv
  obtain rfl : schema.encode (get s) = v := Option.some.inj hv
  exact h

theorem levelsLe_text {get : σ → String} {set : σ → String → σ} :
    (Field.of name .text get set).LevelsLe s n :=
  levelsLe_of (Nat.zero_le n)

theorem levelsLe_shownAs {f : Field σ} {label : String} (h : f.LevelsLe s n) :
    (f.shownAs label).LevelsLe s n := h

theorem levelsLe_omittedWhen {f : Field σ} {test : σ → Bool}
    (h : test s = false → f.LevelsLe s n) : (f.omittedWhen test).LevelsLe s n := by
  intro v hv
  cases htest : test s with
  | false =>
    rw [Schema.field_encode f htest] at hv
    exact h htest v hv
  | true => simp [omittedWhen, htest] at hv

end Field

end Inventory.Json
