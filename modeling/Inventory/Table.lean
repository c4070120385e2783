/-!
# Tables by name

A table holds one value for each of its names, in increasing order of the names. `insertEntry`
works on bare entries, `Table` carries the order with them. Main statements: `sorted_insertEntry`
and `findEntry_eq_none` (which names are not found).
-/

namespace Inventory

variable {α : Type}

/-- The names of the entries increase strictly. -/
def Sorted (entries : List (String × α)) : Prop :=
  entries.Pairwise fun a b => a.1 < b.1

/-- The value of a name among entries. -/
def findEntry (name : String) : List (String × α) → Option α
  | [] => none
  | (k, v) :: rest => if k = name then some v else findEntry name rest

/-- Sets the value of a name, at its place in the order of the names. -/
def insertEntry (name : String) (value : α) : List (String × α) → List (String × α)
  | [] => [(name, value)]
  | (k, v) :: rest =>
    if name < k then (name, value) :: (k, v) :: rest
    else if name = k then (name, value) :: rest
    else (k, v) :: insertEntry name value rest

theorem mem_insertEntry {name : String} {value : α} {p : String × α} :
    ∀ {entries : List (String × α)}, p ∈ insertEntry name value entries →
      p = (name, value) ∨ p ∈ entries
  | [], h => by simpa [insertEntry] using h
  | (k, v) :: rest, h => by
    unfold insertEntry at h
    split at h
    · simpa using h
    · split at h
      · rcases List.mem_cons.1 h with h | h
        · exact .inl h
        · exact .inr (List.mem_cons_of_mem _ h)
      · rcases List.mem_cons.1 h with h | h
        · exact .inr (h ▸ List.mem_cons_self ..)
        · rcases mem_insertEntry h with h | h
          · exact .inl h
          · exact .inr (List.mem_cons_of_mem _ h)

/-- Setting a value keeps the order of the names. -/
theorem sorted_insertEntry (name : String) (value : α) :
    ∀ {entries : List (String × α)}, Sorted entries → Sorted (insertEntry name value entries)
  | [], _ => List.pairwise_singleton _ _
  | (k, v) :: rest, h => by
    obtain ⟨hk, hrest⟩ := List.pairwise_cons.1 h
    unfold insertEntry
    split
    · next hlt =>
      refine List.pairwise_cons.2 ⟨fun p hp => ?_, h⟩
      rcases List.mem_cons.1 hp with rfl | hp
      · exact hlt
      · exact String.lt_trans hlt (hk p hp)
    · next hge =>
      split
      · next heq => exact List.pairwise_cons.2 ⟨fun p hp => heq ▸ hk p hp, hrest⟩
      · next hne =>
        have hlt : k < name := Std.lt_of_le_of_ne hge (Ne.symm hne)
        refine List.pairwise_cons.2 ⟨fun p hp => ?_, sorted_insertEntry name value hrest⟩
        rcases mem_insertEntry hp with rfl | hp
        · exact hlt
        · exact hk p hp

/-- Names before all entries are not found. -/
theorem findEntry_eq_none {name : String} :
    ∀ {entries : List (String × α)}, (∀ e ∈ entries, name < e.1) → findEntry name entries = none
  | [], _ => rfl
  | (k, v) :: rest, h => by
    have hne : k ≠ name := (String.ne_of_lt (h (k, v) (List.mem_cons_self ..))).symm
    rw [findEntry, if_neg hne]
    exact findEntry_eq_none fun e he => h e (List.mem_cons_of_mem _ he)

theorem findEntry_map {β : Type} (f : α → β) (name : String) :
    ∀ entries : List (String × α),
      findEntry name (entries.map fun e => (e.1, f e.2)) = (findEntry name entries).map f
  | [] => rfl
  | (k, v) :: rest => by
    rw [List.map_cons, findEntry, findEntry, findEntry_map f name rest]
    split <;> rfl

theorem Sorted.map {β : Type} (f : α → β) {entries : List (String × α)} (h : Sorted entries) :
    Sorted (entries.map fun e => (e.1, f e.2)) :=
  List.pairwise_map.2 h

/-- Sorted entries are known by what is found under each name. -/
theorem eq_of_findEntry :
    ∀ {s t : List (String × α)}, Sorted s → Sorted t →
      (∀ name, findEntry name s = findEntry name t) → s = t
  | [], [], _, _, _ => rfl
  | [], (l, w) :: t, _, _, h => by simpa [findEntry] using h l
  | (k, v) :: s, [], _, _, h => by simpa [findEntry] using h k
  | (k, v) :: s, (l, w) :: t, hs, ht, h => by
    obtain ⟨hks, hs'⟩ := List.pairwise_cons.1 hs
    obtain ⟨hlt, ht'⟩ := List.pairwise_cons.1 ht
    -- The lesser of two first names would be missing on the other side.
    have hmissing {n m : String} {x : α} {rest : List (String × α)} (hnm : n < m)
        (hrest : ∀ e ∈ rest, m < e.1) : findEntry n ((m, x) :: rest) = none :=
      findEntry_eq_none (List.forall_mem_cons.2 ⟨hnm, fun e he => String.lt_trans hnm (hrest e he)⟩)
    have hkl : k = l := by
      rcases Std.lt_trichotomy k l with hlt' | heq | hlt'
      · have hk := h k
        rw [hmissing hlt' hlt] at hk
        simp [findEntry] at hk
      · exact heq
      · have hl := h l
        rw [hmissing hlt' hks] at hl
        simp [findEntry] at hl
    subst hkl
    have hvw : v = w := by simpa [findEntry] using h k
    have hrest : ∀ name, findEntry name s = findEntry name t := by
      intro name
      by_cases hname : k = name
      · subst hname
        rw [findEntry_eq_none hks, findEntry_eq_none hlt]
      · simpa [findEntry, hname] using h name
    rw [hvw, eq_of_findEntry hs' ht' hrest]

/-- One value for each of its names, in increasing order of the names. -/
structure Table (α : Type) where
  entries : List (String × α)
  sorted : Sorted entries
  deriving DecidableEq

namespace Table

/-- The table without names. -/
def empty : Table α := ⟨[], .nil⟩

instance : Inhabited (Table α) := ⟨empty⟩

/-- The table has no names. -/
def isEmpty (t : Table α) : Bool := t.entries.isEmpty

/-- The value of a name. -/
def find? (t : Table α) (name : String) : Option α := findEntry name t.entries

/-- Sets the value of a name. -/
def insert (t : Table α) (name : String) (value : α) : Table α :=
  ⟨insertEntry name value t.entries, sorted_insertEntry name value t.sorted⟩

/-- The table of some entries; of entries with one name the last is kept. -/
def ofList (entries : List (String × α)) : Table α :=
  entries.foldl (fun t e => t.insert e.1 e.2) empty

/-- Entry by entry equality, the values compared as given. -/
def same (eq : α → α → Bool) (s t : Table α) : Bool :=
  s.entries.length == t.entries.length &&
    (s.entries.zip t.entries).all fun p => p.1.1 == p.2.1 && eq p.1.2 p.2.2

end Table

end Inventory
