import Inventory.Json.Schema
import Inventory.Proofs.Json.Value

/-!
# Reading back what a schema writes

A schema recovers `x` if reading what it writes for `x` gives `x` again. There is one law for each
way of building a schema. A record is recovered if its fields, read one after the other into the
blank record, lead to it; of a field that is left out this asks that it would have changed nothing.
Main statements: `list_recovers`, `table_recovers`, `record_recovers` and `read_write` (a document
is read back as it is written).
-/

namespace Inventory.Json

open Value

variable {α σ : Type}

theorem enter_of_levels {b : Budget} {n : Nat} (h : b.levels = n + 1) :
    b.enter = .ok { b with levels := n } := by
  rw [Budget.enter, h]

/-! ## Fields -/

namespace Field

/-- What a field writes for the record `s` is read, into a record `cur`, as `next`. If nothing is
written, then `next` is `cur`, and the field need not be given. -/
def Restores (f : Field σ) (s cur next : σ) : Prop :=
  match f.encode s with
  | some v => ∀ b, v.Legible b → Takes (f.scan b cur) v next
  | none => cur = next ∧ f.required = false

end Field

namespace Schema

/-! ## Plain values -/

/-- Reading what is written for `x` gives `x`, if the budget is enough and floats are read back. -/
def Recovers (schema : Schema α) (x : α) : Prop :=
  ∀ b, (schema.encode x).Legible b → Takes (schema.scan b) (schema.encode x) x

theorem text_recovers (s : String) : text.Recovers s := by
  intro b _
  refine ⟨.cons (by decide) (by decide) _, fun {rest} _ => ?_⟩
  have hrender : (Value.text s).render ++ rest
      = '"' :: (Literal.encode s.toList ++ '"' :: rest) := by
    simp [Value.render, Literal.render]
  show text.scan b ((Value.text s).render ++ rest) = _
  rw [hrender]
  exact scanText_render s rest

/-- A whole number is recovered from its digits. -/
theorem whole_recovers {wanted : String} {ofInt? : Int → Option α} {toValue : α → Value}
    {shown : α → String} {x : α} {n : Int} {h : FitsWord n}
    (hx : toValue x = .number (.whole n h)) (hn : ofInt? n = some x) :
    (whole wanted ofInt? toValue shown).Recovers x := by
  intro b _
  show Takes _ (toValue x) x
  rw [hx]
  have hopens := (takes_number (Number.readsBack_whole h) 0 0).opens
  obtain ⟨c, t, hrender, hc⟩ := begins_of_scanNumber (scanNumber_whole h)
  refine ⟨hopens, fun {rest} hrest => ?_⟩
  have hblanks := skipBlanks_open (hopens.append rest)
  have hread := scanNumber_append hrest (scanNumber_whole h)
  show (whole wanted ofInt? toValue shown).scan b (Number.renderWhole n ++ rest) = _
  have hcs : (Value.number (.whole n h)).render = c :: t := hrender
  rw [hcs] at hblanks
  rw [hrender] at hread ⊢
  simp only [List.cons_append, whole] at hread hblanks ⊢
  rw [hblanks]
  simp only [if_pos hc]
  rw [ok_bind hread]
  simp only [hn, List.nil_append]

theorem int64OfInt?_toInt (n : Int64) : int64OfInt? n.toInt = some n := by
  have hlow := n.le_toInt
  have hhigh := n.toInt_lt
  rw [int64OfInt?, if_pos ⟨by omega, by omega⟩, Int64.ofInt_toInt]

theorem int64_recovers (n : Int64) : int64.Recovers n :=
  whole_recovers rfl (int64OfInt?_toInt n)

/-! ## Lists, tables, any value -/

theorem list_recovers {item : Schema α} {xs : List α} (h : ∀ x ∈ xs, item.Recovers x) :
    (list item).Recovers xs := by
  intro b hb
  obtain ⟨n, hlevels, hsteps, hitems⟩ := hb.array
  rw [List.length_map] at hsteps
  refine ⟨.cons (by decide) (by decide) _, fun {rest} _ => ?_⟩
  have hread := scanItems_commas item.encode rest xs true hsteps fun x hx =>
    h x hx _ (hitems _ (List.mem_map_of_mem hx))
  have hrender : ((list item).encode xs).render ++ rest
      = '[' :: (commas true (xs.map fun x => (item.encode x).render) ++ ']' :: rest) := by
    simp [list, Value.render, renderItems_eq, Function.comp_def]
  rw [hrender]
  exact (ok_bind (enter_of_levels hlevels) _).trans hread

/-- Reading into a table is reading into its entries. -/
theorem scanTable_entries (value : Scan α) (steps : Nat) :
    ∀ (first : Bool) (t : Table α) (cs : List Char),
      (scanTable value steps first t cs).map (fun p => (p.1.entries, p.2))
        = scanMembers value steps first t.entries cs := by
  induction steps with
  | zero => intros; rfl
  | succ steps ih =>
    intro first t cs
    rw [scanTable, scanMembers, map_bind]
    refine bind_congr fun next => ?_
    cases next with
    | closed rest => rfl
    | more rest =>
      rw [map_bind]
      refine bind_congr fun name => ?_
      rw [map_bind]
      refine bind_congr fun rest => ?_
      rw [map_bind]
      exact bind_congr fun v => ih false (t.insert name.1 v.1) v.2

/-- The entries that are read decide the table. -/
theorem scanTable_of_entries {value : Scan α} {steps : Nat} {cs rest : List Char} {t : Table α}
    (h : scanMembers value steps true [] cs = .ok (t.entries, rest)) :
    scanTable value steps true .empty cs = .ok (t, rest) := by
  have hentries := scanTable_entries value steps true .empty cs
  rw [show (Table.empty : Table α).entries = [] from rfl, h] at hentries
  cases hread : scanTable value steps true .empty cs with
  | error e =>
    rw [hread] at hentries
    contradiction
  | ok p =>
    obtain ⟨⟨entries, sorted⟩, tail⟩ := p
    rw [hread] at hentries
    obtain ⟨rfl, rfl⟩ : entries = t.entries ∧ tail = rest := by simpa [Except.map] using hentries
    rfl

theorem table_recovers {value : Schema α} {t : Table α}
    (h : ∀ e ∈ t.entries, value.Recovers e.2) : (table value).Recovers t := by
  intro b hb
  obtain ⟨n, hlevels, hsteps, hmembers⟩ := hb.object
  rw [List.length_map] at hsteps
  refine ⟨.cons (by decide) (by decide) _, fun {rest} _ => ?_⟩
  have hread := scanMembers_commas value.encode rest t.entries true [] hsteps t.sorted
    fun e he => h e he _ (hmembers _ (List.mem_map_of_mem he))
  have hrender : ((table value).encode t).render ++ rest
      = '{' :: (commas true (t.entries.map fun e => renderMember (e.1, value.encode e.2))
          ++ '}' :: rest) := by
    simp [table, Value.render, renderMembers_eq, Function.comp_def]
  rw [hrender]
  exact (ok_bind (enter_of_levels hlevels) _).trans (scanTable_of_entries hread)

theorem value_recovers {v : Value} (h : v.Canonical) : value.Recovers v := by
  intro b hb
  exact takes_value h hb

/-! ## Records -/

/-- Reading what the fields write for `s`, one after the other, leads from `cur` to `s`. -/
inductive Restore (s : σ) : List (Field σ) → σ → Prop
  | done : Restore s [] s
  | step {f : Field σ} {fields : List (Field σ)} {cur next : σ} :
    f.Restores s cur next → Restore s fields next → Restore s (f :: fields) cur

theorem members_omitted {f : Field σ} {s : σ} (h : f.encode s = none) (fields : List (Field σ)) :
    members (f :: fields) s = members fields s := by
  simp [members, h]

theorem members_written {f : Field σ} {s : σ} {v : Value} (h : f.encode s = some v)
    (fields : List (Field σ)) : members (f :: fields) s = (f.name, v) :: members fields s := by
  simp [members, h]

/-- The names that are written are those of the fields that write something. -/
theorem names_members (fields : List (Field σ)) (s : σ) :
    (members fields s).map (·.1)
      = ((fields.map fun f => (f.name, (f.encode s).isNone)).filter fun part => !part.2).map
          (·.1) := by
  induction fields with
  | nil => rfl
  | cons f fields ih =>
    cases hf : f.encode s with
    | none =>
      rw [members_omitted hf, ih]
      simp [hf]
    | some v =>
      rw [members_written hf, List.map_cons, ih]
      simp [hf]

/-- A field is found by its name, if no two fields share one. -/
theorem find?_name {f : Field σ} :
    ∀ {all : List (Field σ)}, (all.map (·.name)).Nodup → f ∈ all →
      all.find? (fun g => g.name == f.name) = some f
  | g :: all, hnames, hf => by
    obtain ⟨hg, hall⟩ := List.nodup_cons.1 hnames
    rcases List.mem_cons.1 hf with rfl | hf
    · simp
    · have hne : g.name ≠ f.name := fun heq => hg (List.mem_map.2 ⟨f, hf, heq.symm⟩)
      rw [List.find?_cons_of_neg (by simpa using hne)]
      exact find?_name hall hf

/-- The fields are still to come, of all the fields of a record, when the names seen are given. -/
structure Pending (all fields : List (Field σ)) (seen : List String) : Prop where
  mem : ∀ f ∈ fields, f ∈ all
  distinct : (fields.map (·.name)).Nodup
  unseen : ∀ f ∈ fields, f.name ∉ seen
  required : ∀ f ∈ all, f.required = true → f ∈ fields ∨ f.name ∈ seen

theorem Pending.omit {all fields : List (Field σ)} {f : Field σ} {seen : List String}
    (h : Pending all (f :: fields) seen) (hf : f.required = false) : Pending all fields seen where
  mem g hg := h.mem g (List.mem_cons_of_mem _ hg)
  distinct := (List.nodup_cons.1 h.distinct).2
  unseen g hg := h.unseen g (List.mem_cons_of_mem _ hg)
  required g hg hrequired := by
    rcases h.required g hg hrequired with hmem | hseen
    · rcases List.mem_cons.1 hmem with rfl | hmem
      · simp [hf] at hrequired
      · exact .inl hmem
    · exact .inr hseen

theorem Pending.see {all fields : List (Field σ)} {f : Field σ} {seen : List String}
    (h : Pending all (f :: fields) seen) : Pending all fields (f.name :: seen) where
  mem g hg := h.mem g (List.mem_cons_of_mem _ hg)
  distinct := (List.nodup_cons.1 h.distinct).2
  unseen g hg := by
    have hne : g.name ≠ f.name := fun heq =>
      (List.nodup_cons.1 h.distinct).1 (List.mem_map.2 ⟨g, hg, heq⟩)
    simpa [hne] using h.unseen g (List.mem_cons_of_mem _ hg)
  required g hg hrequired := by
    rcases h.required g hg hrequired with hmem | hseen
    · rcases List.mem_cons.1 hmem with rfl | hmem
      · exact .inr (List.mem_cons_self ..)
      · exact .inl hmem
    · exact .inr (List.mem_cons_of_mem _ hseen)

/-- The members that pending fields write are read one by one, up to the record `s`. -/
theorem scanNamed_commas {all : List (Field σ)} (hnames : (all.map (·.name)).Nodup) {b : Budget}
    {s : σ} (rest : List Char) :
    ∀ (fields : List (Field σ)) (first : Bool) (seen : List String) (cur : σ) {steps : Nat},
      Pending all fields seen → Restore s fields cur →
      (∀ m ∈ members fields s, m.2.Legible b) → (members fields s).length < steps →
      scanNamed all b steps first seen cur
          (commas first ((members fields s).map renderMember) ++ '}' :: rest) = .ok (s, rest)
  | [], first, seen, _, steps + 1, hpending, .done, _, _ => by
    -- Nothing is pending, so all that is required was seen.
    have hgiven : all.find? (fun f => f.required && !seen.contains f.name) = none := by
      refine List.find?_eq_none.2 fun f hf => ?_
      cases hrequired : f.required with
      | false => simp
      | true =>
        have hseen := (hpending.required f hf hrequired).resolve_left List.not_mem_nil
        simp [hseen]
    rw [members, List.filterMap_nil, List.map_nil, commas, List.nil_append, scanNamed,
      ok_bind (nextName_closed first rest)]
    simp only [hgiven]
  | f :: fields, first, seen, cur, steps + 1, hpending, .step hf hrestore, hlegible, hsteps => by
    rw [Field.Restores] at hf
    cases hencode : f.encode s with
    | none =>
      -- Nothing is written and nothing changes; whether a comma is due stays as it was.
      rw [hencode] at hf
      obtain ⟨rfl, hrequired⟩ := hf
      rw [members_omitted hencode] at hlegible hsteps ⊢
      exact scanNamed_commas hnames rest fields first seen cur (hpending.omit hrequired) hrestore
        hlegible hsteps
    | some v =>
      rw [hencode] at hf
      rw [members_written hencode] at hlegible hsteps ⊢
      obtain ⟨hv, hmembers⟩ := List.forall_mem_cons.1 hlegible
      -- The name leads to this field and to no other, and was not seen before.
      have hmem := hpending.mem f (List.mem_cons_self ..)
      have hunseen : seen.contains f.name = false := by
        simpa using hpending.unseen f (List.mem_cons_self ..)
      rw [List.map_cons, scanNamed, ok_bind (nextName_commas ..)]
      dsimp only
      rw [ok_bind (scanText_render ..)]
      simp only [find?_name hnames hmem, hunseen, Bool.false_eq_true, if_false]
      rw [ok_bind (scanColon_colon _), ok_bind ((hf b hv).ok (stops_commas (by decide) _ rest))]
      exact scanNamed_commas hnames rest fields false _ _ hpending.see hrestore hmembers
        (by simpa using hsteps)

/-- A record is recovered if its fields lead from the blank record to it. -/
theorem record_recovers {name : String} {blank s : σ} {fields : List (Field σ)}
    (hnames : (fields.map (·.name)).Nodup) (h : Restore s fields blank) :
    (record name blank fields).Recovers s := by
  intro b hb
  obtain ⟨n, hlevels, hsteps, hmembers⟩ := hb.object
  refine ⟨.cons (by decide) (by decide) _, fun {rest} _ => ?_⟩
  have hpending : Pending fields fields [] :=
    ⟨fun f hf => hf, hnames, fun f _ => List.not_mem_nil, fun f hf _ => .inl hf⟩
  have hread := scanNamed_commas hnames rest fields true [] blank hpending h hmembers hsteps
  have hrender : ((record name blank fields).encode s).render ++ rest
      = '{' :: (commas true ((members fields s).map renderMember) ++ '}' :: rest) := by
    simp [record, Value.render, renderMembers_eq]
  rw [hrender]
  exact (ok_bind (enter_of_levels hlevels) _).trans hread

/-! ## Documents -/

/-- The written form of `x` has no more levels than a document may have, and each float in it is
read from its own digits. -/
structure Portable (schema : Schema α) (x : α) : Prop where
  levels : (schema.encode x).levels ≤ maxLevels
  floats : (schema.encode x).FloatsReadBack

/-- A document is read back as it is written. -/
theorem read_write {schema : Schema α} {x : α} (h : schema.Recovers x) (hx : schema.Portable x) :
    schema.read (schema.write x) = .ok x := by
  have htext : (schema.write x).toList = (schema.encode x).render := by simp [write, Value.write]
  have hread := (h ⟨(schema.write x).toList.length + 1, maxLevels⟩
    ⟨hx.levels, by rw [htext]; exact Nat.lt_succ_self _, hx.floats⟩).ok stops_nil
  rw [List.append_nil, ← htext] at hread
  exact read_of_scan hread rfl

end Schema

namespace Field

variable {name : String} {schema : Schema α} {get : σ → α} {set : σ → α → σ} {s : σ}

/-- What is written for a part of a record is read back as that part. -/
theorem restores_of (h : schema.Recovers (get s)) (cur : σ) :
    (Field.of name schema get set).Restores s cur (set cur (get s)) := by
  intro b hb
  have htakes := h b hb
  refine ⟨htakes.opens, fun hrest => ?_⟩
  show (schema.scan b _).map _ = _
  rw [htakes.ok hrest]
  rfl

theorem isNone_of : ((Field.of name schema get set).encode s).isNone = false := rfl

theorem isNone_shownAs {f : Field σ} {label : String} :
    ((f.shownAs label).encode s).isNone = (f.encode s).isNone := rfl

theorem isNone_omittedWhen {f : Field σ} {test : σ → Bool} :
    ((f.omittedWhen test).encode s).isNone = (test s || (f.encode s).isNone) := by
  cases h : test s with
  | true => simp [omittedWhen, h]
  | false => rw [Schema.field_encode f h, Bool.false_or]

theorem restores_shownAs {f : Field σ} {label : String} {cur next : σ}
    (h : f.Restores s cur next) : (f.shownAs label).Restores s cur next := h

/-- Leaving out a part asks that it is the same in the record that is read into. -/
theorem restores_omittedWhen {test : σ → Bool} {f : Field σ} {cur next : σ}
    (h : f.Restores s cur next) (htest : test s = true → cur = next)
    (hrequired : f.required = false) : (f.omittedWhen test).Restores s cur next := by
  cases hs : test s with
  | false =>
    rw [Restores, Schema.field_encode f hs]
    exact h
  | true =>
    have hnone : (f.omittedWhen test).encode s = none := by simp [omittedWhen, hs]
    rw [Restores, hnone]
    exact ⟨htest hs, hrequired⟩

/-- A text that is left out when it is empty is restored where it was empty before. -/
theorem restores_text {cur : σ} {get : σ → String} {set : σ → String → σ}
    (hset : set cur "" = cur) : ((Field.of name .text get set).omittedWhen
      fun s => (get s).isEmpty).Restores s cur (set cur (get s)) := by
  refine restores_omittedWhen (restores_of (Schema.text_recovers _) cur) (fun htest => ?_) rfl
  rw [String.isEmpty_iff.1 htest, hset]

end Field

end Inventory.Json
