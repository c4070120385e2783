import Inventory.Proofs.Json.Schema

/-!
# Schemas that lose nothing

A schema loses nothing when every value of its type is recovered, whatever it is, and what is
written for the value is no deeper than is known beforehand and has no float in it. Each way of
building a schema keeps this, but for the schema of any value at all. For a record it is enough to
go through its fields once. A plain value is within any number of levels, and every bracket adds
one, so that the levels of a schema are read off the way it is built. Main statements:
`list_lossless`, `table_lossless`, `record_lossless` and `Lossless.returns` (every document is read
back as it is written).
-/

namespace Inventory.Json

open Value

variable {α σ : Type} {n : Nat}

/-! ## Flat values -/

/-- The value has at most `n` levels and no float. -/
structure Value.Flat (v : Value) (n : Nat) : Prop where
  levels : v.levels ≤ n
  floats : v.floats = []

theorem Value.flat_array {xs : List Value} (h : ∀ v ∈ xs, v.Flat n) : (array xs).Flat (n + 1) := by
  constructor
  · exact Nat.succ_le_succ ((itemLevels_le n xs).2 fun v hv => (h v hv).levels)
  · refine List.eq_nil_iff_forall_not_mem.2 fun x hx => ?_
    obtain ⟨v, hv, hx⟩ := (mem_itemFloats x xs).1 (by simpa [Value.floats] using hx)
    rw [(h v hv).floats] at hx
    exact List.not_mem_nil hx

theorem Value.flat_object {ms : List (String × Value)} (h : ∀ e ∈ ms, e.2.Flat n) :
    (object ms).Flat (n + 1) := by
  constructor
  · exact Nat.succ_le_succ ((memberLevels_le n ms).2 fun e he => (h e he).levels)
  · refine List.eq_nil_iff_forall_not_mem.2 fun x hx => ?_
    obtain ⟨e, he, hx⟩ := (mem_memberFloats x ms).1 (by simpa [Value.floats] using hx)
    rw [(h e he).floats] at hx
    exact List.not_mem_nil hx

namespace Schema

/-! ## Schemas -/

/-- Every value is recovered, and what is written for it is flat. -/
structure Lossless (schema : Schema α) (n : Nat) : Prop where
  recovers : ∀ x, schema.Recovers x
  flat : ∀ x, (schema.encode x).Flat n

/-- Every value is read back from the document that is written for it. -/
def Returns (schema : Schema α) : Prop := ∀ x, schema.read (schema.write x) = .ok x

/-- What is flat may be a document of its own. -/
theorem portable_of_flat {schema : Schema α} {x : α} (h : (schema.encode x).Flat maxLevels) :
    schema.Portable x := by
  refine ⟨h.levels, fun y hy => ?_⟩
  rw [h.floats] at hy
  exact absurd hy List.not_mem_nil

theorem Lossless.returns {schema : Schema α} (h : schema.Lossless maxLevels) : schema.Returns :=
  fun x => read_write (h.recovers x) (portable_of_flat (h.flat x))

theorem text_lossless : text.Lossless n where
  recovers := text_recovers
  flat _ := ⟨Nat.zero_le n, by simp [text, floats]⟩

theorem flag_lossless : flag.Lossless n where
  recovers b budget _ := by
    cases b
    · exact ⟨.cons (by decide) (by decide) _, fun _ => rfl⟩
    · exact ⟨.cons (by decide) (by decide) _, fun _ => rfl⟩
  flat _ := ⟨Nat.zero_le n, by simp [flag, floats]⟩

theorem int64_lossless : int64.Lossless n where
  recovers := int64_recovers
  flat _ := ⟨Nat.zero_le n, by simp [int64, whole, ofInt64, floats]⟩

theorem uint16_lossless : uint16.Lossless n where
  recovers k := by
    refine whole_recovers rfl ?_
    have hhigh := k.toNat_lt
    rw [uint16OfInt?, if_pos ⟨by omega, by omega⟩, Int.toNat_natCast, UInt16.ofNat_toNat]
  flat _ := ⟨Nat.zero_le n, by simp [uint16, whole, ofUInt16, floats]⟩

/-- What is denoted by a text is recovered if the text denotes it again. -/
theorem denoting_lossless {parse : String → Except String α} {render : α → String}
    {shown : α → String} (h : ∀ x, parse (render x) = .ok x) :
    (denoting parse render shown).Lossless n where
  recovers x b hb := by
    have htakes := text_recovers (render x) b hb
    refine ⟨htakes.opens, fun hrest => ?_⟩
    refine (ok_bind (htakes.ok hrest) _).trans ?_
    simp only [h]
  flat _ := ⟨Nat.zero_le n, by simp [denoting, floats]⟩

theorem list_lossless {item : Schema α} (h : item.Lossless n) : (list item).Lossless (n + 1) where
  recovers _ := list_recovers fun x _ => h.recovers x
  flat xs := by
    refine flat_array fun v hv => ?_
    obtain ⟨x, -, rfl⟩ := List.mem_map.1 hv
    exact h.flat x

theorem table_lossless {value : Schema α} (h : value.Lossless n) :
    (table value).Lossless (n + 1) where
  recovers _ := table_recovers fun e _ => h.recovers e.2
  flat t := by
    refine flat_object fun e he => ?_
    obtain ⟨e, -, rfl⟩ := List.mem_map.1 he
    exact h.flat e.2

/-! ## Records -/

/-- Reading what the fields write for `s`, one after the other, leads from `cur` to `s`, and
everything that they write is flat. -/
inductive Rebuild (n : Nat) (s : σ) : List (Field σ) → σ → Prop
  | done : Rebuild n s [] s
  | step {f : Field σ} {fields : List (Field σ)} {cur next : σ} :
    f.Restores s cur next → (∀ v ∈ f.encode s, v.Flat n) → Rebuild n s fields next →
      Rebuild n s (f :: fields) cur

namespace Rebuild

variable {s cur next : σ} {fields : List (Field σ)}

theorem restore (h : Rebuild n s fields cur) : Restore s fields cur := by
  induction h with
  | done => exact .done
  | step hf _ _ ih => exact .step hf ih

theorem flat_members (h : Rebuild n s fields cur) : ∀ e ∈ members fields s, e.2.Flat n := by
  induction h with
  | done => exact List.forall_mem_nil _
  | @step f fields _ _ _ hflat _ ih =>
    cases hf : f.encode s with
    | none => rwa [members_omitted hf]
    | some v =>
      rw [members_written hf]
      exact List.forall_mem_cons.2 ⟨hflat v hf, ih⟩

section
variable {name : String} {schema : Schema α} {get : σ → α} {set : σ → α → σ}

/-- A part of a schema that loses nothing is set, whatever it was before. -/
theorem of (h : schema.Lossless n) (hrest : Rebuild n s fields (set cur (get s))) :
    Rebuild n s (.of name schema get set :: fields) cur := by
  refine .step (Field.restores_of (h.recovers _) cur) (fun v hv => ?_) hrest
  obtain rfl : schema.encode (get s) = v := Option.some.inj hv
  exact h.flat _

/-- It makes no difference to a part that is always written that it must be given. -/
theorem mandatory (h : Rebuild n s (.of name schema get set :: fields) cur) :
    Rebuild n s ((Field.of name schema get set).mandatory :: fields) cur := by
  cases h with
  | step hf hflat hrest => exact .step hf hflat hrest

end

theorem shownAs {f : Field σ} {label : String} (h : Rebuild n s (f :: fields) cur) :
    Rebuild n s (f.shownAs label :: fields) cur := by
  cases h with
  | step hf hflat hrest => exact .step hf hflat hrest

theorem mem_encode_of_omitted {f : Field σ} {test : σ → Bool} {v : Value}
    (hv : v ∈ (f.omittedWhen test).encode s) : v ∈ f.encode s := by
  cases htest : test s with
  | false => rwa [field_encode f htest] at hv
  | true => simp [Field.omittedWhen, htest] at hv

/-- A text may be left out when it is empty, if it was empty before. -/
theorem omittedText {name : String} {get : σ → String} {set : σ → String → σ}
    (hset : set cur "" = cur) (hrest : Rebuild n s fields (set cur (get s))) :
    Rebuild n s ((Field.of name .text get set).omittedWhen (fun s => (get s).isEmpty) :: fields)
      cur := by
  refine .step (Field.restores_text hset) (fun v hv => ?_) hrest
  obtain rfl : text.encode (get s) = v := Option.some.inj (mem_encode_of_omitted hv)
  exact text_lossless.flat _

end Rebuild

/-- A record loses nothing if its fields rebuild every record from the blank one. -/
theorem record_lossless {name : String} {blank : σ} {fields : List (Field σ)}
    (hnames : (fields.map (·.name)).Nodup) (h : ∀ s, Rebuild n s fields blank) :
    (record name blank fields).Lossless (n + 1) where
  recovers s := record_recovers hnames (h s).restore
  flat s := flat_object (h s).flat_members

end Schema

end Inventory.Json
