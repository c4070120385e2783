import Inventory.Proofs.Command.Task
import Inventory.Proofs.Documents
import Inventory.Proofs.Json.Indented

/-!
# Showing a condition

How far the program gets with a condition is decided by the file alone: without a filter in it
nothing is shown, a filter with a flaw is refused for that flaw, and of any other filter the whole
condition is shown. What is shown is one document on lines, and who reads it gets every character
of the condition, its values and the page. Main statements: `read_report` and `run_condition`.
-/

namespace Inventory.Command

open Client (Store)
open Files (Disk)
open Json (Schema Value)
open Predicate (Condition Filter Page)

/-! ## What is shown -/

variable (c : Condition) (page : Page)

theorem report_canonical : (report c page).Canonical := by
  have hvalues : (Value.ofTexts c.bindings).Canonical := by
    refine (Value.itemsCanonical_iff _).2 fun v hv => ?_
    obtain ⟨s, -, rfl⟩ := List.mem_map.1 hv
    trivial
  have hnames : ["limit", "values", "where"].Pairwise (· < ·) := by decide
  exact ⟨List.pairwise_map.1 hnames, trivial, hvalues, trivial, trivial⟩

theorem report_flat (n : Nat) : (report c page).Flat (n + 2) := by
  have htext (s : String) (n : Nat) : (Value.text s).Flat n := ⟨Nat.zero_le n, rfl⟩
  have hvalues : (Value.ofTexts c.bindings).Flat (n + 1) := by
    refine Value.flat_array fun v hv => ?_
    obtain ⟨s, -, rfl⟩ := List.mem_map.1 hv
    exact htext s n
  refine Value.flat_object fun e he => ?_
  simp only [List.mem_cons, List.not_mem_nil, or_false] at he
  rcases he with rfl | rfl | rfl
  · exact htext _ (n + 1)
  · exact hvalues
  · exact htext _ (n + 1)

/-- What is shown of a condition is read back as it was put together. -/
theorem read_report :
    Schema.value.read ((report c page).writeIndented ++ "\n") = .ok (report c page) :=
  Json.read_writeIndented (report_canonical c page) (Schema.portable_of_flat (report_flat c page _))
    (List.forall_mem_singleton.2 rfl)

/-! ## Runs -/

variable {env : List (String × String)} {arguments : List String} {input : String} {verbose : Bool}

/-- What comes of asking for a condition, for each state of the file. -/
theorem run_condition {page : Page}
    (h : read env false arguments = .ok { task := .condition input page, verbose }) (disk : Disk)
    (store : Store) :
    ((∀ f, ¬ HoldsDocument disk input Filter.schema f) →
      (run env disk store arguments).code = 2 ∧ (run env disk store arguments).shown = "") ∧
    ∀ f, HoldsDocument disk input Filter.schema f →
      (∀ flaw, f.condition = .error flaw →
        run env disk store arguments
          = { code := 1, complaint := some ("Invalid predicate: " ++ flaw.message), disk }) ∧
      ∀ c, f.condition = .ok c →
        ∃ shown, run env disk store arguments = { code := 0, shown, disk } ∧
          Schema.value.read shown = .ok (.object [("limit", .text page.sql),
            ("values", .array (c.bindings.map .text)), ("where", .text c.sql)]) := by
  rw [run_of_read h]
  constructor
  · intro hnone
    obtain ⟨complaint, hrun⟩ := withDocument_of_none hnone
    rw [perform, hrun]
    exact ⟨rfl, rfl⟩
  · intro f hf
    rw [perform, withDocument_of_holds hf]
    refine ⟨fun flaw hflaw => runCondition_of_flaw hflaw disk page, fun c hc => ?_⟩
    exact ⟨_, runCondition_of_sound hc disk page, read_report c page⟩

/-- A filter that asks for two names in one comparison. -/
def nameFilter : Filter where
  groups := [.ofClause { keys := ["name"], operator := "in", values := ["caf\u00e9", "\"\n"] }]

/-- A disk with one file, which holds the filter. -/
def nameDisk : Disk where
  entries := [(["names.json"], .file (Filter.schema.write nameFilter).toUTF8)]
  home := []

theorem holds_nameDisk : HoldsDocument nameDisk "names.json" Filter.schema nameFilter := by
  refine ⟨_, ⟨["names.json"], ?_⟩, Filter.schema_lossless.returns nameFilter⟩
  unfold nameDisk
  generalize (Filter.schema.write nameFilter).toUTF8 = bytes
  rfl

theorem run_condition_names :
    (run [] nameDisk (fun _ => none) (conditionLine "other.json" ⟨10, -1⟩)).code = 2 ∧
    ∃ shown, run [] nameDisk (fun _ => none) (conditionLine "names.json" ⟨10, -1⟩)
        = { code := 0, shown, disk := nameDisk } ∧
      Schema.value.read shown = .ok (.object [("limit", .text "LIMIT 10 OFFSET -1"),
        ("values", .array [.text "caf\u00e9", .text "\"\n"]),
        ("where", .text "WHERE name in (?,?) ")]) := by
  have hother := read_condition [] (by decide : "other.json" ≠ "") ⟨10, -1⟩
  have hnames := read_condition [] (by decide : "names.json" ≠ "") ⟨10, -1⟩
  have hcondition : nameFilter.condition
      = .ok { sql := "WHERE name in (?,?) ", bindings := ["caf\u00e9", "\"\n"] } :=
    Filter.condition_eq_ok_iff.2 (by decide)
  constructor
  · refine ((run_condition hother nameDisk _).1 ?_).1
    rintro f ⟨text, ⟨place, hplace⟩, -⟩
    contradiction
  · exact ((run_condition hnames nameDisk _).2 nameFilter holds_nameDisk).2 _ hcondition

end Inventory.Command
