import Inventory.Answer
import Inventory.Predicate.Page
import Inventory.Proofs.Json.Lossless
import Inventory.Settings.Basic

/-!
# Documents that lose nothing

Filters, pages, settings and the answers of the store are read back as they are written, whatever
they hold: none of them has any value at all in it, as records have, so there is no condition on
what they are. Each schema follows from those of its fields. Main statement: `schemas_return`.
-/

namespace Inventory

open Json.Schema

variable {n : Nat}

/-! ## Filters and pages -/

/-- The keyword of a joiner spells it. -/
theorem Predicate.Joiner.parse_keyword (j : Joiner) : Joiner.parse j.keyword = .ok j := by
  cases j with
  | and => exact parse_eq_ok_and_iff.2 (.inr (by decide))
  | or => exact parse_eq_ok_or_iff.2 (by decide)

theorem Predicate.Joiner.schema_lossless : Joiner.schema.Lossless n :=
  denoting_lossless Joiner.parse_keyword

theorem Predicate.Clause.schema_lossless : Clause.schema.Lossless (n + 2) :=
  record_lossless (by decide) fun _ =>
    .of Joiner.schema_lossless <| .of (list_lossless text_lossless) <| .of text_lossless <|
      .of (list_lossless text_lossless) .done

theorem Predicate.Grouping.schema_lossless : Grouping.schema.Lossless (n + 4) :=
  record_lossless (by decide) fun _ => .of (list_lossless Clause.schema_lossless) .done

theorem Predicate.Filter.schema_lossless : Filter.schema.Lossless (n + 6) :=
  record_lossless (by decide) fun _ =>
    .of Joiner.schema_lossless <| .of (list_lossless Grouping.schema_lossless) .done

theorem Predicate.Page.schema_lossless : Page.schema.Lossless (n + 1) :=
  record_lossless (by decide) fun _ => .of int64_lossless <| .of int64_lossless .done

/-! ## Settings -/

namespace Settings

theorem Placement.schema_lossless : Placement.schema.Lossless (n + 1) :=
  record_lossless (by decide) fun _ =>
    .of text_lossless <| .of text_lossless <| .shownAs <| .of text_lossless <|
      .of text_lossless .done

theorem Queries.schema_lossless : Queries.schema.Lossless (n + 4) :=
  record_lossless (by decide) fun _ =>
    .of (table_lossless (list_lossless text_lossless)) <| .of int64_lossless <|
      .of (list_lossless text_lossless) <|
      .of (table_lossless (table_lossless Placement.schema_lossless)) .done

theorem Server.schema_lossless : Server.schema.Lossless (n + 1) :=
  record_lossless (by decide) fun _ =>
    .of text_lossless <| .of uint16_lossless <| .of text_lossless <| .of text_lossless <|
      .of flag_lossless <| .shownAs <| .of text_lossless <| .shownAs <| .of text_lossless .done

theorem Database.schema_lossless : Database.schema.Lossless (n + 2) :=
  record_lossless (by decide) fun _ =>
    .of text_lossless <| .of uint16_lossless <| .of text_lossless <| .of text_lossless <|
      .of text_lossless <| .of (list_lossless text_lossless) .done

theorem Api.schema_lossless : Api.schema.Lossless (n + 5) :=
  record_lossless (by decide) fun _ =>
    .of text_lossless <| .of Queries.schema_lossless .done

theorem schema_lossless : Settings.schema.Lossless (n + 6) :=
  record_lossless (by decide) fun _ =>
    .of Server.schema_lossless <| .of Database.schema_lossless <| .of Api.schema_lossless .done

end Settings

/-! ## Answers -/

namespace Answer

theorem Failure.schema_lossless : Failure.schema.Lossless (n + 1) :=
  record_lossless (by decide) fun _ =>
    .mandatory <| .of uint16_lossless <| .mandatory <| .of text_lossless .done

theorem Complaint.schema_lossless : Complaint.schema.Lossless (n + 1) :=
  record_lossless (by decide) fun _ => .of text_lossless .done

theorem Catalog.schema_lossless : Catalog.schema.Lossless (n + 2) :=
  record_lossless (by decide) fun _ =>
    .of int64_lossless <| .of text_lossless <| .of (list_lossless text_lossless) .done

theorem Census.schema_lossless : Census.schema.Lossless (n + 2) :=
  record_lossless (by decide) fun _ =>
    .of int64_lossless <| .of text_lossless <| .of (table_lossless int64_lossless) .done

theorem Health.schema_lossless : Health.schema.Lossless (n + 1) :=
  record_lossless (by decide) fun _ => .of text_lossless <| .of text_lossless .done

theorem Statistics.schema_lossless : Statistics.schema.Lossless (n + 2) :=
  record_lossless (by decide) fun _ =>
    .of text_lossless <| .of int64_lossless <| .of text_lossless <| .of text_lossless <|
      .shownAs <| .of (table_lossless text_lossless) .done

theorem ServerBuild.schema_lossless : ServerBuild.schema.Lossless (n + 1) :=
  record_lossless (by decide) fun _ =>
    .of text_lossless <| .of text_lossless <| .of text_lossless <| .of text_lossless <|
      .of text_lossless <| .shownAs <| .of text_lossless .done

theorem DatabaseBuild.schema_lossless : DatabaseBuild.schema.Lossless (n + 1) :=
  record_lossless (by decide) fun _ => .of text_lossless .done

theorem Versions.schema_lossless : Versions.schema.Lossless (n + 2) :=
  record_lossless (by decide) fun _ =>
    .of ServerBuild.schema_lossless <| .of DatabaseBuild.schema_lossless .done

/-- An explanation that is left out was empty. -/
theorem BatchReceipt.schema_lossless : BatchReceipt.schema.Lossless (n + 1) :=
  record_lossless (by decide) fun _ => .of flag_lossless <| .omittedText rfl .done

theorem RecordReceipt.schema_lossless : RecordReceipt.schema.Lossless (n + 1) :=
  record_lossless (by decide) fun _ => .of text_lossless <| .of flag_lossless .done

end Answer

/-! ## Documents -/

/-- Every document without any value at all in it is read back as it is written. -/
theorem schemas_return :
    (Predicate.Joiner.schema.Returns ∧ Predicate.Clause.schema.Returns ∧
      Predicate.Grouping.schema.Returns ∧ Predicate.Filter.schema.Returns ∧
      Predicate.Page.schema.Returns) ∧
    (Settings.Placement.schema.Returns ∧ Settings.Queries.schema.Returns ∧
      Settings.Server.schema.Returns ∧ Settings.Database.schema.Returns ∧
      Settings.Api.schema.Returns ∧ Settings.schema.Returns) ∧
    (Answer.Failure.schema.Returns ∧ Answer.Complaint.schema.Returns ∧
      Answer.Catalog.schema.Returns ∧ Answer.Census.schema.Returns ∧
      Answer.Health.schema.Returns ∧ Answer.Statistics.schema.Returns ∧
      Answer.ServerBuild.schema.Returns ∧ Answer.DatabaseBuild.schema.Returns ∧
      Answer.Versions.schema.Returns ∧ Answer.BatchReceipt.schema.Returns ∧
      Answer.RecordReceipt.schema.Returns) := by
  refine ⟨?filters, ?settings, ?answers⟩
  case filters =>
    exact ⟨Predicate.Joiner.schema_lossless.returns, Predicate.Clause.schema_lossless.returns,
      Predicate.Grouping.schema_lossless.returns, Predicate.Filter.schema_lossless.returns,
      Predicate.Page.schema_lossless.returns⟩
  case settings =>
    exact ⟨Settings.Placement.schema_lossless.returns, Settings.Queries.schema_lossless.returns,
      Settings.Server.schema_lossless.returns, Settings.Database.schema_lossless.returns,
      Settings.Api.schema_lossless.returns, Settings.schema_lossless.returns⟩
  case answers =>
    exact ⟨Answer.Failure.schema_lossless.returns, Answer.Complaint.schema_lossless.returns,
      Answer.Catalog.schema_lossless.returns, Answer.Census.schema_lossless.returns,
      Answer.Health.schema_lossless.returns, Answer.Statistics.schema_lossless.returns,
      Answer.ServerBuild.schema_lossless.returns, Answer.DatabaseBuild.schema_lossless.returns,
      Answer.Versions.schema_lossless.returns, Answer.BatchReceipt.schema_lossless.returns,
      Answer.RecordReceipt.schema_lossless.returns⟩

end Inventory
