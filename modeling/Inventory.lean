import Inventory.Answer
import Inventory.Batch.Save
import Inventory.Client.Calls
import Inventory.Client.Wire
import Inventory.Command.Run
import Inventory.Main
import Inventory.Predicate.Condition
import Inventory.Predicate.Edit
import Inventory.Predicate.Page
import Inventory.Predicate.Search
import Inventory.Proofs.Client.Reply
import Inventory.Proofs.Client.Resource
import Inventory.Proofs.Client.Session
import Inventory.Proofs.Command.Condition
import Inventory.Proofs.Command.Send
import Inventory.Proofs.Documents
import Inventory.Proofs.Files.Write
import Inventory.Proofs.Json.Schema
import Inventory.Proofs.Json.Value
import Inventory.Proofs.Json.Yield
import Inventory.Proofs.Predicate.Alternatives
import Inventory.Proofs.Predicate.Mention
import Inventory.Proofs.Predicate.Paged
import Inventory.Proofs.Predicate.Placeholders
import Inventory.Proofs.Predicate.Refusal
import Inventory.Proofs.Predicate.Search
import Inventory.Proofs.Predicate.Spelling
import Inventory.Proofs.Predicate.Truth
import Inventory.Proofs.Record.Frame
import Inventory.Proofs.Record.Sample
import Inventory.Proofs.Record.Saved
import Inventory.Proofs.Settings.Connection
import Inventory.Proofs.Settings.Masked
import Inventory.Proofs.Settings.Path
import Inventory.Proofs.Settings.Request
import Inventory.Settings.Load
