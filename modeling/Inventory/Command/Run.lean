import Inventory.Batch.Save
import Inventory.Client.Calls
import Inventory.Command.Arguments
import Inventory.Json.Writer
import Inventory.Predicate.Condition

/-!
# Running commands

What the program does: it reads one document from a file and shows its condition, saves it or
sends it. The code at its end says how far it came: 2 when it could not begin, or could not save;
1 when the filter has a flaw or the store did not take the batch; 0 otherwise. Main statements:
`runCondition_of_flaw` and `runCondition_of_sound`.
-/

namespace Inventory.Command

open Client (Account Store Request)
open Files (Disk)
open Json (Schema Value)
open Predicate (Condition Filter Page)

/-- What came of a run: the code at its end, what was shown, what was complained of, the disk
afterwards, the request that was made and what was reported. -/
structure Run where
  code : UInt8
  shown : String := ""
  complaint : Option String := none
  disk : Disk
  request : Option Request := none
  events : List Event := []

/-- A document in a file, or the complaint that there is none. -/
def readDocument {α : Type} (schema : Schema α) (disk : Disk) (path : String) : Except String α :=
  match disk.readText path with
  | .error trouble => .error ("Error reading " ++ path ++ ": " ++ trouble.wording)
  | .ok text =>
    match schema.read text with
    | .error misread => .error ("Error parsing " ++ path ++ ": " ++ Fault.readMessage misread)
    | .ok x => .ok x

/-- What is shown of a condition and a page. -/
def report (c : Condition) (page : Page) : Value :=
  .object [("limit", .text page.sql), ("values", .ofTexts c.bindings), ("where", .text c.sql)]

/-- Shows the condition of a filter. -/
def runCondition (disk : Disk) (f : Filter) (page : Page) : Run :=
  match f.condition with
  | .error flaw => { code := 1, complaint := some ("Invalid predicate: " ++ flaw.message), disk }
  | .ok c => { code := 0, shown := (report c page).writeIndented ++ "\n", disk }

/-- Saves a batch. -/
def runSave (disk : Disk) (b : Batch) (out : Option String) : Run :=
  let saving := b.save disk out
  match saving.result with
  | .error fault =>
    { code := 2, complaint := some ("Error saving records: " ++ fault.message)
      disk := saving.disk, events := saving.events }
  | .ok _ => { code := 0, disk := saving.disk, events := saving.events }

/-- Sends a batch. -/
def runSend (disk : Disk) (store : Store) (b : Batch) (query : String) (account : Account) : Run :=
  match account.check with
  | .error fault =>
    { code := 2, complaint := some ("Error configuring client: " ++ fault.message), disk }
  | .ok account =>
    let exchange := Client.post account store b query
    match exchange.result with
    | .error fault =>
      { code := 1, complaint := some ("Error sending records: " ++ fault.message), disk
        request := exchange.request, events := exchange.events }
    | .ok () => { code := 0, disk, request := exchange.request, events := exchange.events }

/-- Reads the document of a task and goes on with it. -/
def withDocument {α : Type} (schema : Schema α) (disk : Disk) (path : String) (next : α → Run) :
    Run :=
  match readDocument schema disk path with
  | .error complaint => { code := 2, complaint := some complaint, disk }
  | .ok x => next x

/-- Does a task. -/
def perform (disk : Disk) (store : Store) : Task → Run
  | .condition input page => withDocument Filter.schema disk input (runCondition disk · page)
  | .save input out => withDocument Batch.schema disk input (runSave disk · out)
  | .send input query account =>
    withDocument Batch.schema disk input (runSend disk store · query account)

/-- How the program is used. -/
def usage : String :=
  "\n".intercalate
    ["Compile HostDB predicates and submit inventory records", "",
      "Usage: hostdb [--verbose] where <INPUT> [--limit N] [--offset N]",
      "       hostdb [--verbose] save <INPUT> [--out PATH]",
      "       hostdb [--verbose] send <INPUT> [--query Q] [--url URL] [--user USER] [--pass PASS]"]

/-- Does what the arguments ask for. -/
def run (env : List (String × String)) (disk : Disk) (store : Store) (arguments : List String) :
    Run :=
  match read env false arguments with
  | .error .help => { code := 0, shown := usage ++ "\n", disk }
  | .error .misuse => { code := 2, complaint := some usage, disk }
  | .ok order => perform disk store order.task

/-- The condition of a flawed filter is not shown. -/
theorem runCondition_of_flaw {f : Filter} {flaw : Predicate.Flaw} (h : f.condition = .error flaw)
    (disk : Disk) (page : Page) :
    runCondition disk f page =
      { code := 1, complaint := some ("Invalid predicate: " ++ flaw.message), disk } := by
  simp [runCondition, h]

/-- The condition of a sound filter is shown. -/
theorem runCondition_of_sound {f : Filter} {c : Condition} (h : f.condition = .ok c)
    (disk : Disk) (page : Page) :
    runCondition disk f page =
      { code := 0, shown := (report c page).writeIndented ++ "\n", disk } := by
  simp [runCondition, h]

end Inventory.Command
