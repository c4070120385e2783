import Inventory.Answer
import Inventory.Client.Exchange

/-!
# Calls

What the store can be asked for: to keep a record, to keep a batch, to find records. Nothing is
written without a password, and leaving it out counts as done. Main statements:
`put_of_no_password` and `post_of_no_password` (no request is made) and `post_request_of_url`.
-/

namespace Inventory.Client

/-- A call with its particulars. -/
inductive Call where
  /-- Keeps a record under its id; the label names it in reports. -/
  | put (record : Record) (label : String)
  /-- Keeps a batch; the query tells calls apart. -/
  | post (batch : Batch) (query : String)
  | get (query : String)

/-- A query without the question marks in front of it. -/
def bareQuery (query : String) : String := String.ofList (query.toList.dropWhile (· = '?'))

/-- The name of a record in reports: the label, or else its type. -/
def labelOf (record : Record) (label : String) : String :=
  if label.isEmpty then record.recordType else label

/-- The query that goes with a batch: the given one, or else the type of its records. -/
def queryOf (batch : Batch) (query : String) : String :=
  if query.isEmpty then "type=" ++ batch.recordType else bareQuery query

/-- The path under which a record is kept. -/
def recordPath (record : Record) : String := "/records/" ++ record.id

/-- The path at which records are found. -/
def searchPath (query : String) : String :=
  if query.isEmpty then "/records/" else "/records/?" ++ bareQuery query

/-- Turns the receipt of an exchange into its outcome: a receipt that is not good is a refusal. -/
def settle {ρ : Type} (e : Exchange ρ) (ok : ρ → Bool) (refusal : ρ → String) (done : Event) :
    Exchange Unit :=
  match e.result with
  | .error fault => { e with result := .error fault }
  | .ok receipt =>
    if ok receipt then { e with result := .ok (), events := e.events ++ [done] }
    else { e with result := .error (.rejected (refusal receipt)) }

/-- Keeps a record under its id. -/
def put (a : Account) (store : Store) (record : Record) (label : String) : Exchange Unit :=
  let label := labelOf record label
  if a.hasPassword then
    settle
      (exchange a store .put (recordPath record) (some (Record.schema.write record))
        Answer.RecordReceipt.schema)
      (·.ok) (fun receipt => "failed to save record " ++ receipt.id)
      (.recordSent record.recordType label)
  else { result := .ok (), request := none, events := [.recordWithheld label] }

/-- Keeps a batch. -/
def post (a : Account) (store : Store) (batch : Batch) (query : String) : Exchange Unit :=
  let query := queryOf batch query
  if a.hasPassword then
    let e := settle
      (exchange a store .post ("/records/?" ++ query) (some (Batch.schema.write batch))
        Answer.BatchReceipt.schema)
      (·.ok) (·.error) (.sentBatch batch.records.length batch.recordType)
    { e with events := .sendingBatch batch.records.length batch.recordType :: e.events }
  else { result := .ok (), request := none, events := [.batchWithheld query] }

/-- Finds records. -/
def get (a : Account) (store : Store) (query : String) : Exchange Answer.Records :=
  exchange a store .get (searchPath query) none Answer.Records.schema

/-- Makes a call; only finding has a result to show. -/
def Call.make (a : Account) (store : Store) : Call → Exchange (Option Answer.Records)
  | .put record label => (Client.put a store record label).map fun () => none
  | .post batch query => (Client.post a store batch query).map fun () => none
  | .get query => (Client.get a store query).map some

/-- Without a password no record is sent. -/
theorem put_of_no_password {a : Account} (h : a.pass = "") (store : Store) (record : Record)
    (label : String) :
    put a store record label =
      { result := .ok (), request := none
        events := [.recordWithheld (labelOf record label)] } := by
  simp [put, Account.hasPassword, h]

/-- Without a password no batch is sent. -/
theorem post_of_no_password {a : Account} (h : a.pass = "") (store : Store) (batch : Batch)
    (query : String) :
    post a store batch query =
      { result := .ok (), request := none
        events := [.batchWithheld (queryOf batch query)] } := by
  simp [post, Account.hasPassword, h]

/-- Settling an exchange leaves its request alone. -/
theorem settle_request {ρ : Type} (e : Exchange ρ) (ok : ρ → Bool) (refusal : ρ → String)
    (done : Event) : (settle e ok refusal done).request = e.request := by
  unfold settle
  split
  · rfl
  · split <;> rfl

/-- With a password a batch is sent in one request. -/
theorem post_request_of_url {a : Account} {batch : Batch} {query : String} {url : Url}
    (hp : a.hasPassword = true)
    (hu : webUrl? (a.endpoint ("/records/?" ++ queryOf batch query)) = some url) (store : Store) :
    (post a store batch query).request =
      some
        { method := .post, url, authorization := a.authorization
          document := some (Batch.schema.write batch) } := by
  simp only [post, hp, if_true, settle_request]
  exact exchange_eq_of_url hu _ _ _ _

end Inventory.Client
