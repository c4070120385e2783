import Inventory.Client.Account
import Inventory.Event
import Inventory.Json.Schema
import Inventory.Text.Base64
import Inventory.Text.Utf8

/-!
# Exchanges with the store

One request and the store's reply. The store is any function from requests to replies, some of
which may not come. Main statements: `exchange_eq_of_url` (an exchange at a web address makes
exactly one request), `interpret_of_success` and `interpret_of_other_status` (how a reply is
taken).
-/

namespace Inventory.Client

/-- What is done with a resource. -/
inductive Method where
  | get
  | put
  | post
  deriving DecidableEq

/-- The name of a method. -/
def Method.name : Method → String
  | .get => "GET"
  | .put => "PUT"
  | .post => "POST"

/-- A request, as it is sent. -/
structure Request where
  method : Method
  url : Url
  authorization : Option String
  /-- A JSON document. -/
  document : Option String
  deriving DecidableEq

/-- The type of the content that a request carries. -/
def Request.contentType (r : Request) : Option String :=
  r.document.map fun _ => "application/json"

/-- The answer to a request. -/
structure Reply where
  status : Nat
  body : ByteArray

/-- How a store replies to requests; it may be out of reach. It stands for the server together with
all that carries requests to it: whether a redirection is followed, and what becomes of a user and
password inside an address, is decided there, behind the one request that is made here. -/
abbrev Store := Request → Option Reply

/-- What came of an operation: its result, the request that was made, if any was, and what was
reported. -/
structure Exchange (α : Type) where
  result : Except Fault α
  request : Option Request
  events : List Event

variable {α : Type}

/-- The exchange with its result changed. -/
def Exchange.map {β : Type} (f : α → β) (e : Exchange α) : Exchange β where
  result := e.result.map f
  request := e.request
  events := e.events

/-- The status of success. -/
def success : Nat := 200

/-- User and password as a request carries them. -/
def Account.basic (a : Account) : String :=
  "Basic " ++ String.ofList (Text.Base64.encode (a.user ++ ":" ++ a.pass).toUTF8.toList)

/-- What a request carries to say who makes it: nothing without a password. -/
def Account.authorization (a : Account) : Option String :=
  if a.hasPassword then some a.basic else none

/-- Takes a reply: with another status than success its body is the fault, otherwise the body is
read as a document. -/
def interpret (schema : Json.Schema α) (reply : Reply) : Except Fault α × List Event :=
  let body := Text.decodeLossy reply.body
  if reply.status = success then ((schema.read body).mapError .json, [])
  else (.error (.http reply.status body), [.requestFailed reply.status body])

/-- The URL that requests can be made to, if the text spells one. -/
def webUrl? (text : String) : Option Url :=
  match Url.parse text with
  | none => none
  | some url => if url.scheme = "http" ∨ url.scheme = "https" then some url else none

/-- One exchange at a path of the interface. -/
def exchange (a : Account) (store : Store) (method : Method) (path : String)
    (document : Option String) (schema : Json.Schema α) : Exchange α :=
  let text := a.endpoint path
  match webUrl? text with
  | none =>
    { result := .error .request, request := none, events := [.requesting method.name text] }
  | some url =>
    let request := { method, url, authorization := a.authorization, document }
    match store request with
    | none =>
      { result := .error .request, request := some request
        events := [.requesting method.name text] }
    | some reply =>
      let (result, events) := interpret schema reply
      { result, request := some request, events := .requesting method.name text :: events }

/-- An exchange at a web address makes exactly one request. -/
theorem exchange_eq_of_url {a : Account} {path : String} {url : Url}
    (h : webUrl? (a.endpoint path) = some url) (store : Store) (method : Method)
    (document : Option String) (schema : Json.Schema α) :
    (exchange a store method path document schema).request =
      some { method, url, authorization := a.authorization, document } := by
  simp only [exchange, h]
  split <;> rfl

/-- The body of a successful reply is read as a document. -/
theorem interpret_of_success {schema : Json.Schema α} {reply : Reply}
    (h : reply.status = success) :
    interpret schema reply = ((schema.read (Text.decodeLossy reply.body)).mapError .json, []) := by
  simp [interpret, h]

/-- With another status the body is the fault. -/
theorem interpret_of_other_status {schema : Json.Schema α} {reply : Reply}
    (h : reply.status ≠ success) :
    (interpret schema reply).1 = .error (.http reply.status (Text.decodeLossy reply.body)) := by
  simp [interpret, h]

end Inventory.Client
