import Inventory.Client.Calls
import Inventory.Proofs.Record.Recover
import Inventory.Proofs.Text.Base64
import Mathlib.Data.List.Forall2

/-!
# Sessions

A session is any number of calls made one after the other for one account, each answered by a
store that may reply as it likes. Without a password nothing that writes is ever asked of the
store; with one, every call is one request that says who makes it and carries what is to be kept.
Both follow from what a single call does. A request is what the client itself asks for: a user and
a password that stand in the address of the store are no part of it. Main statements:
`Call.request_make`, `Call.make_withheld` (what one call does) and `requests_authenticated`.
-/

namespace Inventory.Client

open Json.Schema

/-! ## What a call asks for -/

namespace Call

/-- What a call does with a resource. -/
def method : Call → Method
  | .put .. => .put
  | .post .. => .post
  | .get .. => .get

/-- The path of a call. -/
def path : Call → String
  | .put record _ => recordPath record
  | .post batch query => "/records/?" ++ queryOf batch query
  | .get query => searchPath query

/-- The document that goes with a call. -/
def document : Call → Option String
  | .put record _ => some (Record.schema.write record)
  | .post batch _ => some (Batch.schema.write batch)
  | .get _ => none

/-- A call has something kept. -/
def writes : Call → Bool
  | .get _ => false
  | _ => true

/-- A document, once read, is what the call has kept; a call that keeps nothing has none. -/
def Keeps (c : Call) (document : Option String) : Prop :=
  match c with
  | .put record _ => ∃ text, document = some text ∧
      (record.Canonical → Record.schema.Portable record → Record.schema.read text = .ok record)
  | .post batch _ => ∃ text, document = some text ∧
      (batch.Canonical → Batch.schema.Portable batch → Batch.schema.read text = .ok batch)
  | .get _ => document = none

theorem keeps_document (c : Call) : c.Keeps c.document := by
  cases c with
  | put record label =>
    exact ⟨_, rfl, fun h hportable => read_write (Record.recovers h) hportable⟩
  | post batch query =>
    exact ⟨_, rfl, fun h hportable => read_write (Batch.recovers h) hportable⟩
  | get query => rfl

end Call

/-! ## One call -/

variable {a : Account}

theorem Exchange.map_request {α β : Type} (f : α → β) (e : Exchange α) :
    (e.map f).request = e.request := rfl

/-- A call that is not withheld makes one request. -/
theorem Call.request_make {c : Call} (hc : a.hasPassword = true ∨ c.writes = false) {url : Url}
    (hurl : webUrl? (a.endpoint c.path) = some url) (store : Store) :
    (c.make a store).request = some
      { method := c.method, url, authorization := a.authorization, document := c.document } := by
  cases c with
  | put record label =>
    have hp : a.hasPassword = true := hc.resolve_right Bool.noConfusion
    have hurl : webUrl? (a.endpoint (recordPath record)) = some url := hurl
    rw [make, Exchange.map_request, Client.put, if_pos hp, settle_request, exchange_eq_of_url hurl]
    rfl
  | post batch query =>
    have hp : a.hasPassword = true := hc.resolve_right Bool.noConfusion
    rw [make, Exchange.map_request, post_request_of_url hp hurl]
    rfl
  | get query =>
    have hurl : webUrl? (a.endpoint (searchPath query)) = some url := hurl
    rw [make, Exchange.map_request, Client.get, exchange_eq_of_url hurl]
    rfl

/-- A call that writes is withheld without a password: it counts as done, nothing is asked of the
store, and there is one warning. -/
theorem Call.make_withheld {c : Call} (hp : a.pass = "") (hc : c.writes = true) (store : Store) :
    ∃ event, c.make a store = { result := .ok none, request := none, events := [event] } ∧
      event.level = .warn ∧ event.message = "no password, canceling request" := by
  cases c with
  | put record label =>
    refine ⟨.recordWithheld (labelOf record label), ?_, rfl, rfl⟩
    rw [make, put_of_no_password hp]
    rfl
  | post batch query =>
    refine ⟨.batchWithheld (queryOf batch query), ?_, rfl, rfl⟩
    rw [make, post_of_no_password hp]
    rfl
  | get query => contradiction

/-- What is to come of a call without a password: one that writes counts as done, asks nothing of
the store and leaves one warning, any other asks once, without saying who asks. -/
def Call.Anonymous (c : Call) (e : Exchange (Option Answer.Records)) : Prop :=
  if c.writes then
    e.result = .ok none ∧ e.request = none ∧ ∃ event, e.events = [event] ∧
      event.level = .warn ∧ event.message = "no password, canceling request"
  else ∃ r, e.request = some r ∧ r.method = .get ∧ r.authorization = none ∧ r.document = none

/-- What a call is to ask for with a password: at its path, with user and password in base 64, and
with what is to be kept. -/
structure Call.Signed (c : Call) (a : Account) (r : Request) : Prop where
  method : r.method = c.method
  url : webUrl? (a.endpoint c.path) = some r.url
  authorization : ∃ letters, r.authorization = some ("Basic " ++ String.ofList letters) ∧
    Text.Base64.decode? letters = some (a.user ++ ":" ++ a.pass).toUTF8.toList
  document : c.Keeps r.document

theorem Call.anonymous_make {c : Call} (hp : a.pass = "")
    (hurl : (webUrl? (a.endpoint c.path)).isSome) (store : Store) :
    c.Anonymous (c.make a store) := by
  unfold Anonymous
  cases hc : c.writes with
  | true =>
    obtain ⟨event, hmake, hlevel, hmessage⟩ := make_withheld hp hc store
    rw [hmake]
    exact ⟨rfl, rfl, event, rfl, hlevel, hmessage⟩
  | false =>
    obtain ⟨url, hurl⟩ := Option.isSome_iff_exists.1 hurl
    have hauthorization : a.authorization = none := by
      simp [Account.authorization, Account.hasPassword, hp]
    refine ⟨_, request_make (.inr hc) hurl store, ?_⟩
    cases c with
    | put record label => exact Bool.noConfusion hc
    | post batch query => exact Bool.noConfusion hc
    | get query => exact ⟨rfl, hauthorization, rfl⟩

theorem Call.signed_make {c : Call} (hp : a.pass ≠ "")
    (hurl : (webUrl? (a.endpoint c.path)).isSome) (store : Store) :
    ∃ r, (c.make a store).request = some r ∧ c.Signed a r := by
  obtain ⟨url, hurl⟩ := Option.isSome_iff_exists.1 hurl
  have hpassword : a.hasPassword = true := by simpa [Account.hasPassword] using hp
  have hauthorization : a.authorization = some ("Basic "
      ++ String.ofList (Text.Base64.encode (a.user ++ ":" ++ a.pass).toUTF8.toList)) := by
    rw [Account.authorization, if_pos hpassword, Account.basic]
  refine ⟨_, request_make (.inl hpassword) hurl store, ?_⟩
  constructor
  case method => rfl
  case url => exact hurl
  case authorization => exact ⟨_, hauthorization, Text.Base64.decode?_encode _⟩
  case document => exact c.keeps_document

/-! ## Sessions -/

/-- What comes of calls made one after the other, each with the store that answers it. -/
def exchanges (a : Account) (calls : List (Call × Store)) :
    List (Exchange (Option Answer.Records)) :=
  calls.map fun c => c.1.make a c.2

/-- The requests that calls make, in their order. -/
def requests (a : Account) (calls : List (Call × Store)) : List Request :=
  (exchanges a calls).filterMap (·.request)

/-- After one more call there is one more request, or none. -/
theorem requests_cons (a : Account) (c : Call × Store) (calls : List (Call × Store)) :
    requests a (c :: calls) = (c.1.make a c.2).request.toList ++ requests a calls := by
  unfold requests exchanges
  rw [List.map_cons, List.filterMap_cons]
  cases (c.1.make a c.2).request <;> rfl

/-- Every call of a session asks at a web address. -/
def Reaches (a : Account) (calls : List (Call × Store)) : Prop :=
  ∀ c ∈ calls, (webUrl? (a.endpoint c.1.path)).isSome

theorem exchanges_anonymous (hp : a.pass = "") :
    ∀ {calls : List (Call × Store)}, Reaches a calls →
      List.Forall₂ (fun c e => c.1.Anonymous e) calls (exchanges a calls)
  | [], _ => .nil
  | _ :: _, h => by
    obtain ⟨hc, hcalls⟩ := List.forall_mem_cons.1 h
    exact .cons (Call.anonymous_make hp hc _) (exchanges_anonymous hp hcalls)

/-- Without a password the store is only ever asked to find records. -/
theorem method_of_anonymous (hp : a.pass = "") {calls : List (Call × Store)}
    (h : Reaches a calls) : ∀ r ∈ requests a calls, r.method = .get := by
  intro r hr
  obtain ⟨e, he, hr⟩ := List.mem_filterMap.1 hr
  obtain ⟨c, hc, rfl⟩ := List.mem_map.1 he
  have hmake := Call.anonymous_make hp (h c hc) c.2
  unfold Call.Anonymous at hmake
  split at hmake
  · -- A call that writes has made no request.
    rw [hmake.2.1] at hr
    contradiction
  · obtain ⟨r', hr', hmethod, -⟩ := hmake
    rw [hr'] at hr
    obtain rfl := Option.some.inj hr
    exact hmethod

theorem requests_signed (hp : a.pass ≠ "") :
    ∀ {calls : List (Call × Store)}, Reaches a calls →
      List.Forall₂ (fun c r => c.1.Signed a r) calls (requests a calls)
  | [], _ => .nil
  | c :: calls, h => by
    obtain ⟨hc, hcalls⟩ := List.forall_mem_cons.1 h
    obtain ⟨r, hr, hsigned⟩ := Call.signed_make hp hc c.2
    rw [requests_cons, hr]
    exact .cons hsigned (requests_signed hp hcalls)

/-- Nothing that writes is ever asked of the store without a password. -/
theorem requests_authenticated (a : Account) (calls : List (Call × Store)) (h : Reaches a calls) :
    (a.pass = "" →
      (∀ r ∈ requests a calls, r.method = .get) ∧
      List.Forall₂ (fun c e => c.1.Anonymous e) calls (exchanges a calls)) ∧
    (a.pass ≠ "" → List.Forall₂ (fun c r => c.1.Signed a r) calls (requests a calls)) := by
  constructor
  · intro hp
    exact ⟨method_of_anonymous hp h, exchanges_anonymous hp h⟩
  · intro hp
    exact requests_signed hp h

/-- A session of one call of each kind, with a store that cannot be reached. -/
def oneOfEach : List (Call × Store) :=
  [(.put { id := "17", data := .bool true } "", fun _ => none), (.get "type=host", fun _ => none),
    (.post { recordType := "host" } "", fun _ => none)]

/-- An account at a place on this machine, with the given password. -/
def localAccount (pass : String) : Account where
  address := "http://localhost:8080/v0/"
  pass

theorem requests_authenticated_oneOfEach :
    (∀ r ∈ requests (localAccount "") oneOfEach, r.method = .get) ∧
    List.Forall₂ (fun c e => c.1.Anonymous e) oneOfEach
      (exchanges (localAccount "") oneOfEach) ∧
    List.Forall₂ (fun c r => c.1.Signed (localAccount "secret") r) oneOfEach
      (requests (localAccount "secret") oneOfEach) := by
  have hwithout : Reaches (localAccount "") oneOfEach := by
    unfold Reaches
    decide +kernel
  have hwith : Reaches (localAccount "secret") oneOfEach := by
    unfold Reaches
    decide +kernel
  obtain ⟨hget, hanonymous⟩ := (requests_authenticated _ _ hwithout).1 rfl
  have hsigned := (requests_authenticated _ _ hwith).2 (by decide)
  exact ⟨hget, hanonymous, hsigned⟩

end Inventory.Client
