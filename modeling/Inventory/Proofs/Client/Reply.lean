import Inventory.Proofs.Client.Session
import Inventory.Proofs.Text.Utf8

/-!
# What a reply decides

What comes of a call that has something kept is decided by the status of the reply, by whether its
whole body is a receipt, and by whether the receipt is good, in this order; each outcome arises
from one kind of reply only. The body is taken as text, with U+FFFD for bytes that belong to no
character, so that what is said of a failed call is the body itself only if that is well formed.
What is kept is reported at the end, and only then. Main statements: `exchange_of_reply`,
`settled_exchange` (one exchange, for any kind of receipt) and `replies_classified`.
-/

namespace Inventory.Client

open Answer (BatchReceipt RecordReceipt)
open Json (Schema)

/-- The text that the body of a reply stands for. -/
def Reply.text (r : Reply) : String := Text.decodeLossy r.body

/-- The store replies so to the request of a call. -/
def Call.Replied (c : Call) (a : Account) (store : Store) (reply : Reply) : Prop :=
  ∃ url, webUrl? (a.endpoint c.path) = some url ∧
    store { method := c.method, url, authorization := a.authorization, document := c.document }
      = some reply

/-- An exchange is settled by a reply, given the schema of receipts, which of them are good, what
is said of those that are not, and the report that ends a success. -/
structure Settled {ρ : Type} (schema : Schema ρ) (ok : ρ → Bool) (refusal : ρ → String)
    (closing : String) (reply : Reply) (e : Exchange Unit) : Prop where
  /-- Something is kept exactly when the status is 200 and the body is a good receipt. -/
  kept : e.result = .ok () ↔
    reply.status = 200 ∧ ∃ receipt, schema.read reply.text = .ok receipt ∧ ok receipt = true
  /-- Any other status is a failure with the body, taken as text. -/
  failed : ∀ status body, e.result = .error (.http status body) ↔
    reply.status ≠ 200 ∧ reply.status = status ∧ reply.text = body
  /-- A receipt that is not good is a refusal. -/
  refused : ∀ reason, e.result = .error (.rejected reason) ↔
    reply.status = 200 ∧ ∃ receipt, schema.read reply.text = .ok receipt ∧ ok receipt = false ∧
      refusal receipt = reason
  /-- A body that is no receipt cannot be read. -/
  unread : ∀ misread, e.result = .error (.json misread) ↔
    reply.status = 200 ∧ schema.read reply.text = .error misread
  /-- The closing report is made exactly when something is kept. -/
  closed : (∃ event ∈ e.events, event.level = .info ∧ event.message = closing) ↔ e.result = .ok ()

section
variable {ρ : Type} {schema : Schema ρ} {ok : ρ → Bool} {refusal : ρ → String} {reply : Reply}

/-- A report of another kind in front changes nothing. -/
theorem Settled.report {closing : String} {e : Exchange Unit}
    (h : Settled schema ok refusal closing reply e) {event : Event}
    (hne : event.message ≠ closing) :
    Settled schema ok refusal closing reply { e with events := event :: e.events } where
  kept := h.kept
  failed := h.failed
  refused := h.refused
  unread := h.unread
  closed := by
    rw [← h.closed, List.exists_mem_cons_iff]
    exact or_iff_right fun hevent => hne hevent.2

/-- An exchange that is replied to is what the reply is taken for. -/
theorem exchange_of_reply {a : Account} {path : String} {url : Url} {store : Store}
    {method : Method} {document : Option String}
    (hurl : webUrl? (a.endpoint path) = some url)
    (hstore : store { method, url, authorization := a.authorization, document } = some reply) :
    exchange a store method path document schema =
      { result := (interpret schema reply).1
        request := some { method, url, authorization := a.authorization, document }
        events := .requesting method.name (a.endpoint path) :: (interpret schema reply).2 } := by
  simp only [exchange, hurl, hstore]

/-- The reply to one exchange settles it. -/
theorem settled_exchange {a : Account} {path : String} {url : Url} {store : Store}
    {method : Method} {document : Option String} {done : Event}
    (hurl : webUrl? (a.endpoint path) = some url)
    (hstore : store { method, url, authorization := a.authorization, document } = some reply)
    (hdone : done.level = .info) :
    Settled schema ok refusal done.message reply
      (settle (exchange a store method path document schema) ok refusal done) := by
  rw [exchange_of_reply hurl hstore]
  have hrequesting (method text : String) : (Event.requesting method text).level ≠ .info := by
    simp [Event.level]
  have hfailed (status : Nat) (body : String) :
      (Event.requestFailed status body).level ≠ .info := by
    simp [Event.level]
  by_cases hstatus : reply.status = success
  · rw [interpret_of_success hstatus, ← Reply.text]
    have hstatus : reply.status = 200 := hstatus
    cases hread : schema.read reply.text with
    | error misread =>
      constructor <;> simp [settle, hread, hstatus, Except.mapError, hrequesting]
    | ok receipt =>
      cases hok : ok receipt with
      | true =>
        constructor <;> simp [settle, hread, hstatus, hok, Except.mapError, hrequesting, hdone]
      | false =>
        constructor <;> simp [settle, hread, hstatus, hok, Except.mapError, hrequesting]
  · have hinterpret : interpret schema reply = (.error (.http reply.status reply.text),
        [.requestFailed reply.status reply.text]) := by
      rw [interpret, if_neg hstatus, Reply.text]
    have hstatus : reply.status ≠ 200 := hstatus
    rw [hinterpret]
    constructor <;> simp [settle, hstatus, hrequesting, hfailed]

end

/-- A body that is a text is taken as it is. -/
theorem Reply.text_of_toUTF8 {reply : Reply} {body : String} (h : reply.body = body.toUTF8) :
    reply.text = body := by
  rw [text, h, Text.decodeLossy_toUTF8]

/-- With a password, what comes of keeping a record or a batch is decided by the reply, whatever
its status and its body are. The body is taken as text: as it is if it is well formed, and only
then. -/
theorem replies_classified {a : Account} (hp : a.pass ≠ "") (store : Store) (reply : Reply) :
    (∀ (record : Record) (label : String), (Call.put record label).Replied a store reply →
      Settled RecordReceipt.schema (·.ok) (fun receipt => "failed to save record " ++ receipt.id)
        "1 record sent to HostDB" reply (put a store record label)) ∧
    (∀ (batch : Batch) (query : String), (Call.post batch query).Replied a store reply →
      Settled BatchReceipt.schema (·.ok) (·.error) "sent records to HostDB" reply
        (post a store batch query)) ∧
    (∀ body : String, reply.body = body.toUTF8 → reply.text = body) ∧
    (reply.text.toUTF8 = reply.body ↔ ∃ body : String, reply.body = body.toUTF8) := by
  have hpassword : a.hasPassword = true := by simpa [Account.hasPassword] using hp
  refine ⟨?record, ?batch, fun body hbody => Reply.text_of_toUTF8 hbody, ?wellFormed⟩
  case record =>
    rintro record label ⟨url, hurl, hstore⟩
    rw [put, if_pos hpassword]
    have hdone : (Event.recordSent record.recordType (labelOf record label)).level = .info := rfl
    exact settled_exchange hurl hstore hdone
  case batch =>
    rintro batch query ⟨url, hurl, hstore⟩
    rw [post, if_pos hpassword]
    have hdone : (Event.sentBatch batch.records.length batch.recordType).level = .info := rfl
    -- That the batch is about to be sent was reported before the request was made.
    have hsending : (Event.sendingBatch batch.records.length batch.recordType).message
        ≠ "sent records to HostDB" := by simp [Event.message]
    exact (settled_exchange hurl hstore hdone).report hsending
  case wellFormed =>
    refine ⟨fun hsame => ⟨_, hsame.symm⟩, ?_⟩
    rintro ⟨body, hbody⟩
    rw [Reply.text_of_toUTF8 hbody, hbody]

/-- A store that gives one answer to everything. -/
def answering (status : Nat) (body : String) : Store := fun _ => some ⟨status, body.toUTF8⟩

theorem replies_classified_each :
    (put (localAccount "secret") (answering 200 "\x7b\"id\":\"17\",\"ok\":true\x7d")
      { id := "17" } "").result = .ok () ∧
    (put (localAccount "secret") (answering 200 "\x7b\"id\":\"17\"\x7d")
      { id := "17" } "").result = .error (.rejected "failed to save record 17") ∧
    (post (localAccount "secret") (answering 200 "[false,\"full\"]") {} "").result
      = .error (.rejected "full") ∧
    (post (localAccount "secret") (answering 201 "\x7b\"ok\":true\x7d") {} "").result
      = .error (.http 201 "\x7b\"ok\":true\x7d") ∧
    (post (localAccount "secret") (answering 200 "\x7b\"ok\":true\x7d.") {} "").result
      = .error (.json .malformed) := by
  have hput (status : Nat) (body : String) :
      (Call.put { id := "17" } "").Replied (localAccount "secret") (answering status body)
        ⟨status, body.toUTF8⟩ := by
    have hurl : (webUrl? ((localAccount "secret").endpoint
        (Call.put { id := "17" } "").path)).isSome := by decide +kernel
    obtain ⟨url, hurl⟩ := Option.isSome_iff_exists.1 hurl
    exact ⟨url, hurl, rfl⟩
  have hpost (status : Nat) (body : String) :
      (Call.post {} "").Replied (localAccount "secret") (answering status body)
        ⟨status, body.toUTF8⟩ := by
    have hurl : (webUrl? ((localAccount "secret").endpoint
        (Call.post {} "").path)).isSome := by decide +kernel
    obtain ⟨url, hurl⟩ := Option.isSome_iff_exists.1 hurl
    exact ⟨url, hurl, rfl⟩
  have hclassified (status : Nat) (body : String) :=
    replies_classified (by decide : (localAccount "secret").pass ≠ "") (answering status body)
      ⟨status, body.toUTF8⟩
  have htext (status : Nat) (body : String) : (⟨status, body.toUTF8⟩ : Reply).text = body :=
    Reply.text_of_toUTF8 rfl
  refine ⟨?_, ?_, ?_, ?_, ?_⟩
  · refine ((hclassified _ _).1 _ _ (hput _ _)).kept.2 ⟨rfl, { id := "17", ok := true }, ?_, rfl⟩
    rw [htext]
    decide +kernel
  · refine (((hclassified _ _).1 _ _ (hput _ _)).refused _).2 ⟨rfl, { id := "17" }, ?_, rfl, rfl⟩
    rw [htext]
    decide +kernel
  · refine (((hclassified _ _).2.1 _ _ (hpost _ _)).refused _).2
      ⟨rfl, { error := "full" }, ?_, rfl, rfl⟩
    rw [htext]
    decide +kernel
  · exact (((hclassified _ _).2.1 _ _ (hpost _ _)).failed _ _).2 ⟨by decide, rfl, htext _ _⟩
  · refine (((hclassified _ _).2.1 _ _ (hpost _ _)).unread _).2 ⟨rfl, ?_⟩
    rw [htext]
    decide +kernel

/-- A body that is not well formed is not what a failed call tells: for the byte 0xff it tells
U+FFFD. -/
theorem failed_put_replaces_body :
    let store : Store := fun _ => some ⟨500, ⟨#[0xff]⟩⟩
    let result := (put (localAccount "secret") store { id := "17" } "").result
    result = .error (.http 500 "\ufffd") ∧
      ∀ body, result = .error (.http 500 body) → body.toUTF8 ≠ ⟨#[0xff]⟩ := by
  intro store result
  have hresult : result = .error (.http 500 "\ufffd") := by decide +kernel
  refine ⟨hresult, fun body hbody => ?_⟩
  rw [hresult] at hbody
  cases hbody
  decide +kernel

end Inventory.Client
