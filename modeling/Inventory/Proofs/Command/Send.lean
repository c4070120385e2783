import Inventory.Proofs.Command.Task
import Inventory.Proofs.Documents

/-!
# Sending a batch

Four checks stand between the arguments and the end of the program: the file holds a batch, the
address is a URL, there is a password, the store takes the batch. Only past the first three is the
store asked, and only once: all that the store would have said to other requests makes no
difference. Main statements: `exchange_result` and `post_result` (when an exchange succeeds),
`course_send` (what decides the course) and `run_send`.
-/

namespace Inventory

open Answer (BatchReceipt)
open Json (Schema)

namespace Client

variable {a : Account}

/-! ## One exchange -/

/-- An exchange gives what is read from a reply with status 200. -/
theorem exchange_result {α : Type} {path : String} {url : Url}
    (h : webUrl? (a.endpoint path) = some url) {store : Store} {method : Method}
    {document : Option String} {schema : Schema α} {x : α} :
    (exchange a store method path document schema).result = .ok x ↔
      ∃ reply, store { method, url, authorization := a.authorization, document } = some reply ∧
        reply.status = success ∧ schema.read (Text.decodeLossy reply.body) = .ok x := by
  simp only [exchange, h]
  split
  · next hstore => simp [hstore]
  · next reply hstore =>
    simp only [hstore, Option.some.injEq, exists_eq_left']
    by_cases hstatus : reply.status = success
    · rw [interpret_of_success hstatus]
      exact mapError_eq_ok.trans (and_iff_right hstatus).symm
    · simp [interpret_of_other_status hstatus, hstatus]

/-- A receipt settles an exchange when it is good. -/
theorem settle_result {ρ : Type} {e : Exchange ρ} {ok : ρ → Bool} {refusal : ρ → String}
    {done : Event} :
    (settle e ok refusal done).result = .ok () ↔
      ∃ receipt, e.result = .ok receipt ∧ ok receipt = true := by
  unfold settle
  split
  · next fault h => simp [h]
  · next receipt h =>
    split
    · next hok => simp [h, hok]
    · next hok => simp [h, hok]

/-- The store accepts the batch in a request: it replies with status 200 and a receipt that is
good. -/
def Accepts (store : Store) (request : Request) : Prop :=
  ∃ reply receipt, store request = some reply ∧ reply.status = 200 ∧
    BatchReceipt.schema.read (Text.decodeLossy reply.body) = .ok receipt ∧ receipt.ok = true

/-- The request that a batch is sent in. -/
def postRequest (a : Account) (batch : Batch) (url : Url) : Request where
  method := .post
  url := url
  authorization := a.authorization
  document := some (Batch.schema.write batch)

section
variable {batch : Batch} {query : String} (hp : a.hasPassword = true) {url : Url}
  (hurl : webUrl? (a.endpoint ("/records/?" ++ queryOf batch query)) = some url)
include hp hurl

theorem post_result (store : Store) :
    (post a store batch query).result = .ok () ↔ Accepts store (postRequest a batch url) := by
  simp only [post, if_pos hp]
  rw [settle_result]
  simp only [exchange_result hurl]
  constructor
  · rintro ⟨receipt, ⟨reply, hreply, hstatus, hread⟩, hok⟩
    exact ⟨reply, receipt, hreply, hstatus, hread, hok⟩
  · rintro ⟨reply, receipt, hreply, hstatus, hread, hok⟩
    exact ⟨receipt, ⟨reply, hreply, hstatus, hread⟩, hok⟩

/-- Only the reply to the one request matters. -/
theorem post_congr {store store' : Store}
    (h : store' (postRequest a batch url) = store (postRequest a batch url)) :
    post a store' batch query = post a store batch query := by
  unfold postRequest at h
  simp only [post, if_pos hp, exchange, hurl, h]

end

end Client

namespace Command

open Client (Account Store Request Accepts postRequest queryOf webUrl?)
open Files (Disk)

/-! ## Runs -/

/-- The address that is used when `address` is given: an empty one stands for the default. -/
def addressFor (address : String) : String :=
  if address = "" then "https://hostdb.pdxfixit.com/v0" else address

theorem address_ofTexts (address user pass : String) :
    (Account.ofTexts address user pass).address = addressFor address := by
  simp [Account.ofTexts, addressFor]

section
variable {disk : Disk} {store : Store} {batch : Batch} {query : String} {a : Account}

/-- With a bad address nothing is asked of the store. -/
theorem runSend_of_bad_address (h : Url.parse a.address = none) :
    runSend disk store batch query a
      = { code := 2
          complaint := some ("Error configuring client: " ++ (Fault.address a.address).message)
          disk } := by
  rw [runSend, Account.check, h]

/-- Without a password nothing is asked of the store, and that counts as done. -/
theorem runSend_of_no_password (h : (Url.parse a.address).isSome) (hp : a.pass = "") :
    runSend disk store batch query a
      = { code := 0, disk, events := [.batchWithheld (queryOf batch query)] } := by
  simp only [runSend, Account.check_eq_ok_iff.2 ⟨rfl, h⟩, Client.post_of_no_password hp]

section
variable (h : (Url.parse a.address).isSome) (hp : a.hasPassword = true) {url : Url}
  (hurl : webUrl? (a.endpoint ("/records/?" ++ queryOf batch query)) = some url)
include h hp hurl

/-- Past all checks the store is asked once, and it decides how the program ends. -/
theorem runSend_of_password :
    (runSend disk store batch query a).request = some (postRequest a batch url) ∧
    (Accepts store (postRequest a batch url) → (runSend disk store batch query a).code = 0) ∧
    (¬ Accepts store (postRequest a batch url) → (runSend disk store batch query a).code = 1) := by
  have hrequest := Client.post_request_of_url hp hurl store
  have hresult := Client.post_result hp hurl store
  simp only [runSend, Account.check_eq_ok_iff.2 ⟨rfl, h⟩]
  split
  · next fault hfault =>
    have hrefused : ¬ Accepts store (postRequest a batch url) := by
      rw [← hresult, hfault]
      simp
    exact ⟨hrequest, fun hok => absurd hok hrefused, fun _ => rfl⟩
  · next hok => exact ⟨hrequest, fun _ => rfl, fun hrefused => absurd (hresult.1 hok) hrefused⟩

theorem runSend_congr {store' : Store}
    (hstore : store' (postRequest a batch url) = store (postRequest a batch url)) :
    runSend disk store' batch query a = runSend disk store batch query a := by
  simp only [runSend, Account.check_eq_ok_iff.2 ⟨rfl, h⟩, Client.post_congr hp hurl hstore]

end

end

/-- The courses that sending can take, for every store: the store is asked on the last of them
only, and then it is asked one thing. -/
inductive Course (found addressed signed : Prop) (runs : Store → Run) : Prop where
  | unread (hfound : ¬ found) (r : Run) (hruns : ∀ store, runs store = r) (hcode : r.code = 2)
      (hrequest : r.request = none)
  | misaddressed (haddressed : ¬ addressed) (r : Run) (hruns : ∀ store, runs store = r)
      (hcode : r.code = 2) (hrequest : r.request = none)
  | withheld (hfound : found) (haddressed : addressed) (hsigned : ¬ signed) (r : Run)
      (hruns : ∀ store, runs store = r) (hcode : r.code = 0) (hrequest : r.request = none)
  | asked (hfound : found) (haddressed : addressed) (hsigned : signed) (request : Request)
      (hrequest : ∀ store, (runs store).request = some request)
      (haccepted : ∀ store, Accepts store request → (runs store).code = 0)
      (hrefused : ∀ store, ¬ Accepts store request → (runs store).code = 1)
      (hsame : ∀ store store', store' request = store request → runs store' = runs store)

section
variable {env : List (String × String)} {arguments : List String} {disk : Disk}
  {input query address user pass : String} {verbose : Bool}
  (h : read env false arguments
    = .ok { task := .send input query (.ofTexts address user pass), verbose })
  (hurl : (Url.parse (addressFor address)).isSome →
    ∀ batch, HoldsDocument disk input Batch.schema batch →
      (webUrl? ((Account.ofTexts address user pass).endpoint
        ("/records/?" ++ queryOf batch query))).isSome)
include h hurl

/-- The document, the address and the password decide which course is taken. -/
theorem course_send :
    Course (∃ batch, HoldsDocument disk input Batch.schema batch)
      ((Url.parse (addressFor address)).isSome = true) (pass ≠ "")
      (run env disk · arguments) := by
  have hrun (store : Store) : run env disk store arguments
      = withDocument Batch.schema disk input
          (runSend disk store · query (.ofTexts address user pass)) := run_of_read h disk store
  by_cases hfound : ∃ batch, HoldsDocument disk input Batch.schema batch
  case neg =>
    obtain ⟨complaint, hnone⟩ := withDocument_of_none (not_exists.1 hfound)
    exact .unread hfound _ (fun store => (hrun store).trans (hnone _)) rfl rfl
  obtain ⟨batch, hbatch⟩ := id hfound
  simp only [withDocument_of_holds hbatch] at hrun
  by_cases haddressed : (Url.parse (addressFor address)).isSome = true
  case neg =>
    have hbad : Url.parse (Account.ofTexts address user pass).address = none := by
      rw [address_ofTexts]
      exact Option.not_isSome_iff_eq_none.1 haddressed
    exact .misaddressed haddressed _ (fun store => (hrun store).trans (runSend_of_bad_address hbad))
      rfl rfl
  have hgood : (Url.parse (Account.ofTexts address user pass).address).isSome := by
    rwa [address_ofTexts]
  by_cases hpass : pass = ""
  case pos =>
    exact .withheld hfound haddressed (not_not_intro hpass) _
      (fun store => (hrun store).trans (runSend_of_no_password hgood hpass)) rfl rfl
  have hp : (Account.ofTexts address user pass).hasPassword = true := by
    simpa [Account.hasPassword, Account.ofTexts] using hpass
  obtain ⟨url, hurl⟩ := Option.isSome_iff_exists.1 (hurl haddressed batch hbatch)
  refine .asked hfound haddressed hpass (postRequest (.ofTexts address user pass) batch url)
    ?request ?accepted ?refused ?same
  case request =>
    intro store
    rw [hrun]
    exact (runSend_of_password hgood hp hurl).1
  case accepted =>
    intro store haccepts
    rw [hrun]
    exact (runSend_of_password hgood hp hurl).2.1 haccepts
  case refused =>
    intro store hrefuses
    rw [hrun]
    exact (runSend_of_password hgood hp hurl).2.2 hrefuses
  case same =>
    intro store store' hstore
    rw [hrun, hrun]
    exact runSend_congr hgood hp hurl hstore

/-- What comes of asking for a batch to be sent, whatever is in the file and whatever the store
replies. Every address that is put together from a good one is taken to be a web address. -/
theorem run_send (store : Store) :
    let found := ∃ batch, HoldsDocument disk input Batch.schema batch
    let addressed := (Url.parse (addressFor address)).isSome = true
    let r := run env disk store arguments
    (r.request.isSome ↔ found ∧ addressed ∧ pass ≠ "") ∧
    (r.code = 2 ↔ ¬ found ∨ ¬ addressed) ∧
    (r.code = 1 ↔ ∃ request ∈ r.request, ¬ Accepts store request) ∧
    (r.code ≠ 2 → r.code ≠ 1 → r.code = 0) ∧
    ∀ store' : Store, (∀ request ∈ r.request, store' request = store request) →
      run env disk store' arguments = r := by
  intro found addressed r
  cases course_send h hurl with
  | unread hfound e hruns hcode hrequest =>
    have hr : r = e := hruns store
    have hfound : ¬ found := hfound
    simp [hr, hruns, hcode, hrequest, hfound]
  | misaddressed haddressed e hruns hcode hrequest =>
    have hr : r = e := hruns store
    have haddressed : ¬ addressed := haddressed
    simp [hr, hruns, hcode, hrequest, haddressed]
  | withheld hfound haddressed hsigned e hruns hcode hrequest =>
    have hr : r = e := hruns store
    have hfound : found := hfound
    have haddressed : addressed := haddressed
    simp [hr, hruns, hcode, hrequest, hfound, haddressed, Decidable.not_not.1 hsigned]
  | asked hfound haddressed hsigned request hrequest haccepted hrefused hsame =>
    have hfound : found := hfound
    have haddressed : addressed := haddressed
    have hrequest : r.request = some request := hrequest store
    refine ⟨by simp [hrequest, hfound, haddressed, hsigned], ?_, ?_, ?_, fun store' hstore =>
      hsame store store' (hstore request hrequest)⟩
    all_goals
      by_cases hok : Accepts store request
      · have hcode : r.code = 0 := haccepted store hok
        simp [hcode, hrequest, hfound, haddressed, hok]
      · have hcode : r.code = 1 := hrefused store hok
        simp [hcode, hrequest, hfound, haddressed, hok]

end

/-- A disk with one file, which holds an empty batch. -/
def emptyBatchDisk : Disk where
  entries := [(["batch.json"], .file "\x7b\x7d".toUTF8)]
  home := []

theorem holds_emptyBatchDisk : HoldsDocument emptyBatchDisk "batch.json" Batch.schema {} :=
  ⟨"\x7b\x7d", ⟨["batch.json"], rfl⟩, rfl⟩

/-- A store that replies to everything that the batch was kept. -/
def willingStore : Store := fun _ =>
  some ⟨200, (BatchReceipt.schema.write { ok := true }).toUTF8⟩

theorem accepts_willingStore (request : Request) : Accepts willingStore request := by
  have hbody : Text.decodeLossy (BatchReceipt.schema.write { ok := true }).toUTF8
      = BatchReceipt.schema.write { ok := true } := by
    decide +kernel
  refine ⟨_, { ok := true }, rfl, rfl, ?_, rfl⟩
  rw [hbody]
  exact BatchReceipt.schema_lossless.returns _

/-- The arguments that have the batch sent to a place on this machine. -/
def localLine (pass : String) : List String :=
  sendLine "batch.json" "" "http://localhost:8080/v0/" "" pass

theorem run_send_local :
    (run [] emptyBatchDisk willingStore (localLine "secret")).request.isSome ∧
    (run [] emptyBatchDisk willingStore (localLine "secret")).code = 0 ∧
    (run [] emptyBatchDisk willingStore (localLine "")).request = none ∧
    (run [] emptyBatchDisk willingStore (localLine "")).code = 0 := by
  have hread (pass : String) :=
    read_send [] (by decide : "batch.json" ≠ "") "" "http://localhost:8080/v0/" "" pass
  have hfound : ∃ batch, HoldsDocument emptyBatchDisk "batch.json" Batch.schema batch :=
    ⟨{}, holds_emptyBatchDisk⟩
  have haddressed : (Url.parse (addressFor "http://localhost:8080/v0/")).isSome = true := by
    decide +kernel
  have hurl (pass : String) (batch : Batch)
      (hbatch : HoldsDocument emptyBatchDisk "batch.json" Batch.schema batch) :
      (webUrl? ((Account.ofTexts "http://localhost:8080/v0/" "" pass).endpoint
        ("/records/?" ++ queryOf batch ""))).isSome := by
    obtain rfl := holds_emptyBatchDisk.eq hbatch
    -- The password is no part of the address.
    show (webUrl? ((Account.ofTexts "http://localhost:8080/v0/" "" "").endpoint
      ("/records/?" ++ queryOf {} ""))).isSome = true
    decide +kernel
  have hsend (pass : String) := run_send (hread pass) (fun _ => hurl pass) willingStore
  have hcode (pass : String) :
      (run [] emptyBatchDisk willingStore (localLine pass)).code = 0 := by
    obtain ⟨-, hunfit, hrefused, hdone, -⟩ := hsend pass
    refine hdone (fun h => ?_) fun h => ?_
    · exact (hunfit.1 h).elim (· hfound) (· haddressed)
    · obtain ⟨request, -, h⟩ := hrefused.1 h
      exact h (accepts_willingStore request)
  refine ⟨(hsend "secret").1.2 ⟨hfound, haddressed, by decide⟩, hcode "secret", ?_, hcode ""⟩
  have hnone := mt (hsend "").1.1 fun h => h.2.2 rfl
  exact Option.not_isSome_iff_eq_none.1 hnone

end Command

end Inventory
