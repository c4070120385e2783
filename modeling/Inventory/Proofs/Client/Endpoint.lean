import Inventory.Proofs.Client.Session
import Inventory.Proofs.Url.Joined

/-!
# Where requests go

The address of an account is read as a URL once, when the account is checked. A request is made to
the URL that is read from the address with the path of a call put behind it. Both are on one host.
The path of the request is the path of the account and then that of the call, unless the address
has a query or a fragment, in which the path of the call is lost, or ends in a blank, which is
no longer an end. Main statements: `Call.url_of_request`, `pathOf_records` and `requests_located`.
-/

namespace Inventory.Client

open Url (Joins)
open Url.Segments (resolve)

variable {a : Account}

/-! ## The URL of a request -/

theorem webUrl?_eq_some {text : String} {u : Url} (h : webUrl? text = some u) :
    Url.parse text = some u ∧ (u.scheme = "http" ∨ u.scheme = "https") := by
  unfold webUrl? at h
  split at h
  · contradiction
  · next v hv =>
    split at h
    · next hscheme =>
      obtain rfl := Option.some.inj h
      exact ⟨hv, hscheme⟩
    · contradiction

theorem webUrl?_of_parse {text : String} {u : Url} (h : Url.parse text = some u)
    (hscheme : u.scheme = "http" ∨ u.scheme = "https") : webUrl? text = some u := by
  rw [webUrl?, h]
  exact if_pos hscheme

theorem url_of_exchange {α : Type} {store : Store} {method : Method} {path : String}
    {document : Option String} {schema : Json.Schema α} {r : Request}
    (h : (exchange a store method path document schema).request = some r) :
    webUrl? (a.endpoint path) = some r.url := by
  cases hu : webUrl? (a.endpoint path) with
  | none =>
    have hnone : (exchange a store method path document schema).request = none := by
      simp only [exchange, hu]
    rw [hnone] at h
    exact absurd h.symm (Option.some_ne_none r)
  | some url =>
    rw [exchange_eq_of_url hu] at h
    obtain rfl := Option.some.inj h
    rfl

/-- A request that a call makes goes to its path, put behind the address. -/
theorem Call.url_of_request {c : Call} {store : Store} {r : Request}
    (h : (c.make a store).request = some r) : webUrl? (a.endpoint c.path) = some r.url := by
  cases c with
  | put record label =>
    rw [make, Exchange.map_request, Client.put] at h
    split at h
    · rw [settle_request] at h
      exact url_of_exchange h
    · contradiction
  | post batch query =>
    rw [make, Exchange.map_request, Client.post] at h
    split at h
    · dsimp only at h
      rw [settle_request] at h
      exact url_of_exchange h
    · contradiction
  | get query =>
    rw [make, Exchange.map_request, Client.get] at h
    exact url_of_exchange h

/-! ## The path of a request -/

/-- The segment under which all records are. -/
def records : List Char := "records".toList

/-- It is one segment, and nothing in it is cut off. -/
theorem plain_of_mem_records : ∀ c ∈ records,
    Url.isEdge c = false ∧ Url.Kind.web.isSlash c = false ∧ Url.endsPath c = false := by
  have hall : records.all
      (fun c => !Url.isEdge c && (!Url.Kind.web.isSlash c && !Url.endsPath c)) = true := by decide
  intro c hc
  simpa using List.all_eq_true.1 hall c hc

/-- What a call puts behind the place of all records. -/
def Call.resource : Call → List Char
  | .put record _ => record.id.toList
  | .post batch query => '?' :: (queryOf batch query).toList
  | .get query => if query.isEmpty then [] else '?' :: (bareQuery query).toList

theorem Call.endpoint_path (a : Account) (c : Call) :
    a.endpoint c.path = Url.joined a.address (records ++ '/' :: c.resource) := by
  have hpath : c.path.toList = '/' :: (records ++ '/' :: c.resource) := by
    cases c with
    | put record label => rw [path, recordPath, String.toList_append]; rfl
    | post batch query => rw [path, String.toList_append]; rfl
    | get query =>
      rw [path, searchPath, resource]
      split
      · rfl
      · rw [String.toList_append]; rfl
  rw [Account.endpoint, hpath]
  rfl

/-- The segments that something behind the place of all records spells. -/
def parts (resource : List Char) : List (List Char) :=
  Text.split Url.Kind.web.isSlash ((Url.back resource).takeWhile (!Url.endsPath ·))

/-- The path of a resource is resolved on top of the segment under which all records are. -/
theorem pathOf_records {bared : List Char} (h : Url.IsPath bared) (resource : List Char) :
    Url.pathOf .web (bared ++ '/' :: Url.back (records ++ '/' :: resource)) = String.ofList
      (Url.spelled (resolve (records :: Url.stack bared) (parts resource))) := by
  have hback : Url.back (records ++ '/' :: resource) = records ++ '/' :: Url.back resource := by
    rw [Url.back_append fun c hc => (plain_of_mem_records c hc).1, Url.back_cons (by decide)]
  have htake : (records ++ '/' :: Url.back resource).takeWhile (!Url.endsPath ·)
      = records ++ '/' :: (Url.back resource).takeWhile (!Url.endsPath ·) := by
    have hplain : ∀ c ∈ records, (!Url.endsPath c) = true := fun c hc => by
      rw [(plain_of_mem_records c hc).2.2]
      rfl
    rw [List.takeWhile_append_of_pos hplain, List.takeWhile_cons_of_pos (by decide)]
  obtain ⟨next, rest, hnext⟩ := List.exists_cons_of_ne_nil
    (Text.split_ne_nil Url.Kind.web.isSlash ((Url.back resource).takeWhile (!Url.endsPath ·)))
  have hsegment : Text.split Url.Kind.web.isSlash records = [records] :=
    Text.split_of_none fun c hc => (plain_of_mem_records c hc).2.1
  rw [Url.pathOf_append h, hback, htake, Text.split_append_separator rfl, hsegment, parts, hnext,
    List.singleton_append, resolve, if_neg (by decide), if_neg (by decide)]

theorem kind_of_webUrl {scheme : String} (h : scheme = "http" ∨ scheme = "https") :
    Url.Kind.ofScheme scheme = .web := by
  rcases h with rfl | rfl <;> decide

/-- A request goes to the host of the account, with what the call asks for put behind the rest. -/
theorem Call.url_eq {base : Url} {more bared : List Char} (h : Joins a.address base more bared)
    {c : Call} {store : Store} {r : Request} (hr : (c.make a store).request = some r) :
    bared.head?.all Url.Kind.web.endsHost = true ∧
      r.url = Url.onHost .web base.scheme base.host base.port
        (bared ++ '/' :: Url.back (records ++ '/' :: c.resource)) := by
  have hparse := (webUrl?_eq_some (url_of_request hr)).1
  rw [endpoint_path] at hparse
  exact h.eq_of_parse hparse

/-- There is a request unless the call is withheld or the address ends in a blank. -/
theorem Call.exists_request {base : Url} {more bared : List Char}
    (h : Joins a.address base more bared) (hscheme : base.scheme = "http" ∨ base.scheme = "https")
    (htrim : Url.isTrimmed a.address = true) {c : Call}
    (hc : a.hasPassword = true ∨ c.writes = false) (store : Store) :
    ∃ r, (c.make a store).request = some r := by
  have hparse := h.parse_eq (records ++ '/' :: c.resource)
  rw [if_pos (h.head_of_trimmed htrim), ← endpoint_path] at hparse
  exact ⟨_, request_make hc (webUrl?_of_parse hparse hscheme) store⟩

/-- The call does not lead out of the place of all records. -/
def Call.staysInside : Call → Bool
  | .put record _ => Url.Segments.staysInside 0 (parts record.id.toList)
  | _ => true

theorem Call.staysInside_parts {c : Call} (h : c.staysInside = true) :
    Url.Segments.staysInside 0 (parts c.resource) = true := by
  have hquery : ∀ query, Url.Segments.staysInside 0 (parts ('?' :: query)) = true := fun query => by
    rw [parts, Url.back_cons (by decide), List.takeWhile_cons_of_neg (by decide)]
    rfl
  cases c with
  | put record label => exact h
  | post batch query => exact hquery _
  | get query =>
    rw [resource]
    split
    · rfl
    · exact hquery _

/-- The request goes to the host of a URL. -/
structure Request.SentTo (r : Request) (u : Url) : Prop where
  scheme : r.url.scheme = u.scheme
  host : r.url.host = u.host
  port : r.url.port = u.port

/-- A path begins with another, without the slashes at its end, and then with that of all records,
so many slashes between them. -/
def IsUnderRecords (path base : String) (slashes : Nat) : Prop :=
  ∃ rest, path.toList
    = Url.bare base.toList ++ List.replicate slashes '/' ++ ("/records/".toList ++ rest)

/-- A path that is put behind that of an account, and does not lead out, is under it. -/
theorem isUnderRecords_of_call {bared : List Char} {base : Url} {j : Nat}
    (hbared : Url.IsPath bared) (hbase : base.path = String.ofList
      (Url.spelled (Url.stack bared).reverse ++ List.replicate j '/'))
    {c : Call} (hc : c.staysInside = true) :
    ∃ n, IsUnderRecords
        (Url.pathOf .web (bared ++ '/' :: Url.back (records ++ '/' :: c.resource))) base.path n ∧
      (Url.bare (Url.spelled (Url.stack bared).reverse) = Url.spelled (Url.stack bared).reverse →
        n = 0) := by
  have hstays : ∃ after, after ≠ [] ∧ resolve ([] ++ records :: Url.stack bared) (parts c.resource)
      = (records :: Url.stack bared).reverse ++ after :=
    Url.Segments.resolve_of_staysInside (Text.split_ne_nil _ _) (Call.staysInside_parts hc)
  obtain ⟨after, hne, hafter⟩ := hstays
  obtain ⟨segment, rest, rfl⟩ := List.exists_cons_of_ne_nil hne
  obtain ⟨n, hn⟩ := Url.bare_append (Url.spelled (Url.stack bared).reverse)
  have hbelow : Url.spelled (resolve (records :: Url.stack bared) (parts c.resource))
      = Url.spelled (Url.stack bared).reverse ++ ("/records/".toList
        ++ (Url.Percent.escape Url.Percent.inPath segment ++ Url.spelled rest)) := by
    have hresolve : resolve (records :: Url.stack bared) (parts c.resource)
        = (Url.stack bared).reverse ++ ([records] ++ segment :: rest) := by
      rw [← List.append_assoc, ← List.reverse_cons]
      exact hafter
    rw [hresolve, Url.spelled_append, Url.spelled_append, Url.spelled_cons segment]
    rfl
  refine ⟨n, ⟨Url.Percent.escape Url.Percent.inPath segment ++ Url.spelled rest, ?_⟩,
    fun hbare => ?_⟩
  · rw [pathOf_records hbared, hbase, String.toList_ofList, String.toList_ofList,
      Url.bare_append_slashes, hbelow, ← hn]
  · rw [hbare, List.self_eq_append_right] at hn
    exact (List.replicate_eq_nil_iff _).1 hn

/-- Requests go to the host of the account. Where the address has a query or a fragment the path of
a request is that of the account; where it has neither, that of the call is put right behind it,
with slashes between them only if the address itself ends in a part that is empty or points. -/
theorem requests_located {base : Url} (hbase : Url.parse a.address = some base)
    (hscheme : base.scheme = "http" ∨ base.scheme = "https") (c : Call) (store : Store) :
    (∀ r, (c.make a store).request = some r → r.SentTo base ∧
      (¬Url.TakesPaths a.address base → r.url.path = base.path)) ∧
    (Url.TakesPaths a.address base → Url.isTrimmed a.address = true → c.staysInside = true →
      a.hasPassword = true ∨ c.writes = false →
      ∃ r n, (c.make a store).request = some r ∧ IsUnderRecords r.url.path base.path n ∧
        (Url.endsOrdinary a.address = true → n = 0)) := by
  obtain ⟨more, bared, hjoins⟩ := Url.exists_joins hbase (kind_of_webUrl hscheme)
  constructor
  · intro r hr
    obtain ⟨-, hurl⟩ := Call.url_eq hjoins hr
    have hsent : r.SentTo base := by
      constructor <;> rw [hurl] <;> rfl
    refine ⟨hsent, fun hlost => ?_⟩
    rw [hurl]
    exact hjoins.path_eq hlost _
  · intro ht htrim hc hp
    obtain ⟨r, hr⟩ := Call.exists_request hjoins hscheme htrim hp store
    obtain ⟨hhead, hurl⟩ := Call.url_eq hjoins hr
    obtain ⟨j, hj⟩ := hjoins.exists_path_eq ht htrim
    obtain ⟨n, hunder, hzero⟩ := isUnderRecords_of_call (hjoins.isPath ht hhead) hj hc
    refine ⟨r, n, hr, ?_, fun hends => hzero (hjoins.bare_eq ht hhead hends)⟩
    rw [hurl]
    exact hunder

/-- The place on this machine, as a URL. -/
def localBase : Url where
  scheme := "http"
  host := some (.domain "localhost")
  port := some 8080
  path := "/v0/"
  query := none

theorem requests_located_local :
    Url.parse (localAccount "secret").address = some localBase ∧
    ∃ r, ((Call.put { id := "rack/../17", data := .null } "").make (localAccount "secret")
        fun _ => none).request = some r ∧
      r.SentTo localBase ∧ IsUnderRecords r.url.path "/v0/" 0 := by
  have hbase : Url.parse (localAccount "secret").address = some localBase := by decide +kernel
  have htakes : Url.TakesPaths (localAccount "secret").address localBase :=
    ⟨rfl, by decide +kernel⟩
  have htrim : Url.isTrimmed (localAccount "secret").address = true := by decide +kernel
  have hends : Url.endsOrdinary (localAccount "secret").address = true := by decide +kernel
  have hlocated := requests_located hbase (.inl rfl)
    (.put { id := "rack/../17", data := .null } "") fun _ => none
  obtain ⟨r, n, hr, hunder, hzero⟩ := hlocated.2 htakes htrim (by decide +kernel) (.inl (by decide))
  obtain rfl := hzero hends
  exact ⟨hbase, r, hr, (hlocated.1 r hr).1, hunder⟩

/-- The request of a call goes elsewhere than right behind the path of the address. -/
def IsMisplaced (address : String) (c : Call) : Prop :=
  ∃ base ∈ Url.parse address, base.scheme = "http" ∧
    ∃ r ∈ (c.make (.ofTexts address "" "p") fun _ => none).request,
      ¬Url.bare base.path.toList ++ "/records/".toList <+: r.url.path.toList

instance (address : String) (c : Call) : Decidable (IsMisplaced address c) :=
  inferInstanceAs (Decidable (∃ _ ∈ _, _ ∧ ∃ _ ∈ _, ¬_))

/-- A query, a fragment, a blank or a backslash at the end of an address misplaces a request, and so
do points in an id. -/
theorem requests_not_located :
    IsMisplaced "http://h/v0?x=1" (.get "") ∧
    IsMisplaced "http://h/v0#x" (.get "") ∧
    IsMisplaced "http://h/v0 " (.get "") ∧
    IsMisplaced "http://h/v0\\" (.get "") ∧
    IsMisplaced "http://h/v0" (.put { id := ".." } "") := by
  decide +kernel

end Inventory.Client
