import Inventory.Proofs.Text.Split
import Inventory.Settings.Basic

/-!
# What a connection says

The text of a connection tells which database it leads to, as whom and how. Its six parts are run
together with separators that may stand inside a password, a host or a parameter as well, so each
part is found from the side where its separator cannot be mistaken: the user before the first
colon, the schema after the last slash, the port after the last colon in front of that, the host
after the last at sign. Main statements: `toList_address` (where the separators stand) and
`address_determines`.
-/

namespace Inventory.Settings.Database

open Inventory.Text (cut_first cut_last mem_of_mem_intercalate split_intercalate)

/-- No part holds a separator that would be mistaken for the one at its end. The password may be
any text. -/
structure Separable (d : Database) : Prop where
  user : ':' ∉ d.user.toList
  host : '@' ∉ d.host.toList
  db : '/' ∉ d.db.toList ∧ '?' ∉ d.db.toList
  params : ∀ p ∈ d.params, '/' ∉ p.toList ∧ '&' ∉ p.toList

/-- The host with what stands in front of it. -/
def hostPart (d : Database) : List Char := ['t', 'c', 'p', '('] ++ d.host.toList

/-- The digits of the port. -/
def portPart (d : Database) : List Char := Nat.toDigits 10 d.port.toNat

/-- The parameters with what stands between and in front of them. -/
def paramsPart (params : List String) : List Char :=
  if params.isEmpty then [] else '?' :: ['&'].intercalate (params.map String.toList)

variable {c d : Database}

/-- Where the separators stand. -/
theorem toList_address (d : Database) :
    d.address.toList = d.user.toList ++ ':' :: ((d.pass.toList ++ '@' :: (d.hostPart ++ ':' ::
      (d.portPart ++ [')']))) ++ '/' :: (d.db.toList ++ paramsPart d.params)) := by
  have hparams : (if d.params.isEmpty then "" else "?" ++ "&".intercalate d.params).toList
      = paramsPart d.params := by
    unfold paramsPart
    split
    · rfl
    · rw [String.toList_append, String.toList_intercalate]
      rfl
  simp only [address, String.toList_append, hparams, String.toList_ofList, hostPart, portPart]
  simp

/-! ## No separator inside -/

theorem slash_not_mem_params (h : d.Separable) : '/' ∉ d.db.toList ++ paramsPart d.params := by
  intro hmem
  rcases List.mem_append.1 hmem with hdb | hparams
  · exact h.db.1 hdb
  · unfold paramsPart at hparams
    split at hparams
    · exact absurd hparams List.not_mem_nil
    · rcases List.mem_cons.1 hparams with hmark | hparams
      · exact absurd hmark (by decide)
      · rcases mem_of_mem_intercalate hparams with hseparator | ⟨p, hp, hslash⟩
        · exact absurd hseparator (by decide)
        · obtain ⟨q, hq, rfl⟩ := List.mem_map.1 hp
          exact (h.params q hq).1 hslash

theorem colon_not_mem_port : ':' ∉ d.portPart ++ [')'] := by
  intro hmem
  rcases List.mem_append.1 hmem with hport | hclose
  · have hdigit := Nat.isDigit_of_mem_toDigits (by decide) (by decide) hport
    exact absurd hdigit (by decide)
  · exact absurd hclose (by decide)

theorem at_not_mem_host (h : d.Separable) : '@' ∉ d.hostPart := by
  intro hmem
  rcases List.mem_append.1 hmem with hprotocol | hhost
  · exact absurd hprotocol (by decide)
  · exact h.host hhost

/-! ## The parts read back -/

/-- The digits of the port tell the port. -/
theorem port_eq (h : c.portPart = d.portPart) : c.port = d.port := by
  have hnat := congrArg (fun digits => Nat.ofDigitChars 10 digits 0) h
  simp only [portPart, Nat.ofDigitChars_ten_toDigits] at hnat
  exact UInt16.toNat_inj.1 hnat

/-- Joined parameters tell their number and each of them. That there are none is told by the
missing question mark, so it is not taken for one empty parameter. -/
theorem params_eq {ps qs : List String} (hps : ∀ p ∈ ps, '&' ∉ p.toList)
    (hqs : ∀ p ∈ qs, '&' ∉ p.toList) (h : paramsPart ps = paramsPart qs) : ps = qs := by
  have hparts {rs : List String} (hrs : ∀ p ∈ rs, '&' ∉ p.toList) (hne : rs ≠ []) :
      Text.split (· == '&') (['&'].intercalate (rs.map String.toList)) = rs.map String.toList := by
    apply split_intercalate (by decide)
    · simpa using hne
    · intro p hp x hx
      obtain ⟨q, hq, rfl⟩ := List.mem_map.1 hp
      have hx' : x ≠ '&' := fun heq => hrs q hq (heq ▸ hx)
      simpa using hx'
  by_cases hp : ps = []
  · by_cases hq : qs = []
    · rw [hp, hq]
    · simp [paramsPart, hp, hq] at h
  · by_cases hq : qs = []
    · simp [paramsPart, hp, hq] at h
    · simp only [paramsPart, List.isEmpty_iff, if_neg hp, if_neg hq] at h
      have hjoined := (List.cons.inj h).2
      have hlists := hparts hps hp
      rw [hjoined, hparts hqs hq] at hlists
      exact (List.map_inj_right fun _ _ => String.toList_inj.1).1 hlists.symm

/-- The schema ends where the parameters begin. -/
theorem schema_eq (hc : '?' ∉ c.db.toList) (hd : '?' ∉ d.db.toList)
    (h : c.db.toList ++ paramsPart c.params = d.db.toList ++ paramsPart d.params) :
    c.db.toList = d.db.toList ∧ paramsPart c.params = paramsPart d.params := by
  by_cases hp : c.params = []
  · by_cases hq : d.params = []
    · simpa [paramsPart, hp, hq] using h
    · -- A question mark on one side only.
      have hnil : paramsPart c.params = [] := by simp [paramsPart, hp]
      rw [hnil, List.append_nil] at h
      refine absurd ?_ hc
      rw [h]
      simp [paramsPart, hq]
  · by_cases hq : d.params = []
    · have hnil : paramsPart d.params = [] := by simp [paramsPart, hq]
      rw [hnil, List.append_nil] at h
      refine absurd ?_ hd
      rw [← h]
      simp [paramsPart, hp]
    · simp only [paramsPart, List.isEmpty_iff, if_neg hp, if_neg hq] at h ⊢
      obtain ⟨hdb, hparams⟩ := cut_first hc hd h
      exact ⟨hdb, congrArg _ hparams⟩

/-- Two connections with the same text are the same in every part. -/
theorem address_determines (hc : c.Separable) (hd : d.Separable) (h : c.address = d.address) :
    c = d := by
  have hlist := congrArg String.toList h
  rw [toList_address, toList_address] at hlist
  obtain ⟨huser, hlist⟩ := cut_first hc.user hd.user hlist
  obtain ⟨hlogin, hschema⟩ :=
    cut_last (slash_not_mem_params hc) (slash_not_mem_params hd) hlist
  obtain ⟨hdb, hparams⟩ := schema_eq hc.db.2 hd.db.2 hschema
  -- In front of the last slash the password may hold any separator, so the host is found from
  -- behind: the port comes off first, then what stands after the last at sign.
  have hplace (d : Database) : d.pass.toList ++ '@' :: (d.hostPart ++ ':' :: (d.portPart ++ [')']))
      = (d.pass.toList ++ '@' :: d.hostPart) ++ ':' :: (d.portPart ++ [')']) := by simp
  rw [hplace, hplace] at hlogin
  obtain ⟨hlogin, hport⟩ := cut_last colon_not_mem_port colon_not_mem_port hlogin
  obtain ⟨hpass, hhost⟩ := cut_last (at_not_mem_host hc) (at_not_mem_host hd) hlogin
  have hparams : c.params = d.params :=
    params_eq (fun p hp => (hc.params p hp).2) (fun p hp => (hd.params p hp).2) hparams
  have hport : c.port = d.port := port_eq (List.append_cancel_right hport)
  have hhost := List.append_cancel_left hhost
  cases c
  cases d
  rw [mk.injEq]
  exact ⟨String.toList_inj.1 hhost, hport, String.toList_inj.1 hdb, String.toList_inj.1 huser,
    String.toList_inj.1 hpass, hparams⟩

/-- A connection whose password, host and parameters hold separators of their own. -/
def tangled : Database where
  host := "[::1]"
  port := 3306
  db := "hostdb"
  user := "app"
  pass := "p:w@tcp(x:1)/y?a&b"
  params := ["", "note=a?b:c@d"]

theorem address_determines_tangled :
    tangled.Separable ∧
    tangled.address = "app:p:w@tcp(x:1)/y?a&b@tcp([::1]:3306)/hostdb?&note=a?b:c@d" ∧
    ∀ d : Database, d.Separable → d.address = tangled.address → d = tangled := by
  have htangled : tangled.Separable := by
    constructor
    · decide
    · decide
    · decide
    · decide
  refine ⟨htangled, by decide +kernel, ?_⟩
  intro d hd h
  exact address_determines hd htangled h

end Inventory.Settings.Database
