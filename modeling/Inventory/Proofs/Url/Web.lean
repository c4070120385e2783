import Inventory.Proofs.Text.Split
import Inventory.Proofs.Url.Host

/-!
# How URLs of the web are spelled

A clean text that spells a URL of the web is a scheme, a colon, slashes, a part that names the host
and the rest. The host, the port and whether there is a URL at all depend on the scheme and that
part only, the path and the query on the rest only. So a URL whose bare text is given a path is on
the host where the URL itself is. Main statements: `Spelled.parse_eq`, `Spelled.exists_of_parse` and
`exists_joins`.
-/

namespace Inventory.Url

open Inventory.Text (runs_append)

/-! ## The part that names the host -/

/-- What names the host and its port is the end of the whole. -/
theorem splitAt_suffix (cs : List Char) : (splitAt cs).2 <:+ cs := by
  unfold splitAt
  split
  · exact List.suffix_refl _
  · rw [← List.reverse_prefix, List.reverse_reverse]
    exact List.takeWhile_prefix _

/-- It ends in what the whole ends in, if that is no at sign. -/
theorem splitAt_concat {c : Char} (hc : c ≠ '@') (cs : List Char) :
    ∃ named, (splitAt (cs ++ [c])).2 = named ++ [c] := by
  unfold splitAt
  split
  · exact ⟨cs, rfl⟩
  · refine ⟨(cs.reverse.takeWhile (· ≠ '@')).reverse, ?_⟩
    rw [List.reverse_append, List.reverse_singleton, List.singleton_append,
      List.takeWhile_cons_of_pos (by simpa using hc), List.reverse_cons]

/-- A host and its port make the whole, and a port begins with a colon. -/
theorem splitHost_append (inside : Bool) (cs : List Char) :
    (splitHost inside cs).1 ++ (splitHost inside cs).2 = cs ∧
      ((splitHost inside cs).2 = [] ∨ ∃ rest, (splitHost inside cs).2 = ':' :: rest) := by
  induction cs generalizing inside with
  | nil => exact ⟨rfl, .inl rfl⟩
  | cons c cs ih =>
    unfold splitHost
    split
    · next h =>
      obtain ⟨rfl, -⟩ := h
      exact ⟨rfl, .inr ⟨cs, rfl⟩⟩
    · obtain ⟨happend, hport⟩ := ih (if c = '[' then true else if c = ']' then false else inside)
      exact ⟨congrArg (c :: ·) happend, hport⟩

/-- Only a backslash ends the digits of a port. -/
theorem isDigit_of_splitPort {scheme : String} {cs after : List Char} {port : Option Nat}
    (h : splitPort scheme (':' :: cs) = some (port, after)) (hcs : '\\' ∉ cs) :
    after = [] ∧ ∀ c ∈ cs, c.isDigit = true := by
  have h : (if _ then some (_, cs.dropWhile Char.isDigit) else none) = some (port, after) := h
  split at h
  · next hport =>
    obtain ⟨-, rfl⟩ := Prod.mk.inj (Option.some.inj h)
    rcases hport.2 with hnil | hhead
    · exact ⟨hnil, List.dropWhile_eq_nil_iff.1 hnil⟩
    · exact absurd ((List.dropWhile_sublist _).subset (List.mem_of_head? hhead)) hcs
  · contradiction

/-- No control and no blank ends the part that names the host. -/
theorem endsHost_of_isEdge {c : Char} (hc : isEdge c = true) : Kind.web.endsHost c = false := by
  have hne : ∀ d : Char, 0x20 < d.toNat → (c == d) = false := fun d hd => by
    rw [beq_eq_false_iff_ne]
    exact ne_of_isEdge hc hd
  rw [Kind.endsHost, Kind.isSlash, hne '/' (by decide), hne '\\' (by decide), hne '?' (by decide),
    hne '#' (by decide)]
  · rfl
  · exact Kind.noConfusion

section
variable {scheme : String} {authority : List Char}
  (hauthority : ∀ c ∈ authority, Kind.web.endsHost c = false)
include hauthority

theorem runs_authority {more : List Char} (hmore : ∀ c ∈ more.head?, Kind.web.endsHost c = true) :
    (authority ++ more).takeWhile (!Kind.web.endsHost ·) = authority ∧
      (authority ++ more).dropWhile (!Kind.web.endsHost ·) = more :=
  runs_append (fun c hc => by rw [hauthority c hc]; rfl) (fun c hc => by rw [hmore c hc]; rfl)

theorem runs_self :
    authority.takeWhile (!Kind.web.endsHost ·) = authority ∧
      authority.dropWhile (!Kind.web.endsHost ·) = [] := by
  have hnil : ∀ c ∈ ([] : List Char).head?, Kind.web.endsHost c = true := fun c hc =>
    absurd hc (Option.not_mem_none c)
  have hruns := runs_authority hauthority hnil
  rw [List.append_nil] at hruns
  exact hruns

/-- The port in it has nothing but digits. -/
theorem isDigit_of_port {cs after : List Char} {port : Option Nat}
    (hport : (splitHost false (splitAt authority).2).2 = ':' :: cs)
    (h : splitPort scheme (':' :: cs) = some (port, after)) :
    after = [] ∧ ∀ c ∈ cs, c.isDigit = true := by
  refine isDigit_of_splitPort h fun hslash => ?_
  have hmem : '\\' ∈ (splitAt authority).2 := by
    rw [← (splitHost_append false (splitAt authority).2).1, hport]
    exact List.mem_append_right _ (List.mem_cons_of_mem _ hslash)
  exact absurd (hauthority _ ((splitAt_suffix authority).subset hmem)) (by decide)

/-- The host and the port do not depend on what follows them. -/
theorem ofAuthority_append {more : List Char}
    (hmore : ∀ c ∈ more.head?, Kind.web.endsHost c = true) :
    ofAuthority .web scheme (authority ++ more)
      = (ofAuthority .web scheme authority).map fun u =>
          onHost .web scheme u.host u.port more := by
  obtain ⟨htake, hdrop⟩ := runs_authority hauthority hmore
  obtain ⟨htake', hdrop'⟩ := runs_self hauthority
  unfold ofAuthority
  rw [htake, hdrop, htake', hdrop']
  dsimp only
  have hmiss : ∀ credentials port more, mayMissHost .web credentials port more = false :=
    fun _ _ _ => rfl
  rw [hmiss, hmiss, if_neg Bool.false_ne_true, if_pos rfl]
  split
  · rfl
  · split
    · next host port after hhost hport =>
      have hafter : after = [] := by
        rcases (splitHost_append false (splitAt authority).2).2 with hnil | ⟨rest, hrest⟩
        · rw [hnil] at hport
          exact (Prod.mk.inj (Option.some.inj hport)).2.symm
        · rw [hrest] at hport
          exact (isDigit_of_port hauthority hrest hport).1
      rw [hafter]
      rfl
    · rfl

/-- A host and a port do not end in a control or a blank. -/
theorem ofAuthority_eq_none {c : Char} {before : List Char} (hc : isEdge c = true)
    (hends : authority = before ++ [c]) : ofAuthority .web scheme authority = none := by
  obtain ⟨htake, hdrop⟩ := runs_self hauthority
  obtain ⟨named, hnamed⟩ := splitAt_concat (ne_of_isEdge hc (by decide)) before
  rw [← hends] at hnamed
  obtain ⟨happend, hport⟩ := splitHost_append false (named ++ [c])
  have hmiss : ∀ credentials port, mayMissHost .web credentials port [] = false := fun _ _ => rfl
  unfold ofAuthority
  rw [htake, hdrop]
  dsimp only
  rw [hmiss, if_neg Bool.false_ne_true, if_pos rfl, hnamed]
  split
  · rfl
  rcases hport with hport | ⟨rest, hport⟩
  · -- Without a port the host ends in the character.
    rw [hport, List.append_nil] at happend
    rw [happend, Host.ofWeb?_eq_none hc]
  · -- Otherwise the port does, which has nothing but digits.
    rw [hport] at happend
    have hmem : c ∈ ':' :: rest := by
      have hsuffix : [c] <:+ ':' :: rest := by
        refine List.suffix_of_suffix_length_le (List.suffix_append named [c]) ?_
          (Nat.le_add_left ..)
        exact ⟨_, happend⟩
      exact hsuffix.subset (List.mem_singleton_self c)
    have hnone : splitPort scheme (':' :: rest) = none := by
      cases h : splitPort scheme (':' :: rest) with
      | none => rfl
      | some p =>
        have hdigit := (isDigit_of_port hauthority (by rw [hnamed, hport]) h).2
        rcases List.mem_cons.1 hmem with hcolon | hrest
        · exact absurd hcolon (ne_of_isEdge hc (by decide))
        · have hle := le_of_isEdge hc
          have hlow : 48 ≤ c.toNat := by
            have hrange := hdigit c hrest
            rw [Char.isDigit, Bool.and_eq_true, decide_eq_true_eq] at hrange
            exact hrange.1
          omega
    rw [hport, hnone]
    split
    · contradiction
    · rfl

end

/-! ## Schemes -/

/-- A run of characters that can stand in front of a colon as a scheme. -/
structure IsScheme (scheme : List Char) : Prop where
  isAlpha_of_head : scheme.head?.any Char.isAlpha = true
  isSchemeChar_of_mem : ∀ c ∈ scheme, isSchemeChar c = true

/-- The name of a scheme as it is spelled. -/
def nameOf (scheme : List Char) : String := String.ofList (scheme.map Char.toLower)

theorem splitScheme_append {scheme : List Char} (h : IsScheme scheme) (rest : List Char) :
    splitScheme (scheme ++ ':' :: rest) = some (nameOf scheme, rest) := by
  have hcolon : ∀ c ∈ (':' :: rest).head?, isSchemeChar c = false := fun c hc => by
    rw [← Option.some.inj hc]
    rfl
  obtain ⟨htake, hdrop⟩ := runs_append h.isSchemeChar_of_mem hcolon
  have hhead : (scheme ++ ':' :: rest).head?.any Char.isAlpha = true := by
    have hscheme := h.isAlpha_of_head
    cases scheme with
    | nil => contradiction
    | cons c cs => exact hscheme
  unfold splitScheme
  rw [hdrop, htake]
  exact if_pos hhead

theorem exists_of_splitScheme {cs rest : List Char} {name : String}
    (h : splitScheme cs = some (name, rest)) :
    ∃ scheme, IsScheme scheme ∧ name = nameOf scheme ∧ cs = scheme ++ ':' :: rest := by
  unfold splitScheme at h
  split at h
  · next hdrop =>
    split at h
    · next hhead =>
      obtain ⟨rfl, rfl⟩ := Prod.mk.inj (Option.some.inj h)
      have happend : cs.takeWhile isSchemeChar ++ cs.dropWhile isSchemeChar = cs :=
        List.takeWhile_append_dropWhile
      rw [hdrop] at happend
      refine ⟨cs.takeWhile isSchemeChar, ⟨?_, fun c hc => List.mem_takeWhile_imp hc⟩, rfl,
        happend.symm⟩
      cases cs with
      | nil => contradiction
      | cons c cs =>
        have halpha : c.isAlpha = true := hhead
        have hc : isSchemeChar c = true := by
          rw [isSchemeChar, Char.isAlphanum, halpha]
          rfl
        rw [List.takeWhile_cons_of_pos hc]
        exact halpha
    · contradiction
  · contradiction

theorem scheme_of_ofAuthority {kind : Kind} {scheme : String} {cs : List Char} {u : Url}
    (h : ofAuthority kind scheme cs = some u) : u.scheme = scheme := by
  unfold ofAuthority at h
  dsimp only at h
  split at h
  · split at h
    · rw [← Option.some.inj h]
      rfl
    · contradiction
  · split at h
    · rw [← Option.some.inj h]
      rfl
    · contradiction

theorem scheme_of_ofFile {cs : List Char} {u : Url} (h : ofFile cs = some u) :
    u.scheme = "file" := by
  unfold ofFile at h
  split at h
  · dsimp only at h
    split at h
    · obtain ⟨host, -, rfl⟩ := Option.map_eq_some_iff.1 h
      rfl
    · split at h <;>
      · rw [← Option.some.inj h]
        rfl
  · rw [← Option.some.inj h]
    rfl

theorem scheme_of_ofOther {scheme : String} {cs : List Char} {u : Url}
    (h : ofOther scheme cs = some u) : u.scheme = scheme := by
  unfold ofOther at h
  split at h
  · exact scheme_of_ofAuthority h
  · rw [← Option.some.inj h]
    rfl
  · rw [← Option.some.inj h]

theorem scheme_of_kind {scheme : String} (h : Kind.ofScheme scheme = .file) : scheme = "file" := by
  unfold Kind.ofScheme at h
  split at h
  · contradiction
  · split at h
    · assumption
    · contradiction

/-- A URL has the scheme that its text begins with. -/
theorem splitScheme_of_parse {text : String} {u : Url} (h : parse text = some u) :
    ∃ rest, splitScheme (clean text.toList) = some (u.scheme, rest) := by
  unfold parse at h
  split at h
  · contradiction
  · next scheme rest hscheme =>
    refine ⟨rest, ?_⟩
    have hu : u.scheme = scheme := by
      split at h
      · exact scheme_of_ofAuthority h
      · next hfile => rw [scheme_of_kind hfile, scheme_of_ofFile h]
      · exact scheme_of_ofOther h
    rw [hscheme, hu]

/-! ## The whole text -/

/-- The parts of a clean text that spells a URL of the web. -/
structure Spelled where
  scheme : List Char
  slashes : List Char
  authority : List Char
  more : List Char
  isScheme : IsScheme scheme
  isSlash_of_mem : ∀ c ∈ slashes, Kind.web.isSlash c = true
  endsHost_of_mem : ∀ c ∈ authority, Kind.web.endsHost c = false
  authority_ne_nil : authority ≠ []
  endsHost_of_head : ∀ c ∈ more.head?, Kind.web.endsHost c = true

namespace Spelled

/-- The text itself. -/
def text (s : Spelled) : List Char := s.scheme ++ ':' :: (s.slashes ++ (s.authority ++ s.more))

theorem dropWhile_slashes (s : Spelled) :
    (s.slashes ++ (s.authority ++ s.more)).dropWhile Kind.web.isSlash = s.authority ++ s.more := by
  refine (runs_append s.isSlash_of_mem fun c hc => ?_).2
  obtain ⟨d, ds, hd⟩ := List.exists_cons_of_ne_nil s.authority_ne_nil
  rw [hd] at hc
  obtain rfl : d = c := Option.some.inj hc
  have hends := s.endsHost_of_mem d (by rw [hd]; exact List.mem_cons_self ..)
  rw [Kind.endsHost, Bool.or_eq_false_iff, Bool.or_eq_false_iff] at hends
  exact hends.1.1

/-- There is a URL if the part that names the host names one. -/
theorem parse_eq {s : Spelled} {cs : String} (h : clean cs.toList = s.text)
    (hweb : Kind.ofScheme (nameOf s.scheme) = .web) :
    parse cs = (ofAuthority .web (nameOf s.scheme) s.authority).map fun u =>
      onHost .web (nameOf s.scheme) u.host u.port s.more := by
  rw [← ofAuthority_append s.endsHost_of_mem s.endsHost_of_head, ← dropWhile_slashes, parse, h,
    text, splitScheme_append s.isScheme]
  dsimp only
  rw [hweb]

/-- A text that spells a URL of the web has these parts. -/
theorem exists_of_parse {cs : String} {u : Url} (h : parse cs = some u)
    (hweb : Kind.ofScheme u.scheme = .web) :
    ∃ s : Spelled, clean cs.toList = s.text ∧ nameOf s.scheme = u.scheme := by
  obtain ⟨rest, hsplit⟩ := splitScheme_of_parse h
  obtain ⟨scheme, hscheme, hname, hcs⟩ := exists_of_splitScheme hsplit
  have hauthority : (rest.dropWhile Kind.web.isSlash).takeWhile (!Kind.web.endsHost ·) ≠ [] := by
    intro hnil
    have hnone : ofAuthority .web u.scheme (rest.dropWhile Kind.web.isSlash) = none := by
      unfold ofAuthority
      rw [hnil]
      rfl
    rw [parse, hsplit] at h
    dsimp only at h
    rw [hweb] at h
    dsimp only at h
    rw [hnone] at h
    contradiction
  refine ⟨
    { scheme
      slashes := rest.takeWhile Kind.web.isSlash
      authority := (rest.dropWhile Kind.web.isSlash).takeWhile (!Kind.web.endsHost ·)
      more := (rest.dropWhile Kind.web.isSlash).dropWhile (!Kind.web.endsHost ·)
      isScheme := hscheme
      isSlash_of_mem := fun c hc => List.mem_takeWhile_imp hc
      endsHost_of_mem := fun c hc => by simpa using List.mem_takeWhile_imp hc
      authority_ne_nil := hauthority
      endsHost_of_head := fun c hc => by simpa using Text.head?_dropWhile c hc }, ?_, hname.symm⟩
  rw [hcs, text, List.takeWhile_append_dropWhile, List.takeWhile_append_dropWhile]

/-- The parts with more behind what names the host, and with another rest. -/
def goingOn (s : Spelled) {extra more : List Char}
    (hextra : ∀ c ∈ extra, Kind.web.endsHost c = false)
    (hmore : ∀ c ∈ more.head?, Kind.web.endsHost c = true) : Spelled :=
  { s with
    authority := s.authority ++ extra
    more
    endsHost_of_mem := fun c hc =>
      (List.mem_append.1 hc).elim (s.endsHost_of_mem c) (hextra c)
    authority_ne_nil := fun hnil => s.authority_ne_nil (List.append_eq_nil_iff.1 hnil).1
    endsHost_of_head := hmore }

theorem parse_goingOn {s : Spelled} {extra more : List Char} {cs : String}
    (hextra : ∀ c ∈ extra, Kind.web.endsHost c = false)
    (hmore : ∀ c ∈ more.head?, Kind.web.endsHost c = true)
    (h : clean cs.toList = s.scheme ++ ':' :: (s.slashes ++ (s.authority ++ (extra ++ more))))
    (hweb : Kind.ofScheme (nameOf s.scheme) = .web) :
    parse cs = (ofAuthority .web (nameOf s.scheme) (s.authority ++ extra)).map fun u =>
      onHost .web (nameOf s.scheme) u.host u.port more := by
  have htext : clean cs.toList = (s.goingOn hextra hmore).text := by
    rw [h, ← List.append_assoc s.authority]
    rfl
  exact parse_eq htext hweb

/-- There is none if a control or a blank stands behind what names the host. -/
theorem parse_eq_none {s : Spelled} {extra after : List Char} {cs : String} (hne : extra ≠ [])
    (hedges : ∀ c ∈ extra, isEdge c = true)
    (h : clean cs.toList
      = s.scheme ++ ':' :: (s.slashes ++ (s.authority ++ (extra ++ '/' :: after))))
    (hweb : Kind.ofScheme (nameOf s.scheme) = .web) : parse cs = none := by
  have hextra : ∀ c ∈ extra, Kind.web.endsHost c = false := fun c hc =>
    endsHost_of_isEdge (hedges c hc)
  have hauthority : ∀ c ∈ s.authority ++ extra, Kind.web.endsHost c = false := fun c hc =>
    (List.mem_append.1 hc).elim (s.endsHost_of_mem c) (hextra c)
  have hslash : ∀ c ∈ ('/' :: after).head?, Kind.web.endsHost c = true := fun c hc => by
    rw [← Option.some.inj hc]
    rfl
  obtain ⟨edges, e, hend⟩ := (List.eq_nil_or_concat extra).resolve_left hne
  rw [List.concat_eq_append] at hend
  have he : isEdge e = true := hedges e (by rw [hend]; simp)
  have hlast : s.authority ++ extra = (s.authority ++ edges) ++ [e] := by
    rw [hend, List.append_assoc]
  rw [parse_goingOn hextra hslash h hweb, ofAuthority_eq_none hauthority he hlast]
  rfl

/-- A hash stands nowhere but in the rest. -/
theorem hash_mem_text (s : Spelled) : '#' ∈ s.text ↔ '#' ∈ s.more := by
  constructor
  · intro h
    rw [text, List.mem_append, List.mem_cons, List.mem_append, List.mem_append] at h
    rcases h with hscheme | hcolon | hslashes | hauthority | hmore
    · exact absurd (s.isScheme.isSchemeChar_of_mem _ hscheme) (by decide)
    · exact absurd hcolon (by decide)
    · exact absurd (s.isSlash_of_mem _ hslashes) (by decide)
    · exact absurd (s.endsHost_of_mem _ hauthority) (by decide)
    · exact hmore
  · intro h
    rw [text, List.mem_append, List.mem_cons, List.mem_append, List.mem_append]
    exact .inr (.inr (.inr (.inr h)))

end Spelled

/-! ## Text put behind a URL -/

/-- The scheme stays when text is put behind a URL, after a slash. -/
theorem scheme_of_parse_joined {text : String} {u v : Url} (h : parse text = some u)
    {after : List Char} (hv : parse (joined text after) = some v) :
    v.scheme = u.scheme := by
  obtain ⟨rest, hsplit⟩ := splitScheme_of_parse h
  obtain ⟨scheme, hscheme, hname, hclean⟩ := exists_of_splitScheme hsplit
  obtain ⟨rest', hsplit'⟩ := splitScheme_of_parse hv
  have hcolon : ':' ∈ text.toList := by
    rw [← mem_clean (by decide), hclean]
    exact List.mem_append_right _ (List.mem_cons_self ..)
  obtain ⟨bared, -, hjoined⟩ := clean_joined hclean (by decide) ⟨':', hcolon, by decide, by decide⟩
  rw [joined, String.toList_ofList, hjoined, splitScheme_append hscheme] at hsplit'
  rw [hname]
  exact (Prod.mk.inj (Option.some.inj hsplit')).1.symm

/-- The bare text goes on after the host as the text does, or with nothing but what was cut off. -/
theorem Bares.isEdge_of_head {cs more bared : List Char} (h : Bares cs more bared)
    (hmore : ∀ c ∈ more.head?, Kind.web.endsHost c = true)
    (hbared : ¬bared.head?.all Kind.web.endsHost = true) :
    bared ≠ [] ∧ ∀ d ∈ bared, isEdge d = true := by
  obtain ⟨k, edges, hends, hedges, -⟩ := h.ends
  cases bared with
  | nil => exact absurd rfl hbared
  | cons c rest =>
    refine ⟨List.cons_ne_nil _ _, fun d hd => ?_⟩
    cases more with
    | nil =>
      refine hedges d ?_
      rw [List.nil_append] at hends
      rw [← hends]
      exact List.mem_append_left _ hd
    | cons e more =>
      rw [List.cons_append, List.cons_append] at hends
      rw [(List.cons.inj hends).1] at hbared
      exact absurd (hmore e rfl) hbared

/-- Text that is put behind the bare text, after a slash, stands behind what is left of the rest. -/
theorem Spelled.clean_joined {s : Spelled} {text : String} (h : clean text.toList = s.text) :
    ∃ bared, Bares text.toList s.more bared ∧ ∀ after, clean (joined text after).toList
      = s.scheme ++ ':' :: (s.slashes ++ (s.authority ++ (bared ++ '/' :: back after))) := by
  -- The last character before the rest is no slash.
  obtain ⟨before, c, hlast⟩ := (List.eq_nil_or_concat s.authority).resolve_left s.authority_ne_nil
  rw [List.concat_eq_append] at hlast
  have hc : c ≠ '/' := by
    rintro rfl
    exact absurd (s.endsHost_of_mem '/' (by rw [hlast]; simp)) (by decide)
  have hcolon : ':' ∈ text.toList := by
    rw [← mem_clean (by decide), h]
    exact List.mem_append_right _ (List.mem_cons_self ..)
  have hparts : clean text.toList = (s.scheme ++ ':' :: (s.slashes ++ before)) ++ c :: s.more := by
    rw [h, Spelled.text, hlast]
    simp
  obtain ⟨bared, hbares, hjoined⟩ :=
    Url.clean_joined hparts hc ⟨':', hcolon, by decide, by decide⟩
  refine ⟨bared, hbares, fun after => ?_⟩
  rw [joined, String.toList_ofList, hjoined, hlast]
  simp

/-- How a URL of the web goes on after the host, and how it does when text is put behind its bare
text, after a slash. -/
structure Joins (text : String) (u : Url) (more bared : List Char) : Prop where
  eq_onHost : u = onHost .web u.scheme u.host u.port more
  hash_mem : '#' ∈ text.toList ↔ '#' ∈ more
  endsHost_of_head : ∀ c ∈ more.head?, Kind.web.endsHost c = true
  bares : Bares text.toList more bared
  parse_eq : ∀ after, parse (joined text after) =
    if bared.head?.all Kind.web.endsHost then
      some (onHost .web u.scheme u.host u.port (bared ++ '/' :: back after))
    else none

/-- Text that is put behind a URL of the web, after a slash, changes the path and the query. -/
theorem exists_joins {text : String} {u : Url} (h : parse text = some u)
    (hweb : Kind.ofScheme u.scheme = .web) : ∃ more bared, Joins text u more bared := by
  obtain ⟨s, hclean, hname⟩ := Spelled.exists_of_parse h hweb
  rw [← hname] at hweb
  rw [Spelled.parse_eq hclean hweb] at h
  obtain ⟨v, hv, rfl⟩ := Option.map_eq_some_iff.1 h
  obtain ⟨bared, hbares, hgoesOn⟩ := Spelled.clean_joined hclean
  refine ⟨s.more, bared, rfl, ?_, s.endsHost_of_head, hbares, fun after => ?_⟩
  · -- A hash is not cleaned away and stands in the rest.
    rw [← mem_clean (by decide), hclean, Spelled.hash_mem_text]
  split
  · next hhead =>
    have hends : ∀ d ∈ (bared ++ '/' :: back after).head?, Kind.web.endsHost d = true := by
      intro d hd
      cases bared with
      | nil =>
        rw [← Option.some.inj hd]
        rfl
      | cons e rest =>
        rw [← Option.some.inj hd]
        exact hhead
    have hnothing : ∀ d ∈ ([] : List Char), Kind.web.endsHost d = false := fun d hd =>
      absurd hd List.not_mem_nil
    rw [Spelled.parse_goingOn (s := s) hnothing hends (hgoesOn after) hweb, List.append_nil, hv]
    rfl
  · next hhead =>
    -- What was cut off behind the host would now end it.
    obtain ⟨hne, hedges⟩ := hbares.isEdge_of_head s.endsHost_of_head hhead
    exact Spelled.parse_eq_none hne hedges (hgoesOn after) hweb

end Inventory.Url
