import Inventory.Text.Mark
import Inventory.Text.Split
import Inventory.Url.Domain.Excluded
import Inventory.Url.Domain.Punycode
import Inventory.Url.Domain.Spelling

/-!
# Domains

A domain is a row of labels with points between them. ASCII capitals are made small and characters
that stand for ASCII characters are spelled with them; all others are kept in the form they are
in. The rules for international domains ask for more, and this is where they are left: nothing is
asked of text that runs from right to left, a joiner is taken only behind a mark that takes a
vowel and never between letters that join, and a label that begins with `xn--` has to stand for a
plain label but need not be the one way to write it. So some names outside ASCII are taken or
refused against the rules in full; names in ASCII without such a label are not touched by this.
Main statement: `letters?_of_ascii`.
-/

namespace Inventory.Url.Domain

open Inventory.Text (split isMark isVowelKiller)

/-- ASCII characters that stand in no domain. -/
def isForbidden (c : Char) : Bool :=
  c.toNat ≤ 0x20 || c.toNat == 0x7f
    || ['%', '#', '/', ':', '<', '>', '?', '@', '[', '\\', ']', '^', '|'].contains c

/-- How one character is spelled in a name, if it may stand there. -/
def letters? (c : Char) : Option (List Char) :=
  if c.toNat < 0x80 then some [c.toLower]
  else if isExcluded c then none
  else if isSilent c then some []
  else some ((spelling? c).getD [c])

/-- A label that begins with `xn--` stands for one with characters outside ASCII, all of which are
in their plain form. -/
def isPlainLabel (label : List Char) : Bool :=
  label.any (fun c => 0x80 ≤ c.toNat)
    && label.all fun c =>
      if c.toNat < 0x80 then !c.isUpper && !isForbidden c
      else !isExcluded c && !isSilent c && (spelling? c).isNone

/-- A joiner without form stands only behind a mark that takes a vowel; `before` is the character
in front. -/
def isWellJoined (before : Option Char) : List Char → Bool
  | [] => true
  | c :: rest =>
    (!(c == '\u200c' || c == '\u200d') || before.any isVowelKiller) && isWellJoined (some c) rest

/-- A label does not begin with a mark, and its joiners are in place. -/
def isWellFormed (label : List Char) : Bool :=
  !(label.head?.any isMark) && isWellJoined none label

/-- A label is well formed; one in ASCII form stands for a plain label that is. -/
def isLabel (label : List Char) : Bool :=
  match label with
  | 'x' :: 'n' :: '-' :: '-' :: form =>
    (Punycode.decode? form).any fun plain => isPlainLabel plain && isWellFormed plain
  | _ => isWellFormed label

/-- The name of a domain, if the text is one. -/
def name? (cs : List Char) : Option (List Char) :=
  match cs.mapM letters? with
  | none => none
  | some spelled =>
    let name := spelled.flatten
    if name.any isForbidden then none
    else if (split (· == '.') name).all isLabel then some name
    else none

/-- ASCII letters are made small. -/
theorem letters?_of_ascii {c : Char} (h : c.toNat < 0x80) : letters? c = some [c.toLower] := by
  simp [letters?, h]

end Inventory.Url.Domain
