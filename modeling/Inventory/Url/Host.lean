import Inventory.Text.Utf8
import Inventory.Url.Address
import Inventory.Url.Domain.Basic
import Inventory.Url.Percent

/-!
# Hosts

A host of the web is a domain or an address by number; a host of any other scheme is a text of
its own.
-/

namespace Inventory.Url

/-- Where something is to be found. -/
inductive Host where
  | domain (name : String)
  /-- The address of four bytes, as one number. -/
  | ipv4 (address : Nat)
  /-- The address of eight words. -/
  | ipv6 (words : List Nat)
  /-- A text that only its scheme understands. -/
  | verbatim (text : String)
  deriving DecidableEq

namespace Host

open Inventory.Text (split)

/-- The address that a text after an opening bracket spells up to the closing one. -/
def inBrackets? (cs : List Char) : Option Host :=
  match cs.reverse with
  | ']' :: inner => (Address.ipv6? inner.reverse).map .ipv6
  | _ => none

/-- The host that a name spells: an address if its last label is a number, otherwise a domain. -/
def ofName? (name : List Char) : Option Host :=
  let labels := split (· == '.') name
  if name = [] then none
  else if Address.endsInNumber labels then (Address.ipv4? labels).map .ipv4
  else some (.domain (String.ofList name))

/-- A host of the web. -/
def ofWeb? : List Char → Option Host
  | '[' :: rest => inBrackets? rest
  | cs =>
    match Text.decode? ⟨(Percent.bytes cs).toArray⟩ with
    | none => none
    | some decoded => (Domain.name? decoded.toList).bind ofName?

/-- The characters that no host holds. -/
def isForbidden (c : Char) : Bool :=
  ['\x00', '\t', '\n', '\r', ' ', '#', '/', ':', '<', '>', '?', '@', '[', '\\', ']', '^',
    '|'].contains c

/-- A host of any other scheme. -/
def ofOther? : List Char → Option Host
  | '[' :: rest => inBrackets? rest
  | cs =>
    if cs.any isForbidden then none
    else some (.verbatim (String.ofList (Percent.escape Percent.isForeign cs)))

end Host

end Inventory.Url
