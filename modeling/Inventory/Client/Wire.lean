import Inventory.Client.Exchange

/-!
# Messages

Requests and replies as bytes on a connection that serves one exchange and is closed after it: a
head of lines, an empty line, and the body up to the end. Bytes without an empty line are no
reply.
-/

namespace Inventory.Client

/-- Some numbers in a row with a sign between them. -/
def joinNumbers (base : Nat) (sign : String) (numbers : List Nat) : String :=
  sign.intercalate (numbers.map fun n => String.ofList (Nat.toDigits base n))

/-- The four bytes of an address. -/
def bytesOfAddress (address : Nat) : List Nat :=
  [address / 16777216 % 256, address / 65536 % 256, address / 256 % 256, address % 256]

/-- A host as it stands in a message. -/
def hostText : Url.Host → String
  | .domain name => name
  | .ipv4 address => joinNumbers 10 "." (bytesOfAddress address)
  | .ipv6 words => "[" ++ joinNumbers 16 ":" words ++ "]"
  | .verbatim text => text

/-- The port that a URL leads to. -/
def portOf (url : Url) : Nat := (url.port.or (Url.impliedPort? url.scheme)).getD 0

/-- The end of a line. -/
def lineEnd : List UInt8 := [13, 10]

/-- A named line of a head. -/
def headLine (name : String) (value : Option String) : List String :=
  match value with
  | none => []
  | some v => [name ++ ": " ++ v]

/-- The lines before the body of a request. -/
def Request.head (r : Request) : List String :=
  (r.method.name ++ " " ++ r.url.target ++ " HTTP/1.0")
    :: (headLine "Host" (r.url.host.map fun h =>
          hostText h ++ ":" ++ String.ofList (Nat.toDigits 10 (portOf r.url)))
      ++ headLine "Authorization" r.authorization
      ++ headLine "Content-Type" r.contentType
      ++ headLine "Content-Length" (r.document.map fun d =>
          String.ofList (Nat.toDigits 10 d.utf8ByteSize)))

/-- The bytes of a request. -/
def Request.bytes (r : Request) : List UInt8 :=
  r.head.flatMap (fun line => line.toUTF8.toList ++ lineEnd) ++ lineEnd
    ++ (r.document.getD "").toUTF8.toList

/-- The bytes before and after the first empty line. -/
def splitHead : List UInt8 → Option (List UInt8 × List UInt8)
  | [] => none
  | b :: rest =>
    match rest with
    | 10 :: 13 :: 10 :: body =>
      if b = 13 then some ([], body) else (splitHead rest).map fun p => (b :: p.1, p.2)
    | _ => (splitHead rest).map fun p => (b :: p.1, p.2)

/-- The number in the second word of a line, which is the status of a reply. -/
def statusOf? (head : List UInt8) : Option Nat :=
  match Text.split (· == ' ') (Text.Utf8.decodeLossy (head.takeWhile (· ≠ 13))) with
  | _ :: word :: _ =>
    if word ≠ [] ∧ word.all Char.isDigit then
      some (word.foldl (fun n c => n * 10 + (c.toNat - 48)) 0)
    else none
  | _ => none

/-- The reply that bytes make up, if its head is whole. -/
def Reply.ofBytes? (bytes : List UInt8) : Option Reply :=
  match splitHead bytes with
  | none => none
  | some (head, body) =>
    (statusOf? head).map fun status => { status, body := ⟨body.toArray⟩ }

end Inventory.Client
