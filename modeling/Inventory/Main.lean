import Inventory.Client.Wire
import Inventory.Command.Run
import Std.Async.DNS
import Std.Async.TCP

/-!
# The program

The outer layer of the command line: it looks up what the arguments name on the disk, lets the
library decide, and carries out what was decided.
-/

namespace Inventory.Main

open Inventory.Client (Request Reply)
open Inventory.Command (Run)
open Inventory.Files (Disk Entry Path Place Step)

/-! ## The disk -/

/-- A place as a path from the root. -/
def pathText (place : Place) : String := "/" ++ "/".intercalate place

/-- What is at a place of the disk. -/
def look (place : Place) : IO (Option Entry) := do
  match ← (IO.FS.readBinFile (pathText place)).toBaseIO with
  | .ok bytes => return some (.file bytes)
  | .error (.noFileOrDirectory ..) => return none
  | .error (.inappropriateType ..) => return some .folder
  | .error _ => return none

/-- The places that a path leads through. -/
def through (home : Place) (path : Path) : List Place :=
  let start := if path.rooted then [] else home
  (path.steps.foldl
    (fun (found, place) step =>
      let next := match step with
        | Step.up => place.dropLast
        | Step.name n => place ++ [n]
      (next :: found, next))
    ([start], start)).1

/-- The disk as far as some paths lead through it. -/
def snapshot (paths : List String) : IO Disk := do
  let home := (Path.parse (← IO.currentDir).toString).steps.filterMap fun
    | .up => none
    | .name n => some n
  let mut disk : Disk := { entries := [(home, .folder)], home }
  for place in (paths.map Path.parse).flatMap (through home) do
    for n in List.range place.length do
      let part := place.take (n + 1)
      if (disk.get? part).isNone then
        if let some entry ← look part then
          disk := disk.put part entry
  return disk

/-- Makes the folders and files that are new on a disk. -/
def update (before after : Disk) : IO Unit := do
  for (place, entry) in after.entries do
    match before.get? place, entry with
    | none, .folder => IO.FS.createDir (pathText place)
    | some (.file old), .file new =>
      if old.data != new.data then IO.FS.writeBinFile (pathText place) new
    | _, .file new => IO.FS.writeBinFile (pathText place) new
    | some _, .folder => pure ()

/-- The paths that an order names. -/
def pathsOf (order : Command.Order) : List String :=
  match order.task with
  | .condition input _ => [input]
  | .save input out => input :: out.toList
  | .send input .. => [input]

/-! ## The store -/

/-- The addresses of a host. -/
def addressesOf (host : Url.Host) (port : UInt16) :
    Std.Async.Async (List Std.Net.SocketAddress) := do
  let name := match host with
    | .ipv6 words => Client.joinNumbers 16 ":" words
    | host => Client.hostText host
  let found ← Std.Async.DNS.getAddrInfo name ""
  return found.toList.map fun
    | .v4 address => .v4 ⟨address, port⟩
    | .v6 address => .v6 ⟨address, port⟩

/-- Everything that comes over a connection until it is closed. -/
partial def receive (socket : Std.Async.TCP.Socket.Client) (sofar : ByteArray) :
    Std.Async.Async ByteArray := do
  match ← socket.recv? 65536 with
  | none => return sofar
  | some bytes => receive socket (sofar ++ bytes)

/-- Sends a request and waits for the reply. Only plain connections can be made. -/
def fetch (request : Request) : IO (Option Reply) := do
  let some host := request.url.host | return none
  if request.url.scheme ≠ "http" then return none
  let exchange : Std.Async.Async (Option Reply) := do
    let port := UInt16.ofNat (Client.portOf request.url)
    let some address := (← addressesOf host port).head? | return none
    let socket ← Std.Async.TCP.Socket.Client.mk
    socket.connect address
    socket.send ⟨request.bytes.toArray⟩
    return Reply.ofBytes? (← receive socket .empty).toList
  match ← exchange.block.toBaseIO with
  | .ok reply => return reply
  | .error _ => return none

/-! ## The program -/

/-- The environment as far as the program looks at it. -/
def environment : IO (List (String × String)) := do
  let (address, user, pass) := Client.Account.settingNames
  [address, user, pass].filterMapM fun name => do
    return (← IO.getEnv name).map fun value => (name, value)

/-- Reports events; those of no weight only if they are wanted. -/
def report (verbose : Bool) (events : List Event) : IO Unit := do
  for e in events do
    if verbose || e.level ≠ .debug then
      IO.eprintln (" ".intercalate
        (e.level.name :: e.message :: e.fields.map fun (name, value) => name ++ "=" ++ value))

/-- Runs the program and carries out what it decided. -/
def start (arguments : List String) : IO UInt32 := do
  let env ← environment
  let order := Command.read env false arguments
  let disk ← snapshot ((order.toOption.map pathsOf).getD [])
  let draft := Command.run env disk (fun _ => none) arguments
  let reply ← match draft.request with
    | none => pure none
    | some request => fetch request
  let run := Command.run env disk (fun _ => reply) arguments
  update disk run.disk
  report ((order.toOption.map (·.verbose)).getD false) run.events
  IO.print run.shown
  if let some complaint := run.complaint then IO.eprintln complaint
  return run.code.toUInt32

end Inventory.Main

/-- Runs the program. -/
def main (arguments : List String) : IO UInt32 := Inventory.Main.start arguments
