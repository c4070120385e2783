import Inventory.Fault
import Inventory.Url.Basic

/-!
# Accounts

Where the store is and as whom to talk to it; what is not given has a default. Main statement:
`check_eq_ok_iff` (an account is good exactly when its address is a URL).
-/

namespace Inventory.Client

/-- Where the store is and as whom to talk to it. -/
structure Account where
  /-- The address of the interface, with its version. -/
  address : String := "https://hostdb.pdxfixit.com/v0"
  user : String := "writer"
  /-- Nothing is written without a password. -/
  pass : String := ""
  deriving DecidableEq, Inhabited

namespace Account

/-- An account, an empty address or user standing for the default. -/
def ofTexts (address user pass : String) : Account where
  address := if address.isEmpty then ({} : Account).address else address
  user := if user.isEmpty then ({} : Account).user else user
  pass

/-- The names under which an environment gives address, user and password. -/
def settingNames : String × String × String := ("HOSTDB_URL", "HOSTDB_USER", "HOSTDB_PASS")

/-- The account that an environment gives; what it does not set is empty. -/
def ofEnvironment (env : List (String × String)) : Account :=
  let get := fun name => (env.lookup name).getD ""
  let (address, user, pass) := settingNames
  ofTexts (get address) (get user) (get pass)

/-- There is a password. -/
def hasPassword (a : Account) : Bool := !a.pass.isEmpty

/-- The account, if its address is a URL. -/
def check (a : Account) : Except Fault Account :=
  match Url.parse a.address with
  | none => .error (.address a.address)
  | some _ => .ok a

/-- The address of a path of the interface: slashes at the end of the interface's own address do
not count. -/
def endpoint (a : Account) (path : String) : String :=
  String.ofList ((a.address.toList.reverse.dropWhile (· = '/')).reverse ++ path.toList)

/-- An account is good exactly when its address is a URL. -/
theorem check_eq_ok_iff {a b : Account} :
    a.check = .ok b ↔ a = b ∧ (Url.parse a.address).isSome = true := by
  unfold check
  split
  · next h => simp [h]
  · next h => simp [h]

end Account

end Inventory.Client
