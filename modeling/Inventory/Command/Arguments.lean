import Inventory.Client.Account
import Inventory.Predicate.Page

/-!
# Arguments

The arguments of the program name a command and give it a file and options. They are read from
left to right; the first that is out of place, or a request for help, ends the reading. Main
statement: `ofName?_name` (a command is found by its name).
-/

namespace Inventory.Command

open Predicate (Page)

/-- What the program is to do. -/
inductive Task where
  /-- Shows the condition of a filter. -/
  | condition (input : String) (page : Page)
  /-- Saves a batch to disk. -/
  | save (input : String) (out : Option String)
  /-- Sends a batch to the store. -/
  | send (input : String) (query : String) (account : Client.Account)

/-- Why nothing is to be done. -/
inductive Stop where
  /-- Help was asked for. -/
  | help
  /-- The arguments make no sense. -/
  | misuse
  deriving DecidableEq

/-- What the arguments ask for. -/
structure Order where
  task : Task
  /-- Everything that happens is to be reported. -/
  verbose : Bool

/-- The shapes of arguments. -/
inductive Shape where
  /-- Two hyphens: only plain arguments follow. -/
  | divider
  /-- The name of an option, and a value after an equals sign. -/
  | option (name : String) (value : Option String)
  /-- A letter after one hyphen. -/
  | letter (c : Char)
  | plain
  deriving DecidableEq

/-- The shape of an argument. -/
def Shape.of (argument : String) : Shape :=
  match argument.toList with
  | ['-', '-'] => .divider
  | '-' :: '-' :: cs =>
    .option (String.ofList (cs.takeWhile (· ≠ '=')))
      (match cs.dropWhile (· ≠ '=') with
        | [] => none
        | _ :: value => some (String.ofList value))
  | '-' :: c :: _ => .letter c
  | _ => .plain

/-- An option with a value. -/
structure OptionRule where
  name : String
  /-- The values that make sense. -/
  accepts : String → Bool

/-- What a command was given so far. -/
structure Given where
  input : Option String := none
  /-- Options with their values. -/
  options : List (String × String) := []
  verbose : Bool := false

namespace Given

/-- The value of an option. -/
def value? (g : Given) (name : String) : Option String := g.options.lookup name

/-- Takes the file, which has a name and is given once. -/
def takeInput (g : Given) (argument : String) : Except Stop Given :=
  if argument.isEmpty || g.input.isSome then .error .misuse
  else .ok { g with input := some argument }

/-- Takes an option, which is given once and makes sense. -/
def takeOption (g : Given) (rule : OptionRule) (value : String) : Except Stop Given :=
  if (g.value? rule.name).isSome || !rule.accepts value then .error .misuse
  else .ok { g with options := g.options ++ [(rule.name, value)] }

/-- Takes the wish for reports, which is uttered once. -/
def takeVerbose (g : Given) : Except Stop Given :=
  if g.verbose then .error .misuse else .ok { g with verbose := true }

end Given

/-- An argument can be the value of the option before it: it does not look like an option. -/
def canBeValue (argument : String) : Bool := Shape.of argument = .plain

/-- Reads plain arguments. -/
def readPlain : Given → List String → Except Stop Given
  | g, [] => .ok g
  | g, argument :: rest => do readPlain (← g.takeInput argument) rest

/-- Reads the arguments of a command with certain options. -/
def readGiven (rules : List OptionRule) : Given → List String → Except Stop Given
  | g, [] => .ok g
  | g, argument :: rest =>
    match Shape.of argument with
    | .divider => readPlain g rest
    | .letter c => .error (if c = 'h' then .help else .misuse)
    | .plain => do readGiven rules (← g.takeInput argument) rest
    | .option "help" value => .error (if value.isNone then .help else .misuse)
    | .option "verbose" (some _) => .error .misuse
    | .option "verbose" none => do readGiven rules (← g.takeVerbose) rest
    | .option name value =>
      match rules.find? (·.name = name), value, rest with
      | none, _, _ => .error .misuse
      | some rule, some value, rest => do readGiven rules (← g.takeOption rule value) rest
      | some _, none, [] => .error .misuse
      | some rule, none, value :: rest =>
        if canBeValue value then do readGiven rules (← g.takeOption rule value) rest
        else .error .misuse

/-- The number that digits spell. -/
def digits? (cs : List Char) : Option Nat :=
  if cs ≠ [] ∧ cs.all Char.isDigit then
    some (cs.foldl (fun n c => n * 10 + (c.toNat - 48)) 0)
  else none

/-- The word that a text spells: digits, after a sign or none. -/
def word? (text : String) : Option Int64 :=
  match text.toList with
  | '-' :: cs => (digits? cs).bind fun n => Json.Schema.int64OfInt? (-n)
  | '+' :: cs => (digits? cs).bind fun n => Json.Schema.int64OfInt? n
  | cs => (digits? cs).bind fun n => Json.Schema.int64OfInt? n

/-- The names of the commands. -/
inductive Verb where
  | condition
  | save
  | send
  deriving DecidableEq

namespace Verb

/-- The name of a command. -/
def name : Verb → String
  | condition => "where"
  | save => "save"
  | send => "send"

/-- The command of a name. -/
def ofName? (name : String) : Option Verb :=
  [condition, save, send].find? (·.name = name)

theorem ofName?_name (v : Verb) : ofName? v.name = some v := by
  cases v <;> rfl

/-- The options of a command. -/
def rules : Verb → List OptionRule
  | condition =>
    [⟨"limit", fun v => (word? v).isSome⟩, ⟨"offset", fun v => (word? v).isSome⟩]
  | save => [⟨"out", fun v => !v.isEmpty⟩]
  | send =>
    [⟨"query", fun _ => true⟩, ⟨"url", fun _ => true⟩, ⟨"user", fun _ => true⟩,
      ⟨"pass", fun _ => true⟩]

/-- The task of a command for a file. What `send` is not given is taken from the environment. -/
def task (env : List (String × String)) (g : Given) (input : String) : Verb → Task
  | condition =>
    let number := fun name => ((g.value? name).bind word?).getD 0
    .condition input { limit := number "limit", offset := number "offset" }
  | save => .save input (g.value? "out")
  | send =>
    let setting := fun name key => ((g.value? name).or (env.lookup key)).getD ""
    let (address, user, pass) := Client.Account.settingNames
    .send input ((g.value? "query").getD "")
      (.ofTexts (setting "url" address) (setting "user" user) (setting "pass" pass))

end Verb

/-- Reads the arguments after the name of a command. -/
def readCommand (env : List (String × String)) (verb : Verb) (verbose : Bool)
    (arguments : List String) : Except Stop Order := do
  let g ← readGiven verb.rules {} arguments
  match g.input with
  | none => .error .misuse
  | some input => .ok { task := verb.task env g input, verbose := verbose || g.verbose }

/-- What help is asked about, after the word itself: nothing, or one command. -/
def readHelp : List String → Stop
  | [] => .help
  | [name] => if name = "help" ∨ (Verb.ofName? name).isSome then .help else .misuse
  | _ => .misuse

/-- Reads all arguments of the program. -/
def read (env : List (String × String)) : Bool → List String → Except Stop Order
  | _, [] => .error .misuse
  | verbose, argument :: rest =>
    if argument = "help" then .error (readHelp rest)
    else
      match Verb.ofName? argument, Shape.of argument with
      | some verb, _ => readCommand env verb verbose rest
      | none, .option "verbose" none =>
        if verbose then .error .misuse else read env true rest
      | none, .option "help" none => .error .help
      | none, .letter 'h' => .error .help
      | none, _ => .error .misuse

end Inventory.Command
