import Inventory.Command.Run
import Inventory.Proofs.Files.Write
import Inventory.Proofs.Json.Schema

/-!
# Tasks and their documents

Every condition and every batch can be asked for: an option that is spelled with its value after an
equals sign takes any value, even one that looks like an option, and after two hyphens so does the
file. What a task works on is the document in that file. Main statements: `readGiven_spelled` (the
options are taken one by one), `read_condition` and `read_send` (arguments for every task) and
`readDocument_eq_ok`.
-/

namespace Inventory.Command

open Files (Disk)
open Json (Schema)
open Predicate (Page)

/-! ## Numbers -/

theorem digits?_toDigits (n : Nat) : digits? (Nat.toDigits 10 n) = some n := by
  have hdigit : (Nat.toDigits 10 n).all Char.isDigit = true := List.all_eq_true.2 fun c hc =>
    Nat.isDigit_of_mem_toDigits (by decide) (by decide) hc
  have hvalue : Nat.ofDigitChars 10 (Nat.toDigits 10 n) 0 = n := Nat.ofDigitChars_ten_toDigits
  have hstep : (fun n (c : Char) => n * 10 + (c.toNat - 48))
      = fun n (c : Char) => 10 * n + (c.toNat - '0'.toNat) := by
    funext n c
    rw [Nat.mul_comm]
    rfl
  rw [Nat.ofDigitChars_eq_foldl] at hvalue
  rw [digits?, if_pos ⟨Nat.toDigits_ne_nil, hdigit⟩, hstep, hvalue]

/-- The digits of a word spell it. -/
theorem word?_digits (n : Int64) : word? (Page.digits n) = some n := by
  have hrange := Schema.int64OfInt?_toInt n
  by_cases hneg : n.toInt < 0
  · have hchars : (Page.digits n).toList = '-' :: Nat.toDigits 10 n.toInt.natAbs := by
      rw [Page.digits, String.toList_ofList, Json.Number.renderWhole, if_pos hneg]
    have hsize : -(n.toInt.natAbs : Int) = n.toInt := by omega
    rw [word?, hchars]
    show (digits? (Nat.toDigits 10 n.toInt.natAbs)).bind _ = _
    rw [digits?_toDigits, Option.bind_some, hsize, hrange]
  · have hchars : (Page.digits n).toList = Nat.toDigits 10 n.toInt.natAbs := by
      rw [Page.digits, String.toList_ofList, Json.Number.renderWhole, if_neg hneg]
    have hsize : (n.toInt.natAbs : Int) = n.toInt := by omega
    -- A digit is neither of the signs.
    have hdigit : ∀ c ∈ Nat.toDigits 10 n.toInt.natAbs, c.isDigit = true := fun c hc =>
      Nat.isDigit_of_mem_toDigits (by decide) (by decide) hc
    rw [word?, hchars]
    split
    · next heq => exact absurd (hdigit '-' (by simp [heq])) (by decide)
    · next heq => exact absurd (hdigit '+' (by simp [heq])) (by decide)
    · rw [digits?_toDigits, Option.bind_some, hsize, hrange]

/-! ## Options -/

/-- An option and its value as one argument. -/
def spelled (o : String × String) : String := "--" ++ o.1 ++ "=" ++ o.2

theorem shape_spelled {o : String × String} (h : '=' ∉ o.1.toList) :
    Shape.of (spelled o) = .option o.1 (some o.2) := by
  have hchars : (spelled o).toList = '-' :: '-' :: (o.1.toList ++ '=' :: o.2.toList) := by
    simp [spelled]
  have hname : ∀ c ∈ o.1.toList, decide (c ≠ '=') = true := by
    intro c hc
    have : c ≠ '=' := ne_of_mem_of_not_mem hc h
    simpa using this
  obtain ⟨c, cs, hcs⟩ := List.exists_cons_of_ne_nil
    (List.append_ne_nil_of_right_ne_nil o.1.toList (List.cons_ne_nil '=' o.2.toList))
  rw [Shape.of, hchars, hcs]
  show Shape.option (String.ofList ((c :: cs).takeWhile _)) _ = _
  rw [← hcs, List.takeWhile_append_of_pos hname, List.dropWhile_append_of_pos hname]
  simp

/-- The command has the option, and its value makes sense. -/
def Fits (rules : List OptionRule) (o : String × String) : Prop :=
  ∃ rule, rules.find? (·.name = o.1) = some rule ∧ rule.accepts o.2 = true

/-- The names of options are none that every command has, and can be told from values. -/
theorem name_rules (v : Verb) : ∀ rule ∈ v.rules,
    rule.name ≠ "help" ∧ rule.name ≠ "verbose" ∧ '=' ∉ rule.name.toList := by
  cases v <;> simp [Verb.rules]

theorem takeOption_of_new {g : Given} {rule : OptionRule} {value : String}
    (hnew : rule.name ∉ g.options.map Prod.fst) (hvalue : rule.accepts value = true) :
    g.takeOption rule value
      = .ok { g with options := g.options ++ [(rule.name, value)] } := by
  have hnone : g.value? rule.name = none := by
    rw [Given.value?, List.lookup_eq_none_iff]
    intro o ho
    have hne : o.1 ≠ rule.name := ne_of_mem_of_not_mem (List.mem_map_of_mem ho) hnew
    simpa using hne.symm
  simp [Given.takeOption, hnone, hvalue]

/-- An option that was not given before is taken. -/
theorem readGiven_option {v : Verb} {g : Given} {o : String × String} (hfits : Fits v.rules o)
    (hnew : o.1 ∉ g.options.map Prod.fst) (rest : List String) :
    readGiven v.rules g (spelled o :: rest)
      = readGiven v.rules { g with options := g.options ++ [o] } rest := by
  obtain ⟨name, value⟩ := o
  obtain ⟨rule, hrule, hvalue⟩ := hfits
  obtain rfl : rule.name = name := by simpa using List.find?_some hrule
  obtain ⟨hhelp, hverbose, hequals⟩ := name_rules v rule (List.mem_of_find?_eq_some hrule)
  rw [readGiven, shape_spelled hequals]
  have htake := takeOption_of_new hnew hvalue
  -- Of the shapes that are read, only that of an option of this command is the one at hand.
  split
  · contradiction
  · contradiction
  · contradiction
  · next heq => exact absurd (Shape.option.inj heq).1 hhelp
  · next heq => exact absurd (Shape.option.inj heq).1 hverbose
  · next heq => exact absurd (Shape.option.inj heq).1 hverbose
  · next heq =>
    obtain ⟨rfl, rfl⟩ := Shape.option.inj heq
    simp only [hrule, ok_bind htake]

/-- The options are taken one by one, in their order. -/
theorem readGiven_spelled {v : Verb} (rest : List String) :
    ∀ (options : List (String × String)) {g : Given}, (∀ o ∈ options, Fits v.rules o) →
      ((g.options ++ options).map Prod.fst).Nodup →
      readGiven v.rules g (options.map spelled ++ rest)
        = readGiven v.rules { g with options := g.options ++ options } rest
  | [], g, _, _ => by rw [List.map_nil, List.nil_append, List.append_nil]
  | o :: options, g, hfits, hnodup => by
    obtain ⟨ho, hoptions⟩ := List.forall_mem_cons.1 hfits
    have happend : g.options ++ o :: options = (g.options ++ [o]) ++ options := by simp
    have hnew : o.1 ∉ g.options.map Prod.fst := by
      have hnodup := List.map_append ▸ hnodup
      exact fun hmem => (List.nodup_append.1 hnodup).2.2 _ hmem _ (List.mem_cons_self ..) rfl
    rw [List.map_cons, List.cons_append, readGiven_option ho hnew,
      readGiven_spelled rest options hoptions (happend ▸ hnodup), happend]

/-- After two hyphens comes the file, whatever it is called. -/
theorem readGiven_input (rules : List OptionRule) (options : List (String × String))
    {input : String} (h : input ≠ "") :
    readGiven rules { options } ["--", input] = .ok { input := some input, options } := by
  have hshape : Shape.of "--" = .divider := rfl
  rw [readGiven, hshape]
  simp [readPlain, Given.takeInput, h, bind, Except.bind]

/-! ## Arguments -/

/-- Arguments that give a command its options and a file. -/
def commandLine (v : Verb) (options : List (String × String)) (input : String) : List String :=
  v.name :: (options.map spelled ++ ["--", input])

theorem read_commandLine (env : List (String × String)) {v : Verb}
    {options : List (String × String)} (hfits : ∀ o ∈ options, Fits v.rules o)
    (hnodup : (options.map Prod.fst).Nodup) {input : String} (h : input ≠ "") :
    read env false (commandLine v options input)
      = .ok { task := v.task env { input := some input, options } input, verbose := false } := by
  have hname : v.name ≠ "help" := by cases v <;> decide
  rw [commandLine, read, if_neg hname, Verb.ofName?_name]
  show readCommand env v false _ = _
  have hgiven : readGiven v.rules {} (options.map spelled ++ ["--", input])
      = .ok { input := some input, options } := by
    rw [readGiven_spelled ["--", input] options hfits (by simpa using hnodup)]
    exact readGiven_input _ _ h
  rw [readCommand, ok_bind hgiven]
  rfl

/-- The arguments that ask for the condition of a filter. -/
def conditionLine (input : String) (page : Page) : List String :=
  commandLine .condition
    [("limit", Page.digits page.limit), ("offset", Page.digits page.offset)] input

/-- Every page can be asked for, of every file. -/
theorem read_condition (env : List (String × String)) {input : String} (h : input ≠ "")
    (page : Page) :
    read env false (conditionLine input page)
      = .ok { task := .condition input page, verbose := false } := by
  have hword (n : Int64) : (word? (Page.digits n)).isSome = true := by rw [word?_digits]; rfl
  have htask : Verb.condition.task env
      { input := some input
        options := [("limit", Page.digits page.limit), ("offset", Page.digits page.offset)] } input
      = .condition input page := by
    show Task.condition input ⟨(word? (Page.digits page.limit)).getD 0,
      (word? (Page.digits page.offset)).getD 0⟩ = _
    rw [word?_digits, word?_digits]
    rfl
  rw [conditionLine, read_commandLine env ?_ (by simp) h]
  · rw [htask]
  · intro o ho
    simp only [List.mem_cons, List.not_mem_nil, or_false] at ho
    rcases ho with rfl | rfl
    · exact ⟨_, rfl, hword page.limit⟩
    · exact ⟨_, rfl, hword page.offset⟩

/-- The arguments that ask for a batch to be sent. -/
def sendLine (input query address user pass : String) : List String :=
  commandLine .send [("query", query), ("url", address), ("user", user), ("pass", pass)] input

/-- Every batch can be sent with every query to every account, whatever the environment says. -/
theorem read_send (env : List (String × String)) {input : String} (h : input ≠ "")
    (query address user pass : String) :
    read env false (sendLine input query address user pass)
      = .ok { task := .send input query (.ofTexts address user pass), verbose := false } := by
  rw [sendLine, read_commandLine env ?_ (by simp) h]
  · rfl
  · intro o ho
    simp only [List.mem_cons, List.not_mem_nil, or_false] at ho
    rcases ho with rfl | rfl | rfl | rfl
    all_goals exact ⟨_, rfl, rfl⟩

/-! ## Documents -/

section
variable {α : Type} {disk : Disk} {path : String} {schema : Schema α} {x y : α}

/-- The path leads to a file whose text is a document that is read as `x`. -/
def HoldsDocument (disk : Disk) (path : String) (schema : Schema α) (x : α) : Prop :=
  ∃ text, disk.Holds path text.toUTF8 ∧ schema.read text = .ok x

theorem readDocument_eq_ok :
    readDocument schema disk path = .ok x ↔ HoldsDocument disk path schema x := by
  unfold readDocument HoldsDocument
  constructor
  · intro h
    split at h
    · contradiction
    · next text htext =>
      split at h
      · contradiction
      · next y hy =>
        injection h with h
        exact ⟨text, Disk.readText_eq_ok.1 htext, h ▸ hy⟩
  · rintro ⟨text, htext, hx⟩
    simp only [Disk.readText_eq_ok.2 htext, hx]

/-- A document is read in one way. -/
theorem HoldsDocument.eq (hx : HoldsDocument disk path schema x)
    (hy : HoldsDocument disk path schema y) : x = y :=
  Except.ok.inj ((readDocument_eq_ok.2 hx).symm.trans (readDocument_eq_ok.2 hy))

/-- With a document a task goes on; without one nothing is done. -/
theorem withDocument_of_holds (h : HoldsDocument disk path schema x) (next : α → Run) :
    withDocument schema disk path next = next x := by
  rw [withDocument, readDocument_eq_ok.2 h]

theorem withDocument_of_none (h : ∀ x, ¬ HoldsDocument disk path schema x) :
    ∃ complaint, ∀ next : α → Run, withDocument schema disk path next
      = { code := 2, complaint := some complaint, disk } := by
  unfold withDocument
  split
  · next complaint _ => exact ⟨complaint, fun _ => rfl⟩
  · next x hx => exact absurd (readDocument_eq_ok.1 hx) (h x)

end

/-- The arguments decide what is done. -/
theorem run_of_read {env : List (String × String)} {arguments : List String} {task : Task}
    {verbose : Bool} (h : read env false arguments = .ok { task, verbose }) (disk : Disk)
    (store : Client.Store) : run env disk store arguments = perform disk store task := by
  rw [run, h]

end Inventory.Command
