import Inventory.Json.Literal
import Inventory.Json.Value

/-!
# Writing JSON

A value as text, either without any blanks or laid out on indented lines. What is empty stays on
one line.
-/

namespace Inventory.Json.Value

mutual

/-- The characters of a value, without blanks. -/
def render : Value → List Char
  | .null => ['n', 'u', 'l', 'l']
  | .bool true => ['t', 'r', 'u', 'e']
  | .bool false => ['f', 'a', 'l', 's', 'e']
  | .number n => n.render
  | .text s => Literal.render s
  | .array items => '[' :: (renderItems items ++ [']'])
  | .object members => '{' :: (renderMembers members ++ ['}'])

/-- The items with commas between them. -/
def renderItems : List Value → List Char
  | [] => []
  | [v] => v.render
  | v :: w :: rest => v.render ++ ',' :: renderItems (w :: rest)

/-- The members with commas between them. -/
def renderMembers : List (String × Value) → List Char
  | [] => []
  | [(k, v)] => Literal.render k ++ ':' :: v.render
  | (k, v) :: m :: rest =>
    Literal.render k ++ ':' :: (v.render ++ ',' :: renderMembers (m :: rest))

end

/-- The text of a value, without blanks. -/
def write (v : Value) : String := String.ofList v.render

/-- A new line with two blanks for each level. -/
def newline (level : Nat) : List Char := '\n' :: List.replicate (2 * level) ' '

mutual

/-- The characters of a value on lines of their own for each item and member. -/
def renderIndented (level : Nat) : Value → List Char
  | .array [] => ['[', ']']
  | .array (v :: rest) =>
    '[' :: (indentedItems (level + 1) (v :: rest) ++ newline level ++ [']'])
  | .object [] => ['{', '}']
  | .object (m :: rest) =>
    '{' :: (indentedMembers (level + 1) (m :: rest) ++ newline level ++ ['}'])
  | .null => render .null
  | .bool b => render (.bool b)
  | .number n => n.render
  | .text s => Literal.render s

/-- The items on lines of their own. -/
def indentedItems (level : Nat) : List Value → List Char
  | [] => []
  | [v] => newline level ++ v.renderIndented level
  | v :: w :: rest =>
    newline level ++ v.renderIndented level ++ ',' :: indentedItems level (w :: rest)

/-- The members on lines of their own. -/
def indentedMembers (level : Nat) : List (String × Value) → List Char
  | [] => []
  | [(k, v)] => newline level ++ Literal.render k ++ ':' :: ' ' :: v.renderIndented level
  | (k, v) :: m :: rest =>
    newline level ++ Literal.render k
      ++ ':' :: ' ' :: (v.renderIndented level ++ ',' :: indentedMembers level (m :: rest))

end

/-- The text of a value, laid out on lines indented by two blanks for each level. -/
def writeIndented (v : Value) : String := String.ofList (v.renderIndented 0)

end Inventory.Json.Value
