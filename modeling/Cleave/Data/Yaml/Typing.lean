import Cleave.Data.Shape
import Cleave.Data.Yaml.Node

/-!
# Typed reading of YAML

`Document.value?` reads a document against a shape. A reference is followed where the shape asks for a value,
and not in fields that the shape does not know. How often references may be followed is limited by the length of
the document, so that a short document cannot stand for a very large value.
-/

namespace Cleave.Yaml

/-- Tags of the types of the language itself. -/
def standardTag (name : String) : String := "tag:yaml.org,2002:" ++ name

/-- A reading that may follow references as often as its state says. -/
abbrev Reading := StateT Nat Option

/-- The node itself, or the one that it refers to. -/
def Document.follow (d : Document) : Node → Reading Node
  | .reference anchor => fun left =>
    match left with
    | 0 => none
    | left + 1 => (d.node? anchor).map (·, left)
  | n => pure n

/-- Plain scalars that stand for no value. -/
def isNull (s : String) : Bool :=
  ["~", "null", "Null", "NULL"].contains s

namespace Node

/-- The text of a scalar. -/
def text? : Node → Option String
  | scalar _ _ s => some s
  | _ => none

/-- The text of a scalar that may stand for a value of a type: a plain one, or a literal block whose tag names
the type. -/
def typedText? (type : String) : Node → Option String
  | scalar p style s =>
    if style = .plain || (style = .literal && p.tag = some (standardTag type)) then some s else none
  | _ => none

/-- A truth value, in lower case, capitalised or in capitals. -/
def bool? (n : Node) : Option Bool :=
  (n.typedText? "bool").bind fun s =>
    if ["true", "True", "TRUE"].contains s then some true
    else if ["false", "False", "FALSE"].contains s then some false
    else none

/-- The number that a text writes: with an optional plus sign, in base 16, 8 or 2 after a mark, else in base 10
without leading zeros. -/
def number? (s : Text) : Option Nat :=
  let body := (Text.dropStart? ['+'] s).getD s
  let marked (mark : String) (base : Nat) : Option Nat :=
    (Text.dropStart? mark.toList body).bind (Value.number? base)
  let decimal : Option Nat := if body.head? = some '0' && 1 < body.length then none else Value.number? 10 body
  (marked "0x" 16).or ((marked "0o" 8).or ((marked "0b" 2).or decimal))

/-- A whole number. -/
def nat? (n : Node) : Option Nat :=
  (n.typedText? "int").bind fun s => number? s.toList

/-- The name of a choice: a scalar, or a tag of the document itself before no value. -/
def choice? : Node → Option String
  | scalar p style s =>
    match p.tag.map String.toList with
    | some ('!' :: name) =>
      if style = .plain && (s = "" || isNull s) then
        some (if name = [] then "!" else String.ofList name)
      else none
    | _ => some s
  | _ => none

/-- Whether a node stands for no value: a plain scalar that is empty or says so. With a tag a scalar stands for
a value, except that the tag for no value admits nothing else. -/
def isAbsent? : Node → Option Bool
  | scalar p .plain s =>
    match p.tag with
    | none => some (s = "" || isNull s)
    | some tag => if tag = standardTag "null" then (if isNull s then some true else none) else some false
  | _ => some false

/-- The items of a list, which may be left empty. -/
def items? : Node → Option (List Node)
  | list _ items => some items
  | scalar _ .plain "" => some []
  | _ => none

/-- The entries of a table, which may be left empty. -/
def entries? : Node → Option (List (Node × Node))
  | table _ entries => some entries
  | scalar _ .plain "" => some []
  | _ => none

end Node

mutual

/-- Reads a node against a shape. -/
def Document.typed (d : Document) : Shape → Node → Reading Value
  | .string, n => do
    let n ← d.follow n
    let s ← n.text?
    return .string s
  | .bool, n => do
    let n ← d.follow n
    let b ← n.bool?
    return .bool b
  | .nat, n => do
    let n ← d.follow n
    let k ← n.nat?
    return .int k
  | .choice, n => do
    let n ← d.follow n
    let s ← n.choice?
    return .string s
  | .optional shape, n => do
    let n ← d.follow n
    let absent ← n.isAbsent?
    if absent then return .null else d.typed shape n
  | .list item, n => do
    let n ← d.follow n
    let items ← n.items?
    return .list (← items.mapM (d.typed item))
  | .dictionary value, n => do
    let n ← d.follow n
    let entries ← n.entries?
    return .table (← entries.mapM fun (k, v) => do
      let k ← d.follow k
      let name ← k.text?
      return (name, ← d.typed value v))
  | .record fields, n => do
    let n ← d.follow n
    let entries ← n.entries?
    let read ← entries.mapM fun (k, v) => do
      let k ← d.follow k
      let name ← k.text?
      d.typedField fields name v
    return .table (read.filterMap id)

/-- Reads the value of a field; a field that is not known is passed over. -/
def Document.typedField (d : Document) :
    List (String × Shape) → String → Node → Reading (Option (String × Value))
  | [], _, _ => pure none
  | (known, shape) :: r, name, n =>
    if known = name then do return some (name, ← d.typed shape n) else d.typedField r name n

end

/-- The value of a document against a shape. -/
def Document.value? (d : Document) (shape : Shape) : Option Value :=
  (d.typed shape d.root (100 * d.root.parts)).map Prod.fst

end Cleave.Yaml
