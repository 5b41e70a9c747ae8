import Cleave.Data.Toml.Scalar
import Cleave.Data.Toml.Tree

/-!
# Reading TOML

A document is a list of statements, one a line: values under keys, and headers of tables.
-/

namespace Cleave.Toml

/-- The text after blanks. -/
def skipBlanks (t : Text) : Text :=
  t.dropWhile isBlank

/-- The text after a comment, if it starts with one. -/
def skipComment : Text → Text
  | '#' :: r => r.dropWhile isTextChar
  | t => t

/-- The text after blanks, comments and line ends. -/
def skipFiller : (fuel : Nat) → Text → Text
  | 0, t => t
  | fuel + 1, t =>
    match skipComment (skipBlanks t) with
    | '\n' :: r => skipFiller fuel r
    | '\r' :: '\n' :: r => skipFiller fuel r
    | t => t

/-- The text after the end of a line: blanks, a comment, and a line end or the end of the text. -/
def lineEnd? (t : Text) : Option Text :=
  match skipComment (skipBlanks t) with
  | [] => some []
  | '\n' :: r => some r
  | '\r' :: '\n' :: r => some r
  | _ => none

/-- Characters of a key without quotes. -/
def isKeyChar (c : Char) : Bool :=
  c.isAlphanum || c == '-' || c == '_'

/-- One part of a key. -/
def simpleKey? : Text → Option (String × Text)
  | '"' :: r => (quoted r).map fun (k, r) => (String.ofList k, r)
  | '\'' :: r => (literal r).map fun (k, r) => (String.ofList k, r)
  | t =>
    let key := t.takeWhile isKeyChar
    if key = [] then none else some (String.ofList key, t.drop key.length)

/-- A key: its parts are joined by points, with blanks around them. -/
def key? : (fuel : Nat) → Text → Option (List String × Text)
  | 0, _ => none
  | fuel + 1, t => do
    let (part, r) ← simpleKey? (skipBlanks t)
    match skipBlanks r with
    | '.' :: r =>
      let (parts, r) ← key? fuel r
      return (part :: parts, r)
    | r => return ([part], r)

/-- The largest depth of nested values, and the largest number of parts of a key. -/
def maxDepth : Nat := 79

mutual

/-- A value. -/
def value? : (fuel depth : Nat) → Text → Option (Value × Text)
  | 0, _, _ => none
  | fuel + 1, depth, t =>
    match t, depth with
    | '[' :: r, depth + 1 => (items? fuel depth r).map fun (items, r) => (.list items, r)
    | '\x7b' :: r, depth + 1 =>
      match skipBlanks r with
      | '\x7d' :: r => some (.braced [], r)
      | r => (pairs? fuel depth [] r).map fun (es, r) => (.braced (Node.entryValues true es), r)
    | '"' :: _, _ => (string? t).map fun (s, r) => (.string (String.ofList s), r)
    | '\'' :: _, _ => (string? t).map fun (s, r) => (.string (String.ofList s), r)
    | _, _ => bare? t

/-- The rest of a list after its opening bracket or after a comma. -/
def items? : (fuel depth : Nat) → Text → Option (List Value × Text)
  | 0, _, _ => none
  | fuel + 1, depth, t =>
    match skipFiller t.length t with
    | ']' :: r => some ([], r)
    | t => do
      let (v, r) ← value? fuel depth t
      match skipFiller r.length r with
      | ']' :: r => return ([v], r)
      | ',' :: r =>
        let (vs, r) ← items? fuel depth r
        return (v :: vs, r)
      | _ => none

/-- The rest of a table in braces. -/
def pairs? : (fuel depth : Nat) → Entries → Text → Option (Entries × Text)
  | 0, _, _, _ => none
  | fuel + 1, depth, es, t => do
    let (path, r) ← key? maxDepth t
    match r with
    | '=' :: r =>
      let (v, r) ← value? fuel depth (skipBlanks r)
      let es ← es.addValue path.dropLast (path.getLast?.getD "") v
      match skipBlanks r with
      | '\x7d' :: r => return (es, r)
      | ',' :: r => pairs? fuel depth es r
      | _ => none
    | _ => none

end

/-- Takes in one statement. -/
def statement? (d : Draft) (t : Text) : Option (Draft × Text) :=
  match t with
  | '[' :: '[' :: r => do
    let (path, r) ← key? maxDepth r
    match r with
    | ']' :: ']' :: r => return (← d.openRepeated path, ← lineEnd? r)
    | _ => none
  | '[' :: r => do
    let (path, r) ← key? maxDepth r
    match r with
    | ']' :: r => return (← d.openTable path, ← lineEnd? r)
    | _ => none
  | t => do
    let (path, r) ← key? maxDepth t
    match r with
    | '=' :: r =>
      let (v, r) ← value? (r.length + 1) maxDepth (skipBlanks r)
      return (← d.addValue path.dropLast (path.getLast?.getD "") v, ← lineEnd? r)
    | _ => none

/-- Takes in all statements. -/
def statements? : (fuel : Nat) → Draft → Text → Option Draft
  | 0, _, _ => none
  | fuel + 1, d, t =>
    match skipFiller t.length t with
    | [] => some d
    | t => do
      let (d, r) ← statement? d t
      statements? fuel d r

/-- Reads a document. A byte order mark at its start is passed over. -/
def read (text : Text) : Option (List (String × Value)) := do
  let text := (Text.dropStart? ['\uFEFF'] text).getD text
  let d ← statements? (text.length + 1) {} text
  d.finish

end Cleave.Toml
