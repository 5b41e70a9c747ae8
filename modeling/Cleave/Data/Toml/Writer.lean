import Cleave.Data.Toml.Reader

/-!
# Writing TOML

Values come before tables, and tables have headers. A string is written in single quotes if it would need
escapes otherwise, and over several lines if it has more than one.
-/

namespace Cleave.Toml

/-- A hexadecimal digit in capitals. -/
def hexDigit (n : Nat) : Char :=
  if n < 10 then Char.ofNat ('0'.toNat + n) else Char.ofNat ('A'.toNat + n - 10)

/-- A character in double quotes. -/
def escaped (c : Char) : Text :=
  if c = '\x08' then ['\\', 'b']
  else if c = '\t' then ['\\', 't']
  else if c = '\n' then ['\\', 'n']
  else if c = '\x0c' then ['\\', 'f']
  else if c = '\r' then ['\\', 'r']
  else if c = '"' then ['\\', '"']
  else if c = '\\' then ['\\', '\\']
  else if c < ' ' || c = '\x7f' then
    ['\\', 'u', '0', '0', hexDigit (c.toNat / 16), hexDigit (c.toNat % 16)]
  else [c]

/-- A string in double quotes on one line. -/
def quote (s : Text) : Text :=
  '"' :: s.flatMap escaped ++ ['"']

/-- Whether a string is written in single quotes: it needs escapes in double quotes and none in single ones. -/
def prefersLiteral (s : Text) : Bool :=
  (s.contains '"' || s.contains '\\') && s.all fun c => isTextChar c && c != '\''

/-- A string in the form that suits it. -/
def writeString (s : Text) : Text :=
  if prefersLiteral s then '\'' :: s ++ ['\'']
  else if s.contains '\n' then
    "\"\"\"\n".toList ++ (s.flatMap fun c => if c = '\n' then ['\n'] else escaped c) ++ "\"\"\"".toList
  else quote s

/-- A part of a key. -/
def writeKey (key : String) : Text :=
  if key.toList != [] && key.toList.all isKeyChar then key.toList else quote key.toList

/-- The path of a header. -/
def writePath (path : List String) : Text :=
  Text.join ['.'] (path.map writeKey)

/-- A list: on one line if it has at most one item, else with a line for each. -/
def writeList (items : List Text) : Text :=
  if items.length ≤ 1 then '[' :: items.flatten ++ [']']
  else "[\n".toList ++ (items.flatMap fun item => "    ".toList ++ item ++ ",\n".toList) ++ [']']

mutual

/-- A value within a line or a list. What TOML has no form for is written as an empty string. -/
def writeValue : Value → Text
  | .null => quote []
  | .foreign => quote []
  | .bool b => (if b then "true" else "false").toList
  | .int n => (toString n).toList
  | .string s => writeString s.toList
  | .list items => writeList (writeItems items)
  | .table [] => ['\x7b', '\x7d']
  | .table entries => "\x7b ".toList ++ Text.join ", ".toList (writePairs entries) ++ " \x7d".toList
  | .braced [] => ['\x7b', '\x7d']
  | .braced entries => "\x7b ".toList ++ Text.join ", ".toList (writePairs entries) ++ " \x7d".toList

/-- The items of a list. -/
def writeItems : List Value → List Text
  | [] => []
  | v :: vs => writeValue v :: writeItems vs

/-- Keys with their values. -/
def writePairs : List (String × Value) → List Text
  | [] => []
  | (key, v) :: es => (writeKey key ++ " = ".toList ++ writeValue v) :: writePairs es

end

/-- Whether a value is a table. -/
def isTable : Value → Bool
  | .table _ => true
  | _ => false

/-- Whether a value gets a header of its own: a table, or a list of tables. -/
def hasHeader : Value → Bool
  | .table _ => true
  | .list items => !items.isEmpty && items.all isTable
  | _ => false

/-- The lines of the entries without a header of their own. -/
def writeLines (entries : List (String × Value)) : Text :=
  (writePairs (entries.filter fun e => !hasHeader e.2)).flatMap fun line => line ++ ['\n']

mutual

/-- The sections of the entries with a header of their own. -/
def writeSections (path : List String) : List (String × Value) → Text
  | [] => []
  | (key, v) :: es => writeSection (path ++ [key]) v ++ writeSections path es

/-- The section of an entry. The header of a table that only holds other tables is left out. -/
def writeSection (path : List String) : Value → Text
  | .table entries =>
    let lines := writeLines entries
    (if lines = [] && entries.length != 0 then [] else "\n[".toList ++ writePath path ++ "]\n".toList) ++
      lines ++ writeSections path entries
  | .list items => if items.all isTable then writeRepeated path items else []
  | _ => []

/-- The sections of several tables under one key. -/
def writeRepeated (path : List String) : List Value → Text
  | [] => []
  | .table entries :: vs =>
    "\n[[".toList ++ writePath path ++ "]]\n".toList ++ writeLines entries ++ writeSections path entries ++
      writeRepeated path vs
  | _ :: vs => writeRepeated path vs

end

/-- Writes a document. -/
def write (entries : List (String × Value)) : Text :=
  let lines := writeLines entries
  let sections := writeSections [] entries
  if lines = [] then sections.drop 1 else lines ++ sections

end Cleave.Toml
