import Cleave.Data.Value

/-!
# Writing JSON

Values are written without white space. Only quotes, backslashes and control characters are escaped.
-/

namespace Cleave.Json

/-- A hexadecimal digit. -/
def hexDigit (n : Nat) : Char :=
  if n < 10 then Char.ofNat ('0'.toNat + n) else Char.ofNat ('a'.toNat + n - 10)

/-- A character in quotes. -/
def escaped (c : Char) : Text :=
  if c = '"' then ['\\', '"']
  else if c = '\\' then ['\\', '\\']
  else if c = '\n' then ['\\', 'n']
  else if c = '\r' then ['\\', 'r']
  else if c = '\t' then ['\\', 't']
  else if c = '\x08' then ['\\', 'b']
  else if c = '\x0c' then ['\\', 'f']
  else if c < ' ' then ['\\', 'u', '0', '0', hexDigit (c.toNat / 16), hexDigit (c.toNat % 16)]
  else [c]

/-- A string in quotes. -/
def quote (t : Text) : Text :=
  '"' :: t.flatMap escaped ++ ['"']

mutual

/-- Writes a value. What JSON has no form for is written as null. -/
def write : Value → Text
  | .null => "null".toList
  | .foreign => "null".toList
  | .bool b => (if b then "true" else "false").toList
  | .int n => (toString n).toList
  | .string s => quote s.toList
  | .list items => '[' :: Text.join [','] (writeItems items) ++ [']']
  | .table entries => '\x7b' :: Text.join [','] (writeEntries entries) ++ ['\x7d']
  | .braced entries => '\x7b' :: Text.join [','] (writeEntries entries) ++ ['\x7d']

/-- Writes the items of a list. -/
def writeItems : List Value → List Text
  | [] => []
  | v :: vs => write v :: writeItems vs

/-- Writes the entries of a table. -/
def writeEntries : List (String × Value) → List Text
  | [] => []
  | (key, v) :: es => (quote key.toList ++ ':' :: write v) :: writeEntries es

end

end Cleave.Json
