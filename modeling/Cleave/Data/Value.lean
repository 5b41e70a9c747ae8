import Cleave.Data.Dictionary

/-!
# Values

A tree of values is what settings are read from, whatever they were written in.
-/

namespace Cleave

/-- A tree of values. -/
inductive Value
  | null
  | bool (b : Bool)
  | int (n : Int)
  | string (s : String)
  /-- A value of a type that no setting has, such as a fraction. -/
  | foreign
  | list (items : List Value)
  /-- Keys with their values, in the order they are written. -/
  | table (entries : List (String × Value))
  /-- A table in braces, which TOML reads as a single value. -/
  | braced (entries : List (String × Value))
  deriving Inhabited, Repr

/-- What a tree of values was written in. -/
inductive Dialect
  | json
  | toml
  | yaml
  deriving DecidableEq, Repr

namespace Value

/-- The text of a string. -/
def string? : Value → Option String
  | string s => some s
  | _ => none

/-- The one character of a string. -/
def char? (v : Value) : Option Char :=
  v.string?.bind fun s =>
    match s.toList with
    | [c] => some c
    | _ => none

/-- A truth value. -/
def bool? : Value → Option Bool
  | bool b => some b
  | _ => none

/-- The value of a hexadecimal digit. -/
def digit? (c : Char) : Option Nat :=
  if c.isDigit then some (c.toNat - '0'.toNat)
  else if 'a' ≤ c && c ≤ 'f' then some (c.toNat - 'a'.toNat + 10)
  else if 'A' ≤ c && c ≤ 'F' then some (c.toNat - 'A'.toNat + 10)
  else none

/-- The number that digits write in a base. There is at least one digit, and all are below the base. -/
def number? (base : Nat) (digits : Text) : Option Nat :=
  if digits.isEmpty then none
  else
    digits.foldlM (fun n c => (digit? c).bind fun d => if d < base then some (n * base + d) else none) 0

/-- The largest whole number of a setting. -/
def maxNat : Nat := 18446744073709551615

/-- A whole number that fits into 64 bits. -/
def nat? : Value → Option Nat
  | int n => if 0 ≤ n && n ≤ maxNat then some n.toNat else none
  | _ => none

/-- The items of a list. -/
def list? : Value → Option (List Value)
  | list items => some items
  | _ => none

/-- The entries of a table. -/
def table? : Value → Option (List (String × Value))
  | table entries => some entries
  | braced entries => some entries
  | _ => none

/-- The list of the values that `read` gives for the items of a list. -/
def listOf? {α : Type} (read : Value → Option α) (v : Value) : Option (List α) :=
  v.list?.bind fun items => items.mapM read

/-- The value of an optional setting, which a null leaves out. -/
def optional? {α : Type} (read : Value → Option α) : Value → Option (Option α)
  | null => some none
  | v => (read v).map some

/-- The dictionary of the values that `read` gives for the entries of a table; of two entries with one key the
last counts. -/
def dictionaryOf? {α : Type} (read : Value → Option α) (v : Value) : Option (Dictionary α) :=
  v.table?.bind fun entries =>
    entries.foldlM (fun d entry => (read entry.2).map (d.insert entry.1)) Dictionary.empty

/-- Whether a value is an empty table or list. -/
def isVoid : Value → Bool
  | list items => items.isEmpty
  | v => v.table?.any List.isEmpty

/-- The name of a choice without arguments. JSON also has the name with a null, and TOML the name with an empty
table or list; of a TOML table that is not in braces the first entry counts. -/
def choice? : Dialect → Value → Option String
  | _, string s => some s
  | .json, table [(s, null)] => some s
  | .toml, table ((s, v) :: _) => if v.isVoid then some s else none
  | .toml, braced [(s, v)] => if v.isVoid then some s else none
  | _, _ => none

/-- The fields of a record with the given field names. No known field may be given twice. JSON and TOML also
take a list with the values in the order of the names; JSON refuses surplus values. -/
def record? (dialect : Dialect) (names : List String) (v : Value) : Option (List (String × Value)) :=
  match v, dialect with
  | list items, .json => if names.length < items.length then none else some (names.zip items)
  | list items, .toml => some (names.zip items)
  | v, _ =>
    v.table?.bind fun entries =>
      let known := (entries.map Prod.fst).filter names.contains
      if known.Nodup then some entries else none

end Value

/-- The fields of a record. -/
abbrev Fields := List (String × Value)

namespace Fields

/-- A field that may be left out. -/
def get {α : Type} (fields : Fields) (name : String) (read : Value → Option α) (fallback : α) : Option α :=
  match fields.lookup name with
  | some v => read v
  | none => some fallback

/-- A field that must be there. -/
def require {α : Type} (fields : Fields) (name : String) (read : Value → Option α) : Option α :=
  (fields.lookup name).bind read

/-- A field with an optional value. -/
def getOptional {α : Type} (fields : Fields) (name : String) (read : Value → Option α) : Option (Option α) :=
  fields.get name (Value.optional? read) none

end Fields

end Cleave
