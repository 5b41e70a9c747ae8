import Cleave.Pattern.CharSet
import Cleave.Unicode.Age
import Cleave.Unicode.Binary
import Cleave.Unicode.Boundary
import Cleave.Unicode.Category
import Cleave.Unicode.Script
import Cleave.Unicode.ScriptExtension

/-!
# Named character classes

Classes that a pattern refers to by name: Unicode properties (`\p`), the shorthand classes for digits, word
characters and white space, and the bracketed ASCII classes.
-/

namespace Cleave.Pattern.Property

/-- Property names compare without case, blanks, `_`, `-` and a leading `is`; other characters than ASCII
do not count. `isc` stays as it is, since `c` alone names another property. -/
def normalName (name : Text) : String :=
  let isForm := match name with
    | a :: b :: _ => a.toLower == 'i' && b.toLower == 's'
    | _ => false
  let body := if isForm then name.drop 2 else name
  let kept := (body.filter fun c => c.toNat < 128 && c != ' ' && c != '_' && c != '-').map Char.toLower
  if isForm && kept == ['c'] then "isc" else String.ofList kept

/-- The code points of a name in a list of tables. -/
def inTables (tables : List (List String × String)) (name : String) : Option CharSet :=
  (tables.find? (·.1.contains name)).map fun row => ⟨Text.Table.ranges row.2⟩

/-- A general category, a group of them, or one of the names `any`, `ascii` and `assigned`. -/
def category (name : String) : Option CharSet :=
  match Unicode.Category.groups.find? (·.1.contains name) with
  | some (_, members) =>
    some (members.foldl (fun s m => s.union ((inTables Unicode.Category.tables m).getD .empty)) .empty)
  | none =>
    if name == "any" then some ⟨[(0, CharSet.unicodeTop)]⟩
    else if name == "ascii" then some ⟨[(0, 0x7F)]⟩
    else if name == "assigned" then (inTables Unicode.Category.tables "cn").map (CharSet.compl CharSet.unicodeTop)
    else inTables Unicode.Category.tables name

/-- A script by its name. -/
def script (name : String) : Option CharSet :=
  inTables Unicode.Script.tables name

/-- A binary property by its name; three short names belong to categories instead. -/
def binary (name : String) : Option CharSet :=
  if name == "cf" || name == "sc" || name == "lc" then none else inTables Unicode.Binary.tables name

/-- A property given by a single name: a binary property, else a category, else a script. -/
def named (name : Text) : Option CharSet :=
  let n := normalName name
  (binary n).or ((category n).or (script n))

/-- The code points that a version of the character database knows: those that it and older versions have
added. -/
def age (version : String) : Option CharSet :=
  let older := Unicode.Age.tables.takeWhile fun row => !row.1.contains version
  (inTables Unicode.Age.tables version).map fun added =>
    older.foldl (fun s row => s.union ⟨Text.Table.ranges row.2⟩) added

/-- A property given by name and value. -/
def valued (name value : Text) : Option CharSet :=
  let v := normalName value
  match normalName name with
  | "gc" | "generalcategory" => category v
  | "sc" | "script" => script v
  | "scx" | "scriptextensions" => inTables Unicode.ScriptExtension.tables v
  | "age" => age v
  | "gcb" | "graphemeclusterbreak" => inTables Unicode.Boundary.grapheme v
  | "wb" | "wordbreak" => inTables Unicode.Boundary.word v
  | "sb" | "sentencebreak" => inTables Unicode.Boundary.sentence v
  | _ => none

/-- A table that is known to exist. -/
def table (find : String → Option CharSet) (name : String) : CharSet :=
  (find name).getD .empty

/-- Decimal digits. -/
def digit : CharSet := table category "nd"

/-- White space. -/
def space : CharSet := table binary "whitespace"

/-- Word characters: letters, marks, decimal digits, connecting punctuation and join controls. -/
def word : CharSet :=
  [table binary "alphabetic", table category "m", digit, table category "pc", table binary "joincontrol"].foldl
    CharSet.union .empty

/-- Letters that the name of a group may hold although the tables of properties do not know them yet. -/
def newLetters : CharSet := ⟨Text.Table.ranges
  "1ov 1 r0 1 3j 1 ult 2 2 1 1 1 s 1 j7y q 12j 3 1e 2 2g4 8 g8 18 fyc p 2 p 7y 5 4qp 8 zt m 2p
    37 hjh v 1 m 8 2 154q 6 4ma c gsi 3be"⟩

/-- Digits that the name of a group may hold although the tables of properties do not know them yet. -/
def newDigits : CharSet := ⟨[(0x11DE0, 0x11DE9)]⟩

/-- Characters that may begin the name of a group. -/
def alphabetic : CharSet := (table binary "alphabetic").union newLetters

/-- Characters that may continue the name of a group. -/
def alphanumeric : CharSet := (alphabetic.union (table category "n")).union newDigits

/-- ASCII digits. -/
def asciiDigit : CharSet := ⟨[(0x30, 0x39)]⟩

/-- ASCII white space. -/
def asciiSpace : CharSet := ⟨[(0x09, 0x0D), (0x20, 0x20)]⟩

/-- ASCII word characters. -/
def asciiWord : CharSet := ⟨[(0x30, 0x39), (0x41, 0x5A), (0x5F, 0x5F), (0x61, 0x7A)]⟩

/-- The ASCII classes that may stand between `[:` and `:]`. -/
def asciiClass (name : String) : Option CharSet :=
  match name with
  | "alnum" => some ⟨[(0x30, 0x39), (0x41, 0x5A), (0x61, 0x7A)]⟩
  | "alpha" => some ⟨[(0x41, 0x5A), (0x61, 0x7A)]⟩
  | "ascii" => some ⟨[(0x00, 0x7F)]⟩
  | "blank" => some ⟨[(0x09, 0x09), (0x20, 0x20)]⟩
  | "cntrl" => some ⟨[(0x00, 0x1F), (0x7F, 0x7F)]⟩
  | "digit" => some asciiDigit
  | "graph" => some ⟨[(0x21, 0x7E)]⟩
  | "lower" => some ⟨[(0x61, 0x7A)]⟩
  | "print" => some ⟨[(0x20, 0x7E)]⟩
  | "punct" => some ⟨[(0x21, 0x2F), (0x3A, 0x40), (0x5B, 0x60), (0x7B, 0x7E)]⟩
  | "space" => some asciiSpace
  | "upper" => some ⟨[(0x41, 0x5A)]⟩
  | "word" => some asciiWord
  | "xdigit" => some ⟨[(0x30, 0x39), (0x41, 0x46), (0x61, 0x66)]⟩
  | _ => none

/-- Word characters as an array for look-up. -/
def wordRanges : Array (Nat × Nat) := word.ranges.toArray

/-- Whether a character is a word character. -/
def isWord (c : Char) : Bool :=
  CharSet.memRanges wordRanges c.toNat

/-- Alphabetic characters as an array for look-up. -/
def alphabeticRanges : Array (Nat × Nat) := alphabetic.ranges.toArray

/-- Alphanumeric characters as an array for look-up. -/
def alphanumericRanges : Array (Nat × Nat) := alphanumeric.ranges.toArray

end Cleave.Pattern.Property
