import Cleave.Data.Toml.Moment

/-!
# TOML scalars

Strings in their four forms, whole numbers in four bases, and numbers with a fraction or an exponent, of which
only the form matters since no setting takes one.
-/

namespace Cleave.Toml

/-- A blank within a line. -/
def isBlank (c : Char) : Bool :=
  c == ' ' || c == '\t'

/-- Characters that text may hold as they are: no control characters but the tabulator. -/
def isTextChar (c : Char) : Bool :=
  c == '\t' || (' ' ≤ c && c != '\x7f')

/-- The character that a single letter after a backslash stands for. -/
def escape? : Char → Option Char
  | 'b' => some '\x08'
  | 't' => some '\t'
  | 'n' => some '\n'
  | 'f' => some '\x0c'
  | 'r' => some '\r'
  | '"' => some '"'
  | '\\' => some '\\'
  | _ => none

/-- The character with a code point in hexadecimal digits. -/
def scalar? (digits : Text) : Option Char :=
  (Value.number? 16 digits).bind fun n => if n.isValidChar then some (Char.ofNat n) else none

/-- Puts a character before the text of a result. -/
def prepend (c : Char) (result : Option (Text × Text)) : Option (Text × Text) :=
  result.map fun (text, rest) => (c :: text, rest)

/-- The rest of a string in double quotes: its text, and what follows it. -/
def quoted : Text → Option (Text × Text)
  | [] => none
  | '"' :: r => some ([], r)
  | '\\' :: 'u' :: a :: b :: c :: d :: r => (scalar? [a, b, c, d]).bind (prepend · (quoted r))
  | '\\' :: 'U' :: a :: b :: c :: d :: e :: f :: g :: h :: r =>
    (scalar? [a, b, c, d, e, f, g, h]).bind (prepend · (quoted r))
  | '\\' :: e :: r => (escape? e).bind (prepend · (quoted r))
  | c :: r => if isTextChar c && c != '\\' then prepend c (quoted r) else none

/-- The rest of a string in single quotes. -/
def literal : Text → Option (Text × Text)
  | [] => none
  | '\'' :: r => some ([], r)
  | c :: r => if isTextChar c then prepend c (literal r) else none

/-- Where a reader stands in a string of several lines. -/
inductive Fold
  /-- In its text. -/
  | text
  /-- After a backslash that ends its line. -/
  | ending
  /-- In the blanks after such a line. -/
  | between
  deriving DecidableEq

/-- The rest of a string of several lines in double quotes. Line ends become line feeds; a backslash at the end
of a line swallows the line end and all blanks after it. -/
def quotedLines : (fuel : Nat) → Fold → Text → Option (Text × Text)
  | 0, _, _ => none
  | _, _, [] => none
  | fuel + 1, .ending, '\r' :: '\n' :: r => quotedLines fuel .between r
  | fuel + 1, .ending, c :: r =>
    if c = '\n' then quotedLines fuel .between r
    else if isBlank c then quotedLines fuel .ending r
    else none
  | fuel + 1, .between, '\r' :: '\n' :: r => quotedLines fuel .between r
  | fuel + 1, .between, c :: r =>
    if c = '\n' || isBlank c then quotedLines fuel .between r else quotedLines fuel .text (c :: r)
  | _, .text, '"' :: '"' :: '"' :: '"' :: '"' :: r => some (['"', '"'], r)
  | _, .text, '"' :: '"' :: '"' :: '"' :: r => some (['"'], r)
  | _, .text, '"' :: '"' :: '"' :: r => some ([], r)
  | fuel + 1, .text, '\\' :: 'u' :: a :: b :: c :: d :: r =>
    (scalar? [a, b, c, d]).bind (prepend · (quotedLines fuel .text r))
  | fuel + 1, .text, '\\' :: 'U' :: a :: b :: c :: d :: e :: f :: g :: h :: r =>
    (scalar? [a, b, c, d, e, f, g, h]).bind (prepend · (quotedLines fuel .text r))
  | fuel + 1, .text, '\\' :: e :: r =>
    match escape? e with
    | some c => prepend c (quotedLines fuel .text r)
    | none => quotedLines fuel .ending (e :: r)
  | fuel + 1, .text, '\r' :: '\n' :: r => prepend '\n' (quotedLines fuel .text r)
  | fuel + 1, .text, c :: r =>
    if c = '\n' || (isTextChar c && c != '\\') then prepend c (quotedLines fuel .text r) else none

/-- The rest of a string of several lines in single quotes. Line ends become line feeds. -/
def literalLines : Text → Option (Text × Text)
  | [] => none
  | '\'' :: '\'' :: '\'' :: '\'' :: '\'' :: r => some (['\'', '\''], r)
  | '\'' :: '\'' :: '\'' :: '\'' :: r => some (['\''], r)
  | '\'' :: '\'' :: '\'' :: r => some ([], r)
  | '\r' :: '\n' :: r => prepend '\n' (literalLines r)
  | c :: r => if c = '\n' || isTextChar c then prepend c (literalLines r) else none

/-- The text without a line end at its start. -/
def skipLineEnd : Text → Text
  | '\n' :: r => r
  | '\r' :: '\n' :: r => r
  | t => t

/-- A string in any of its forms. -/
def string? : Text → Option (Text × Text)
  | '"' :: '"' :: '"' :: r => quotedLines (2 * r.length + 1) .text (skipLineEnd r)
  | '\'' :: '\'' :: '\'' :: r => literalLines (skipLineEnd r)
  | '"' :: r => quoted r
  | '\'' :: r => literal r
  | _ => none

/-- Characters of numbers, dates and words. -/
def isTokenChar (c : Char) : Bool :=
  c.isAlphanum || "+-_.:".toList.contains c

/-- Digits without the single underscores between them. -/
def ungrouped? (isDigit : Char → Bool) (t : Text) : Option Text :=
  let groups := Text.pieces '_' t
  if groups.all fun g => g != [] && g.all isDigit then some groups.flatten else none

/-- A sign and what follows it. -/
def signed : Text → Bool × Text
  | '-' :: r => (true, r)
  | '+' :: r => (false, r)
  | t => (false, t)

/-- Decimal digits without leading zeros. -/
def decimal? (t : Text) : Option Text :=
  (ungrouped? Char.isDigit t).filter fun digits => digits.length = 1 || digits.head? != some '0'

/-- Whether a character is a hexadecimal digit. -/
def isHexDigit (c : Char) : Bool :=
  (Value.digit? c).isSome

/-- A whole number that fits into 64 bits with sign. -/
def integer? (t : Text) : Option Int :=
  let marked (base : Nat) (digits : Text) : Option Int :=
    ((ungrouped? isHexDigit digits).bind (Value.number? base)).map Int.ofNat
  let n : Option Int := match t with
    | '0' :: 'x' :: r => marked 16 r
    | '0' :: 'o' :: r => marked 8 r
    | '0' :: 'b' :: r => marked 2 r
    | _ =>
      let (negative, digits) := signed t
      ((decimal? digits).bind (Value.number? 10)).map fun n => if negative then -(n : Int) else (n : Int)
  n.filter fun n => -9223372036854775808 ≤ n && n ≤ 9223372036854775807

/-- The least number that is too large for a floating-point number of 64 bits: half a unit above the largest. -/
def floatLimit : Nat := Nat.pow 2 1024 - Nat.pow 2 970

/-- Whether `digits · 10 ^ exponent` reaches the limit. Most numbers are decided by their length alone. -/
def overflows (digits : Nat) (exponent : Int) : Bool :=
  let length : Int := (Nat.toDigits 10 digits).length + exponent
  if digits = 0 || length < 309 then false
  else if 309 < length then true
  else if 0 ≤ exponent then decide (floatLimit ≤ digits * Nat.pow 10 exponent.toNat)
  else decide (floatLimit * Nat.pow 10 (-exponent).toNat ≤ digits)

/-- Whether a text is a number with a point or an exponent, an infinity, or no number. A positive number may not
be too large. -/
def isFloat (t : Text) : Bool :=
  let (negative, body) := signed t
  let mantissa := body.takeWhile fun c => c != 'e' && c != 'E'
  let exponent := body.drop mantissa.length
  let whole := mantissa.takeWhile (· != '.')
  let fraction := mantissa.drop whole.length
  let digits (t : Text) : Option Text := ungrouped? Char.isDigit t
  let (down, power) := signed (exponent.drop 1)
  let fractionDigits := if fraction = [] then some [] else digits (fraction.drop 1)
  let powerDigits := if exponent = [] then some ['0'] else digits power
  body = "inf".toList || body = "nan".toList ||
    match decimal? whole, fractionDigits, powerDigits with
    | some w, some f, some p =>
      let number := (Value.number? 10 (w ++ f)).getD 0
      let power := (Value.number? 10 p).getD 0
      let power : Int := (if down then -(power : Int) else power) - f.length
      !(fraction = [] && exponent = []) && (negative || !overflows number power)
    | _, _, _ => false

/-- The value of a word, number or date. -/
def token? (t : Text) : Option Value :=
  if t = "true".toList then some (.bool true)
  else if t = "false".toList then some (.bool false)
  else
    match integer? t with
    | some n => some (.int n)
    | none => if isFloat t then some .foreign else (moment? t).map momentValue

/-- A scalar that is not a string. A date may be followed by a time after a blank. -/
def bare? (t : Text) : Option (Value × Text) :=
  let token := t.takeWhile isTokenChar
  let rest := t.drop token.length
  let time := (rest.drop 1).takeWhile isTokenChar
  match if rest.head? = some ' ' then dateTime? token time else none with
  | some moment => some (momentValue moment, rest.drop (time.length + 1))
  | none => (token? token).map fun v => (v, rest)

end Cleave.Toml
