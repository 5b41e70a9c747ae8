import Cleave.Data.Value
import Cleave.Shell.Decimal
import Cleave.Shell.Process

/-!
# Printing programs

`echo` and `printf` with their escapes, which may stand for single bytes.
-/

namespace Cleave.Shell

/-- The value of octal digits. -/
def octal (digits : Text) : Nat :=
  digits.foldl (fun n c => n * 8 + (c.toNat - '0'.toNat)) 0

/-- At most `n` octal digits at the start of a text. -/
def octalDigits (n : Nat) (t : Text) : Text :=
  (t.take n).takeWhile fun c => '0' ≤ c && c ≤ '7'

/-- The character that a letter after a backslash stands for. -/
def escape? (c : Char) : Option Char :=
  [('a', '\x07'), ('b', '\x08'), ('f', '\x0c'), ('n', '\n'), ('r', '\r'), ('t', '\t'), ('v', '\x0b'),
   ('\\', '\\')].lookup c

/-- The byte of an octal number. -/
def octalByte (digits : Text) : Bytes :=
  [(octal digits % 256).toUInt8]

/-- Text with escapes as `echo` reads them: octal numbers start with a zero, and `\c` ends all output. The result
tells whether the output goes on. -/
def unescapeEcho : (fuel : Nat) → Text → Bytes × Bool
  | 0, _ => ([], true)
  | _, [] => ([], true)
  | _, '\\' :: 'c' :: _ => ([], false)
  | fuel + 1, '\\' :: '0' :: r =>
    let digits := octalDigits 3 r
    let (rest, more) := unescapeEcho fuel (r.drop digits.length)
    (octalByte digits ++ rest, more)
  | fuel + 1, '\\' :: c :: r =>
    let (rest, more) := unescapeEcho fuel r
    match escape? c with
    | some x => (Utf8.encode [x] ++ rest, more)
    | none => (Utf8.encode ['\\', c] ++ rest, more)
  | fuel + 1, c :: r =>
    let (rest, more) := unescapeEcho fuel r
    (Utf8.encode [c] ++ rest, more)

/-- Prints its arguments, with a line end unless `-n` is given. -/
def echo (w : World) (args : List Text) : Ended :=
  let (bare, args) := match args with
    | ['-', 'n'] :: r => (true, r)
    | _ => (false, args)
  let line := Text.join [' '] args
  let (bytes, more) := unescapeEcho (line.length + 1) line
  { world := w, output := bytes ++ if more && !bare then Utf8.encode ['\n'] else [] }

/-- Whether an argument consists of options of the program `echo` outside of the shell. -/
def isEchoOption (arg : Text) : Bool :=
  match arg with
  | '-' :: c :: r => (c :: r).all fun x => "neE".toList.contains x
  | _ => false

/-- Prints its arguments as they are, unless the option `-e` asks for escapes. -/
def plainEcho (w : World) (args : List Text) : Ended :=
  let options := (args.takeWhile isEchoOption).flatMap (·.drop 1)
  let line := Text.join [' '] (args.dropWhile isEchoOption)
  let escapes := (options.filter fun c => c == 'e' || c == 'E').getLast? = some 'e'
  let (bytes, more) := if escapes then unescapeEcho (line.length + 1) line else (Utf8.encode line, true)
  { world := w, output := bytes ++ if more && !options.contains 'n' then Utf8.encode ['\n'] else [] }

/-- A directive of a format. -/
structure Directive where
  flags : Text := []
  width : Nat := 0
  precision : Option Nat := none
  kind : Char

namespace Directive

/-- Fills a form up to the width of the directive. A number may be filled with zeros after its sign. -/
def fill (d : Directive) (numeric : Bool) (sign body : Bytes) : Bytes :=
  let missing := d.width - (sign.length + body.length)
  if d.flags.contains '-' then sign ++ body ++ List.replicate missing 32
  else if numeric && d.flags.contains '0' then sign ++ List.replicate missing 48 ++ body
  else List.replicate missing 32 ++ sign ++ body

/-- The form of a string: at most as many bytes as the precision says. -/
def string (d : Directive) (bytes : Bytes) : Bytes :=
  d.fill false [] (match d.precision with
    | some n => bytes.take n
    | none => bytes)

/-- The sign of a number. -/
def sign (d : Directive) (negative : Bool) : Text :=
  if negative then ['-'] else if d.flags.contains '+' then ['+'] else if d.flags.contains ' ' then [' '] else []

/-- The form of a whole number. -/
def integer (d : Directive) (n : Int) : Bytes :=
  let unsigned := (Int.emod n (Nat.pow 2 64)).toNat
  let (mark, digits) : Text × Text := match d.kind with
    | 'x' => (if unsigned = 0 then [] else "0x".toList, Nat.toDigits 16 unsigned)
    | 'X' => (if unsigned = 0 then [] else "0X".toList, (Nat.toDigits 16 unsigned).map Char.toUpper)
    | 'o' => (if unsigned = 0 then [] else ['0'], Nat.toDigits 8 unsigned)
    | 'u' => ([], Text.ofNat unsigned)
    | _ => ([], Text.ofNat n.natAbs)
  let sign : Text :=
    if d.kind = 'd' || d.kind = 'i' then d.sign (decide (n < 0))
    else if d.flags.contains '#' then mark else []
  let digits := if d.precision = some 0 && n = 0 then [] else digits
  let digits := List.replicate (d.precision.getD 1 - digits.length) '0' ++ digits
  { d with flags := if d.precision.isSome then d.flags.filter (· != '0') else d.flags }.fill true
    (Utf8.encode sign) (Utf8.encode digits)

/-- The form of a number with a fraction. -/
def fraction (d : Directive) (x : Float) : Bytes :=
  let negative := Nat.pow 2 63 ≤ x.toBits.toNat
  let places := d.precision.getD 6
  let r := Ratio.ofFloat x
  let body := match d.kind with
    | 'e' => r.scientific 'e' places
    | 'E' => r.scientific 'E' places
    | 'g' => r.general 'e' places
    | 'G' => r.general 'E' places
    | _ => r.fixed places
  d.fill true (Utf8.encode (d.sign negative)) (Utf8.encode body)

end Directive

/-- The number at the start of a text, as arguments write it, and what follows it. -/
def leadingInteger (t : Text) : Int × Text :=
  let t := t.dropWhile Text.isBlankChar
  let (negative, body) := match t with
    | '-' :: r => (true, r)
    | '+' :: r => (false, r)
    | r => (false, r)
  let read (base : Nat) (digits : Text) : Nat × Text :=
    let run := digits.takeWhile fun c => (Value.digit? c).any (· < base)
    ((Value.number? base run).getD 0, digits.drop run.length)
  let (n, rest) := match body with
    | '0' :: x :: c :: r =>
      if (x = 'x' || x = 'X') && (Value.digit? c).isSome then read 16 (c :: r) else read 8 body
    | '0' :: _ => read 8 body
    | _ => if body.head?.any Char.isDigit then read 10 body else (0, t)
  (if negative then -(n : Int) else n, rest)

/-- The number with a fraction at the start of a text, and what follows it. -/
def leadingFraction (t : Text) : Float × Text :=
  let t := t.dropWhile Text.isBlankChar
  let (negative, body) := match t with
    | '-' :: r => (true, r)
    | '+' :: r => (false, r)
    | r => (false, r)
  let whole := body.takeWhile Char.isDigit
  let rest := body.drop whole.length
  let (places, rest) := match rest with
    | '.' :: r => let p := r.takeWhile Char.isDigit; (p, r.drop p.length)
    | r => ([], r)
  if whole = [] && places = [] then (0, t)
  else
    let (power, rest) : Int × Text := match rest with
      | c :: r =>
        if c = 'e' || c = 'E' then
          let (down, digits) := match r with
            | '-' :: s => (true, s)
            | '+' :: s => (false, s)
            | s => (false, s)
          let run := digits.takeWhile Char.isDigit
          if run = [] then (0, rest)
          else
            let n : Int := ((Value.number? 10 run).getD 0 : Nat)
            (if down then -n else n, digits.drop run.length)
        else (0, rest)
      | [] => (0, [])
    let digits := (Value.number? 10 (whole ++ places)).getD 0
    let power := power - places.length
    let x := if power < 0 then Float.ofScientific digits true power.natAbs
      else Float.ofScientific digits false power.natAbs
    (if negative then -x else x, rest)

/-- A format at work. -/
structure Formatting where
  output : Bytes := []
  errors : Text := []
  status : Nat := 0
  args : List Text
  /-- Whether nothing more is to be printed. -/
  stopped : Bool := false

namespace Formatting

/-- Adds bytes. -/
def put (f : Formatting) (bytes : Bytes) : Formatting :=
  { f with output := f.output ++ bytes }

/-- Takes the next argument. -/
def next (f : Formatting) : Option Text × Formatting :=
  (f.args.head?, { f with args := f.args.drop 1 })

/-- Adds a complaint. -/
def complain (f : Formatting) (status : Nat) (t : Text) : Formatting :=
  { f with status, errors := f.errors ++ "sh: 1: printf: ".toList ++ t ++ ['\n'] }

/-- Complains if something follows a number. -/
def checkRest (f : Formatting) (arg rest : Text) : Formatting :=
  if rest = [] then f
  else if rest = arg then f.complain 1 (arg ++ ": expected numeric value".toList)
  else f.complain 1 (arg ++ ": not completely converted".toList)

/-- Takes the next argument as a whole number. -/
def nextInteger (f : Formatting) : Int × Formatting :=
  match f.next with
  | (none, f) => (0, f)
  | (some arg, f) =>
    match arg with
    | '\'' :: c :: _ => (c.toNat, f)
    | '"' :: c :: _ => (c.toNat, f)
    | _ =>
      let (n, rest) := leadingInteger arg
      (n, f.checkRest arg rest)

/-- Takes the next argument as a number with a fraction. -/
def nextFraction (f : Formatting) : Float × Formatting :=
  match f.next with
  | (none, f) => (0, f)
  | (some arg, f) =>
    let (x, rest) := leadingFraction arg
    (x, f.checkRest arg rest)

/-- A number in a directive: digits, or a star that stands for the next argument. -/
def measure (f : Formatting) (t : Text) : Option Int × Formatting × Text :=
  match t with
  | '*' :: r =>
    let (n, f) := f.nextInteger
    (some n, f, r)
  | t =>
    let digits := t.takeWhile Char.isDigit
    ((Value.number? 10 digits).map fun n => (n : Int), f, t.drop digits.length)

/-- Prints by a directive; `t` starts after the sign `%`. -/
def directive (f : Formatting) (t : Text) : Formatting × Text :=
  let flags := t.takeWhile fun c => "#-+ 0".toList.contains c
  let (width, f, r) := f.measure (t.drop flags.length)
  let flags := if (width.getD 0) < 0 then '-' :: flags else flags
  let (precision, f, r) : Option Nat × Formatting × Text := match r with
    | '.' :: r =>
      let (n, f, r) := f.measure r
      (some (n.getD 0).toNat, f, r)
    | r => (none, f, r)
  match r with
  | [] => ({ f.complain 2 "missing format character".toList with stopped := true }, [])
  | kind :: rest =>
    let d : Directive := { flags, width := (width.getD 0).natAbs, precision, kind }
    if kind = 's' then
      let (arg, f) := f.next
      (f.put (d.string (Utf8.encode (arg.getD []))), rest)
    else if kind = 'b' then
      let (arg, f) := f.next
      let arg := arg.getD []
      let (bytes, more) := unescapeEcho (arg.length + 1) arg
      ({ f.put (d.string bytes) with stopped := !more }, rest)
    else if kind = 'c' then
      let (arg, f) := f.next
      (f.put (d.string ((Utf8.encode (arg.getD [])).take 1)), rest)
    else if "diouxX".toList.contains kind then
      let (n, f) := f.nextInteger
      (f.put (d.integer n), rest)
    else if "eEfFgG".toList.contains kind then
      let (x, f) := f.nextFraction
      (f.put (d.fraction x), rest)
    else
      let written := t.take (t.length - rest.length)
      ({ f.complain 2 ('%' :: written ++ ": invalid directive".toList) with stopped := true }, [])

/-- One pass over a format. -/
def pass : (fuel : Nat) → Text → Formatting → Formatting
  | 0, _, f => f
  | _, [], f => f
  | fuel + 1, '\\' :: r, f =>
    let digits := octalDigits 3 r
    if digits != [] then pass fuel (r.drop digits.length) (f.put (octalByte digits))
    else
      match r with
      | c :: rest =>
        match escape? c with
        | some x => pass fuel rest (f.put (Utf8.encode [x]))
        | none => pass fuel rest (f.put (Utf8.encode ['\\', c]))
      | [] => f.put (Utf8.encode ['\\'])
  | fuel + 1, '%' :: '%' :: r, f => pass fuel r (f.put (Utf8.encode ['%']))
  | fuel + 1, '%' :: r, f =>
    let (f, rest) := f.directive r
    if f.stopped then f else pass fuel rest f
  | fuel + 1, c :: r, f => pass fuel r (f.put (Utf8.encode [c]))

/-- Passes over a format until all arguments are used. -/
def passes (format : Text) : (fuel : Nat) → Formatting → Formatting
  | 0, f => f
  | fuel + 1, f =>
    let next := pass (format.length + 1) format f
    if next.stopped || next.args = [] || next.args.length = f.args.length then next
    else passes format fuel next

end Formatting

/-- Prints by a format. -/
def printf (w : World) (args : List Text) : Ended :=
  match if args.head? = some "--".toList then args.drop 1 else args with
  | [] => .complained w 2 "sh: 1: printf: usage: printf format [arg ...]".toList
  | format :: args =>
    let f := Formatting.passes format (args.length + 1) { args }
    { world := w, status := f.status, output := f.output, errors := Utf8.encode f.errors }

end Cleave.Shell
