import Cleave.Shell.Awk.Reader
import Cleave.Shell.Filters

/-!
# Running scripts over records

The rules of a script are applied to one record after the other. A value is a number or a text, as it is needed; a
text that comes from the input counts as a number if it looks like one.
-/

namespace Cleave.Shell.Awk

/-- A value. -/
inductive Datum
  /-- The value of a variable that has not been set. -/
  | unset
  | number (x : Float)
  | text (t : Text)
  /-- A text from the input. -/
  | input (t : Text)

namespace Datum

/-- The whole number of a number that is one. -/
def whole? (x : Float) : Option Int :=
  if x.isFinite && x == x.floor && x.abs < 1e18 then
    let n : Int := (Ratio.ofFloat x).numerator / (Ratio.ofFloat x).denominator
    some (if x < 0 then -n else n)
  else none

/-- The text of a number: as a whole number, or with six digits. -/
def numberText (x : Float) : Text :=
  match whole? x with
  | some n => (toString n).toList
  | none =>
    let sign := if x < 0 then ['-'] else []
    if x.isNaN then "nan".toList
    else if x.isInf then sign ++ "inf".toList
    else sign ++ (Ratio.ofFloat x).general 'e' 6

/-- A value as a text. -/
def toText : Datum → Text
  | unset => []
  | number x => numberText x
  | text t => t
  | input t => t

/-- A value as a number: the one at the start of a text. -/
def toNumber : Datum → Float
  | unset => 0
  | number x => x
  | text t => (leadingFraction t).1
  | input t => (leadingFraction t).1

/-- Whether a text looks like a number. -/
def isNumeral (t : Text) : Bool :=
  !Text.isBlank t && Text.isBlank (leadingFraction t).2

/-- Whether a value is compared as a number. -/
def isNumeric : Datum → Bool
  | unset => true
  | number _ => true
  | text _ => false
  | input t => isNumeral t

/-- Whether a value counts as true. -/
def isTrue : Datum → Bool
  | unset => false
  | number x => x != 0
  | text t => t != []
  | input t => if isNumeral t then (leadingFraction t).1 != 0 else t != []

/-- A truth value as a number. -/
def ofBool (b : Bool) : Datum :=
  number (if b then 1 else 0)

/-- A number that is not negative. -/
def ofNat (n : Nat) : Datum :=
  number n.toFloat

/-- Whether a comparison holds. -/
def compare (op : Comparison) (a b : Datum) : Bool :=
  let decide' (less equal : Bool) : Bool := match op with
    | .less => less
    | .lessOrEqual => less || equal
    | .equal => equal
    | .notEqual => !equal
    | .greaterOrEqual => !less
    | .greater => !less && !equal
  if a.isNumeric && b.isNumeric then decide' (a.toNumber < b.toNumber) (a.toNumber == b.toNumber)
  else decide' (decide (a.toText < b.toText)) (a.toText == b.toText)

end Datum

/-- The result of an operation. -/
def Operation.apply (op : Operation) (x y : Float) : Float :=
  match op with
  | add => x + y
  | sub => x - y
  | mul => x * y
  | div => x / y
  | mod =>
    let q := x / y
    x - y * (if q < 0 then q.ceil else q.floor)
  | pow => x ^ y

/-- How statements are left before their end. -/
inductive Leave
  | record
  | script
  | loop
  | round
  deriving DecidableEq, Repr

/-- A script at work. -/
structure Run where
  values : List (Text × Datum) := []
  tables : List (Text × List (Text × Datum)) := []
  record : Text := []
  fields : List Text := []
  /-- What has been printed, the last part first. -/
  output : List Bytes := []
  errors : List Bytes := []
  /-- Files that are written, with their content and whether that is added to the old one. -/
  files : List (Text × Bool × Bytes) := []
  leaving : Option Leave := none
  status : Nat := 0
  /-- The rules with two conditions that have seen the first one. -/
  opened : List Nat := []

namespace Run

/-- A variable as a text. -/
def setting (r : Run) (name : String) : Text :=
  ((r.values.lookup name.toList).map Datum.toText).getD []

/-- The parts of a text between separators: blanks, a character or a pattern. -/
def divide (separator t : Text) : List Text :=
  if t = [] then []
  else
    match separator with
    | [' '] =>
      ((Text.pieces ' ' (t.map fun c => if c = '\t' || c = '\n' then ' ' else c)).filter (· != []))
    | [] => t.map fun c => [c]
    | [c] => Text.pieces c t
    | source =>
      match regex? false false source with
      | none => [t]
      | some p =>
        let found := (p.findAll t).filter fun m => m.start < m.stop
        let starts := 0 :: found.map Pattern.Match.stop
        let stops := found.map Pattern.Match.start ++ [t.length]
        (starts.zip stops).map fun (a, b) => (t.take b).drop a

/-- The run on a new record. -/
def withRecord (r : Run) (t : Text) : Run :=
  { r with record := t, fields := divide (r.setting "FS") t }

/-- The run with other fields, which are joined to a record. -/
def withFields (r : Run) (fields : List Text) : Run :=
  { r with fields, record := Text.join (r.setting "OFS") fields }

/-- The value of a variable. -/
def value (r : Run) (name : Text) : Datum :=
  if name = "NF".toList then .ofNat r.fields.length else (r.values.lookup name).getD .unset

/-- The value of a field. -/
def fieldValue (r : Run) (i : Nat) : Datum :=
  if i = 0 then .input r.record
  else match r.fields[i - 1]? with
    | some t => .input t
    | none => .unset

/-- Sets a variable. -/
def setValue (r : Run) (name : Text) (v : Datum) : Run :=
  if name = "NF".toList then
    let n := v.toNumber.toUInt64.toNat
    r.withFields (r.fields.take n ++ List.replicate (n - r.fields.length) [])
  else { r with values := (name, v) :: r.values.filter (·.1 != name) }

/-- Sets a field. -/
def setField (r : Run) (i : Nat) (v : Datum) : Run :=
  if i = 0 then r.withRecord v.toText
  else
    let fields := r.fields ++ List.replicate (i - r.fields.length) []
    r.withFields (fields.take (i - 1) ++ v.toText :: fields.drop i)

/-- The entries of a table. -/
def table (r : Run) (name : Text) : List (Text × Datum) :=
  (r.tables.lookup name).getD []

/-- Sets the entries of a table. -/
def setTable (r : Run) (name : Text) (entries : List (Text × Datum)) : Run :=
  { r with tables := (name, entries) :: r.tables.filter (·.1 != name) }

/-- Sets an entry of a table. -/
def setItem (r : Run) (name key : Text) (v : Datum) : Run :=
  let entries := r.table name
  if (entries.lookup key).isSome then
    r.setTable name (entries.map fun e => if e.1 == key then (key, v) else e)
  else r.setTable name (entries ++ [(key, v)])

/-- Prints to the output, or to a file. -/
def put (r : Run) (bytes : Bytes) (file : Option (Bool × Text)) : Run :=
  match file with
  | none => { r with output := bytes :: r.output }
  | some (append, name) =>
    if name = "/dev/stdout".toList then { r with output := bytes :: r.output }
    else if name = "/dev/stderr".toList then { r with errors := bytes :: r.errors }
    else
      match r.files.lookup name with
      | some (append, old) =>
        { r with files := r.files.map fun f => if f.1 == name then (name, append, old ++ bytes) else f }
      | none => { r with files := r.files ++ [(name, append, bytes)] }

end Run

/-- The first match of a dynamic pattern. -/
def patternOf (t : Text) : Option Pattern :=
  regex? false false t

/-- The text that takes the place of a match: `&` stands for the match, unless a backslash is before it. -/
def substitute (found : Text) : Text → Text
  | '\\' :: '&' :: r => '&' :: substitute found r
  | '\\' :: '\\' :: r => '\\' :: substitute found r
  | '&' :: r => found ++ substitute found r
  | c :: r => c :: substitute found r
  | [] => []

/-- A text from a position on, in which matches are replaced. -/
def substituteFrom (template t : Text) : (index : Nat) → Text → List Pattern.Match → Text
  | _, rest, [] => rest
  | index, rest, m :: ms =>
    rest.take (m.start - index) ++ substitute ((m.group? t 0).getD []) template ++
      substituteFrom template t m.stop (rest.drop (m.stop - index)) ms

/-- A format with its values: each directive takes one. -/
def format : (fuel : Nat) → Text → List Datum → Bytes
  | 0, _, _ => []
  | _, [], _ => []
  | fuel + 1, '%' :: '%' :: r, args => 37 :: format fuel r args
  | fuel + 1, '%' :: r, args =>
    let flags := r.takeWhile fun c => "#-+ 0".toList.contains c
    let measure (t : Text) (args : List Datum) : Option Int × Text × List Datum := match t with
      | '*' :: r => (some ((Datum.whole? (args.head?.getD .unset).toNumber).getD 0), r, args.drop 1)
      | t =>
        let digits := t.takeWhile Char.isDigit
        ((Pattern.number? digits).map fun n => (n : Int), t.drop digits.length, args)
    let (width, t, args) := measure (r.drop flags.length) args
    let (precision, t, args) : Option Nat × Text × List Datum := match t with
      | '.' :: t => let (n, t, args) := measure t args; (some (n.getD 0).toNat, t, args)
      | t => (none, t, args)
    match t with
    | [] => Utf8.encode ('%' :: r)
    | kind :: rest =>
      let flags := if (width.getD 0) < 0 then '-' :: flags else flags
      let d : Directive := { flags, width := (width.getD 0).natAbs, precision, kind }
      let arg := args.head?.getD .unset
      let bytes : Bytes :=
        if kind = 's' then d.string (Utf8.encode arg.toText)
        else if kind = 'c' then
          d.string (Utf8.encode (match arg with
            | .number x => [Char.ofNat x.toUInt64.toNat]
            | arg => arg.toText.take 1))
        else if "diouxX".toList.contains kind then
          let x := arg.toNumber
          d.integer ((Datum.whole? (if x < 0 then x.ceil else x.floor)).getD 0)
        else if "eEfFgG".toList.contains kind then d.fraction arg.toNumber
        else Utf8.encode ('%' :: r.take (r.length - rest.length))
      bytes ++ format fuel rest (args.drop 1)
  | fuel + 1, c :: r, args => Utf8.encode [c] ++ format fuel r args

/-- The part of a text from a position on, counted from one. -/
def substr (t : Text) (start : Float) (count : Option Float) : Text :=
  let rounded (x : Float) : Int := (Datum.whole? x.round).getD (if x < 0 then -1000000000 else 1000000000)
  let first := rounded start
  let last : Int := match count with
    | some n => first + rounded n
    | none => t.length + 1
  let from' := max first 1
  (t.drop (from'.toNat - 1)).take (last - from').toNat

/-- The result of a function that changes nothing. -/
def Run.pureCall (r : Run) (name : Text) (args : List Datum) : Datum :=
  let arg (i : Nat) : Datum := (args[i]?).getD .unset
  let x := (arg 0).toNumber
  match String.ofList name with
  | "length" => .ofNat (Text.byteLength (if args.isEmpty then r.record else (arg 0).toText))
  | "substr" => .text (substr (arg 0).toText (arg 1).toNumber ((args[2]?).map Datum.toNumber))
  | "index" =>
    let t := (arg 0).toText
    let needle := (arg 1).toText
    let found := (List.range (t.length + 1)).find? fun i => needle.isPrefixOf (t.drop i)
    .ofNat (if needle = [] then 0 else found.elim 0 (· + 1))
  | "sprintf" =>
    let t := (arg 0).toText
    .text (Utf8.decodeLenient (format (t.length + 1) t (args.drop 1)))
  | "tolower" => .text ((arg 0).toText.map Char.toLower)
  | "toupper" => .text ((arg 0).toText.map Char.toUpper)
  | "int" => .number (if x < 0 then x.ceil else x.floor)
  | "sqrt" => .number x.sqrt
  | "exp" => .number x.exp
  | "log" => .number x.log
  | "sin" => .number x.sin
  | "cos" => .number x.cos
  | "atan2" => .number (Float.atan2 x (arg 1).toNumber)
  | _ => .number 0

/-- The key of an entry with several parts. -/
def keyOf (parts : List Datum) : Text :=
  Text.join ['\x1c'] (parts.map Datum.toText)

/-- The pattern that an expression stands for, if it is written as one. -/
def Expr.pattern? : Expr → Option Pattern
  | pattern p => some p
  | _ => none

/-- The name of a variable, if an expression is one. -/
def Expr.name? : Expr → Option Text
  | named t => some t
  | _ => none

mutual

/-- The value of an expression. -/
def eval (r : Run) : Expr → Run × Datum
  | .number x => (r, .number x)
  | .text t => (r, .text t)
  | .pattern p => (r, .ofBool (p.occursIn r.record))
  | .named name => (r, r.value name)
  | .item name key =>
    let (r, parts) := evalAll r key
    match (r.table name).lookup (keyOf parts) with
    | some v => (r, v)
    | none => (r.setItem name (keyOf parts) .unset, .unset)
  | .field index =>
    let (r, i) := eval r index
    (r, r.fieldValue i.toNumber.toUInt64.toNat)
  | .assign op target value =>
    let (r, v) := eval r value
    match op with
    | none => store r target v
    | some op =>
      let (r, old) := eval r target
      store r target (.number (op.apply old.toNumber v.toNumber))
  | .change delta before target =>
    let (r, old) := eval r target
    let (r, v) := store r target (.number (old.toNumber + delta))
    (r, if before then .number old.toNumber else v)
  | .negative e => let (r, v) := eval r e; (r, .number (-v.toNumber))
  | .positive e => let (r, v) := eval r e; (r, .number v.toNumber)
  | .not e => let (r, v) := eval r e; (r, .ofBool (!v.isTrue))
  | .calculate op a b =>
    let (r, x) := eval r a
    let (r, y) := eval r b
    (r, .number (op.apply x.toNumber y.toNumber))
  | .compare op a b =>
    let (r, x) := eval r a
    let (r, y) := eval r b
    (r, .ofBool (Datum.compare op x y))
  | .join a b =>
    let (r, x) := eval r a
    let (r, y) := eval r b
    (r, .text (x.toText ++ y.toText))
  | .both a b =>
    let (r, x) := eval r a
    if !x.isTrue then (r, .ofBool false)
    else let (r, y) := eval r b; (r, .ofBool y.isTrue)
  | .either a b =>
    let (r, x) := eval r a
    if x.isTrue then (r, .ofBool true)
    else let (r, y) := eval r b; (r, .ofBool y.isTrue)
  | .choose c yes no =>
    let (r, x) := eval r c
    if x.isTrue then eval r yes else eval r no
  | .fits negated e p =>
    let (r, v) := eval r e
    match p with
    | .pattern p => (r, .ofBool (p.occursIn v.toText != negated))
    | p =>
      let (r, source) := eval r p
      (r, .ofBool (((patternOf source.toText).any fun p => p.occursIn v.toText) != negated))
  | .member key name =>
    let (r, parts) := evalAll r key
    (r, .ofBool ((r.table name).lookup (keyOf parts)).isSome)
  | .call name args =>
    let (r, values) := evalAll r args
    let arg (i : Nat) : Text := ((values[i]?).getD .unset).toText
    let pattern (i : Nat) : Option Pattern := ((args[i]?).bind Expr.pattern?).or (patternOf (arg i))
    match String.ofList name with
    | "split" =>
      let parts := match (args[2]?).bind Expr.pattern? with
        | some p =>
          let t := arg 0
          let found := p.findAll t
          if t = [] then []
          else ((0 :: found.map Pattern.Match.stop).zip (found.map Pattern.Match.start ++ [t.length])).map
            fun (a, b) => (t.take b).drop a
        | none => Run.divide (if args.length < 3 then r.setting "FS" else arg 2) (arg 0)
      let entries := parts.zipIdx.map fun (t, i) => (Text.ofNat (i + 1), Datum.input t)
      (r.setTable (((args[1]?).bind Expr.name?).getD []) entries, .ofNat parts.length)
    | "match" =>
      match (pattern 1).bind fun p => p.find? (arg 0) with
      | some m =>
        ((r.setValue "RSTART".toList (.ofNat (m.start + 1))).setValue "RLENGTH".toList (.ofNat (m.stop - m.start)),
          .ofNat (m.start + 1))
      | none => ((r.setValue "RSTART".toList (.ofNat 0)).setValue "RLENGTH".toList (.number (-1)), .ofNat 0)
    | "length" =>
      match (args.head?.bind Expr.name?).bind fun name => r.tables.lookup name with
      | some entries => (r, .ofNat entries.length)
      | none => (r, r.pureCall name values)
    | "sub" => replace r (pattern 0) (arg 1) false args
    | "gsub" => replace r (pattern 0) (arg 1) true args
    | _ => (r, r.pureCall name values)

/-- The values of expressions. -/
def evalAll (r : Run) : List Expr → Run × List Datum
  | [] => (r, [])
  | e :: es =>
    let (r, v) := eval r e
    let (r, vs) := evalAll r es
    (r, v :: vs)

/-- Gives a target a value. -/
def store (r : Run) (target : Expr) (v : Datum) : Run × Datum :=
  match target with
  | .named name => (r.setValue name v, v)
  | .item name key =>
    let (r, parts) := evalAll r key
    (r.setItem name (keyOf parts) v, v)
  | .field index =>
    let (r, i) := eval r index
    (r.setField i.toNumber.toUInt64.toNat v, v)
  | _ => (r, v)

/-- Replaces one match or all of them in the last of three arguments, or in the record. -/
def replace (r : Run) (p : Option Pattern) (template : Text) (all : Bool) : List Expr → Run × Datum
  | [_, _, target] =>
    let (r, old) := eval r target
    let (t, n) := replaced p template all old.toText
    if n = 0 then (r, .ofNat 0) else ((store r target (.text t)).1, .ofNat n)
  | _ =>
    let (t, n) := replaced p template all r.record
    if n = 0 then (r, .ofNat 0) else (r.withRecord t, .ofNat n)
where
  /-- A text with replaced matches and their number. -/
  replaced (p : Option Pattern) (template : Text) (all : Bool) (t : Text) : Text × Nat :=
    let found := (p.map fun p => p.findAll t).getD []
    let found := if all then found else found.take 1
    (substituteFrom template t 0 t found, found.length)

end

end Cleave.Shell.Awk
