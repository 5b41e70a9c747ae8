import Cleave.Shell.Search
import Cleave.Shell.Wildcard

/-!
# Filters

Programs that read files or their input and print a part or another form of it.
-/

namespace Cleave.Shell

/-- The content of files one after the other, or the input; complaints are collected. -/
def contentsOf (name : String) (w : World) (files : List Text) (input : Bytes) : Bytes × Ended :=
  if files = [] then (input, { world := w, consumed := true })
  else
    files.foldl (fun (bytes, e) file =>
      if isInput file then (bytes ++ input, { e with consumed := true })
      else match contentOf name w file with
        | .ok more => (bytes ++ more, e)
        | .error t => (bytes, e.andThen fun w => .complained w 1 t)) ([], { world := w })

/-- A filter that prints a form of all its input. -/
def filtered (name : String) (w : World) (files : List Text) (input : Bytes) (f : Bytes → Bytes) : Ended :=
  let (bytes, e) := contentsOf name w files input
  { e with output := f bytes }

/-- The lines of bytes, each with its line end. -/
def byteLines : Bytes → List Bytes
  | [] => []
  | b :: r =>
    if b = 10 then [b] :: byteLines r
    else
      match byteLines r with
      | [] => [[b]]
      | line :: lines => (b :: line) :: lines

/-- The lines of bytes as texts without line ends. -/
def textLines (bytes : Bytes) : List Text :=
  (byteLines bytes).map fun line => Utf8.decodeLenient (if line.getLast? = some 10 then line.dropLast else line)

/-- Lines as bytes, each with a line end. -/
def ofLines (lines : List Text) : Bytes :=
  Utf8.encode (lines.flatMap (· ++ ['\n']))

/-- A text in quotes. -/
def inQuotes (t : Text) : Text :=
  '\'' :: t ++ ['\'']

/-- Prints files, or its input. -/
def cat : Program := fun w args input =>
  let o := Options.of "" args [("number", 'n'), ("number-nonblank", 'b'), ("squeeze-blank", 's'), ("show-ends", 'E'),
    ("show-tabs", 'T'), ("show-all", 'A')]
  let ends := o.has 'E' || o.has 'A' || o.has 'e'
  let tabs := o.has 'T' || o.has 'A' || o.has 't'
  let shown (line : Bytes) : Bytes :=
    let line := if tabs then line.flatMap fun b => if b = 9 then [94, 73] else [b] else line
    if ends && line.getLast? = some 10 then line.dropLast ++ [36, 10] else line
  let numbered (n : Nat) (line : Bytes) : Bytes :=
    Utf8.encode (List.replicate (6 - (Text.ofNat n).length) ' ' ++ Text.ofNat n ++ ['\t']) ++ line
  filtered "cat" w o.rest input fun bytes =>
    if o.letters = [] then bytes
    else
      let lines := byteLines bytes
      let lines := if o.has 's' then (lines.splitBy fun a b => a == [10] && b == [10]).filterMap List.head? else lines
      (lines.foldl (fun ((parts, n) : List Bytes × Nat) line =>
        if o.has 'b' && line = [10] then (shown line :: parts, n)
        else if o.has 'n' || o.has 'b' then (numbered n (shown line) :: parts, n + 1)
        else (shown line :: parts, n)) ([], 1)).1.reverse.flatten

/-- Prints lines from the last to the first. -/
def tac : Program := fun w args input =>
  filtered "tac" w (Options.of "" args).rest input fun bytes => (byteLines bytes).reverse.flatten

/-- Prints lines with their characters in reverse. -/
def rev : Program := fun w args input =>
  filtered "rev" w args input fun bytes => ofLines ((textLines bytes).map List.reverse)

/-- Numbers the lines that are not empty, or all lines. -/
def nl : Program := fun w args input =>
  let o := Options.of "bwsvi" args
  filtered "nl" w o.rest input fun bytes =>
    ofLines ((textLines bytes).foldl (fun ((lines, n) : List Text × Nat) line =>
      if line = [] && o.value? 'b' != some ['a'] then (lines ++ [List.replicate 7 ' '], n)
      else
        let number := Text.ofNat n
        (lines ++ [List.replicate (6 - number.length) ' ' ++ number ++ '\t' :: line], n + 1)) ([], 1)).1

/-- How much of a file is printed. -/
structure Extent where
  count : Nat := 10
  /-- Whether bytes are counted and not lines. -/
  bytes : Bool := false
  /-- A sign before the number changes which end it counts from. -/
  sign : Option Char := none

/-- A number with an optional sign. -/
def signedCount? (t : Text) : Option (Option Char × Nat) :=
  match t with
  | c :: r =>
    if c = '+' || c = '-' then (Pattern.number? r).map (some c, ·)
    else if c.isDigit then (Pattern.number? t).map (none, ·)
    else none
  | [] => none

/-- The arguments of a program that prints a part of files: `-n 5`, `-n5`, `-5` or `-c 5`. -/
def extent? : (fuel : Nat) → List Text → Extent → Option (Extent × Bool × List Text)
  | 0, _, _ => none
  | _, [], e => some (e, false, [])
  | fuel + 1, arg :: args, e =>
    let counted (bytes : Bool) (t : Text) (args : List Text) : Option (Extent × Bool × List Text) := do
      let (sign, count) ← signedCount? t
      extent? fuel args { count, bytes, sign }
    match arg with
    | ['-', 'n'] => args.head?.bind fun t => counted false t (args.drop 1)
    | ['-', 'c'] => args.head?.bind fun t => counted true t (args.drop 1)
    | '-' :: '-' :: name =>
      match Text.dropStart? "lines=".toList name, Text.dropStart? "bytes=".toList name with
      | some t, _ => counted false t args
      | _, some t => counted true t args
      | none, none => extent? fuel args e
    | '-' :: 'n' :: t => counted false t args
    | '-' :: 'c' :: t => counted true t args
    | ['-', 'q'] => (extent? fuel args e).map fun (e, _, files) => (e, true, files)
    | '-' :: c :: t =>
      if c.isDigit then counted false (c :: t) args else none
    | _ => (extent? fuel args e).map fun (e, quiet, files) => (e, quiet, arg :: files)

/-- Prints the part of each file that `select` keeps, under its name if there are several. -/
def excerpt (name : String) (select : Extent → List Bytes → List Bytes) : Program := fun w args input =>
  match extent? (args.length + 1) args {} with
  | none => .complained w 1 (name.toList ++ ": invalid number of lines: ".toList ++ inQuotes (args[1]?.getD []))
  | some (e, quiet, files) =>
    let units (bytes : Bytes) : List Bytes := if e.bytes then bytes.map fun b => [b] else byteLines bytes
    let one (w : World) (heading : Text) (bytes : Bytes) : Ended :=
      { world := w, output := Utf8.encode heading ++ (select e (units bytes)).flatten }
    if files = [] then { one w [] input with consumed := true }
    else
      let headed := 1 < files.length && !quiet
      let results := files.zipIdx.map fun (file, i) =>
        let heading := if headed then
            (if i = 0 then [] else ['\n']) ++ "==> ".toList ++ file ++ " <==\n".toList
          else []
        if isInput file then { one w heading input with consumed := true }
        else match w.disk.read w.cwd ⟨file⟩ with
          | .ok bytes => one w heading bytes
          | .error err =>
            .complained w 1 (name.toList ++ ": cannot open '".toList ++ file ++ "' for reading: ".toList ++
              shortMessage err)
      results.foldl (fun e r => e.andThen fun _ => r) { world := w }

/-- Prints the first lines; with a minus sign all but the last ones. -/
def head : Program := excerpt "head" fun e units =>
  if e.sign = some '-' then units.take (units.length - e.count) else units.take e.count

/-- Prints the last lines; with a plus sign all from the one with that number on, also without an option. -/
def tail : Program := fun w args input =>
  let print := excerpt "tail" fun e units =>
    if e.sign = some '+' then units.drop (e.count - 1) else units.drop (units.length - e.count)
  match args with
  | ('+' :: n) :: files =>
    if n != [] && n.all Char.isDigit then print w ("-n".toList :: ('+' :: n) :: files) input else print w args input
  | ('-' :: n) :: _ :: _ :: _ =>
    if n != [] && n.all Char.isDigit then
      .complained w 1 ("tail: option used in invalid context -- ".toList ++ n.take 1)
    else print w args input
  | args => print w args input

/-- Counts lines, words and bytes. -/
def wc : Program := fun w args input =>
  let o := Options.of "" args [("lines", 'l'), ("words", 'w'), ("bytes", 'c'), ("chars", 'm')]
  let words (bytes : Bytes) : Nat :=
    ((Text.pieces ' ' ((Utf8.decodeLenient bytes).map fun c => if Text.isBlankChar c then ' ' else c)).filter
      (· != [])).length
  let all := o.letters.all fun c => !"lwcmL".toList.contains c
  let counts (bytes : Bytes) : List Nat :=
    (if all || o.has 'l' then [bytes.count 10] else []) ++ (if all || o.has 'w' then [words bytes] else []) ++
      (if o.has 'm' then [bytes.length] else []) ++ (if all || o.has 'c' then [bytes.length] else []) ++
      (if o.has 'L' then [((byteLines bytes).map fun line => (line.filter (· != 10)).length).foldl max 0] else [])
  let read (file : Text) : Except Text Bytes := if isInput file then .ok input else contentOf "wc" w file
  let contents := o.rest.map fun file => (file, read file)
  let total := contents.flatMap fun (_, c) => c.toOption.getD []
  let rows : List (List Nat × Text) :=
    if o.rest = [] then [(counts input, [])]
    else contents.filterMap (fun (file, c) => c.toOption.map fun bytes => (counts bytes, ' ' :: file)) ++
      if 1 < o.rest.length then [(counts total, " total".toList)] else []
  let columns := (rows.head?.map fun r => r.1.length).getD 1
  let width :=
    if columns = 1 && o.rest.length ≤ 1 then 1
    else if o.rest = [] then 7
    else (Text.ofNat total.length).length
  let line (row : List Nat × Text) : Text :=
    Text.join [' '] (row.1.map fun n =>
      List.replicate (width - (Text.ofNat n).length) ' ' ++ Text.ofNat n) ++ row.2 ++ ['\n']
  let complaints := contents.flatMap fun (_, c) => match c with
    | .ok _ => []
    | .error t => t ++ ['\n']
  { world := w, output := Utf8.encode (rows.flatMap line), errors := Utf8.encode complaints
    status := if complaints = [] then 0 else 1, consumed := readsInput o.rest }

/-- A number with decimals: all its digits, and how many of them stand after the point. -/
def decimal? (t : Text) : Option (Int × Nat) :=
  let (isNegative, t) := match t with
    | '-' :: r => (true, r)
    | t => (false, t)
  let whole := t.takeWhile (· != '.')
  let decimals := t.drop (whole.length + 1)
  (Pattern.number? (whole ++ decimals)).map fun n => (if isNegative then -(n : Int) else n, decimals.length)

/-- The text of a number with decimals. -/
def decimalText (places : Nat) (n : Int) : Text :=
  let digits := Text.ofNat n.natAbs
  let digits := List.replicate (places + 1 - digits.length) '0' ++ digits
  let split := digits.length - places
  (if n < 0 then ['-'] else []) ++ digits.take split ++ if places = 0 then [] else '.' :: digits.drop split

/-- The arguments of `seq`: what stands between numbers, whether they are as wide as the widest, and the rest. -/
def seqArguments : (fuel : Nat) → List Text → Text × Bool × List Text
  | fuel + 1, ['-', 's'] :: sep :: args => let (_, wide, rest) := seqArguments fuel args; (sep, wide, rest)
  | fuel + 1, ('-' :: 's' :: sep) :: args => let (_, wide, rest) := seqArguments fuel args; (sep, wide, rest)
  | fuel + 1, ['-', 'w'] :: args => let (sep, _, rest) := seqArguments fuel args; (sep, true, rest)
  | _, args => (['\n'], false, args)

/-- Prints the numbers of a range. -/
def seq : Program := fun w args _ =>
  let (separator, wide, rest) := seqArguments (args.length + 1) args
  let numbers := rest.mapM decimal?
  let print (first step last : Int × Nat) : Ended :=
    let places := max first.2 step.2
    let scale := max places last.2
    let scaled (n : Int × Nat) : Int := n.1 * Nat.pow 10 (scale - n.2)
    let (a, d, b) := (scaled first, scaled step, scaled last)
    let count := if d = 0 then 0 else if (0 < d) = (a ≤ b) || a = b then ((b - a) / d).toNat + 1 else 0
    let values := (List.range count).map fun (i : Nat) =>
      decimalText places ((a + d * (i : Int)) / Nat.pow 10 (scale - places))
    let width := if wide then (values.map List.length).foldl max 0 else 0
    let padded := values.map fun t => List.replicate (width - t.length) '0' ++ t
    .printed w (if values = [] then [] else Text.join separator padded ++ ['\n'])
  match numbers with
  | some [last] => print (1, 0) (1, 0) last
  | some [first, last] => print first (1, 0) last
  | some [first, step, last] => print first step last
  | some [] => .misused w 1 "seq" "missing operand".toList
  | some _ => .misused w 1 "seq" ("extra operand ".toList ++ inQuotes (rest[3]?.getD []))
  | none =>
    let fault := (rest.find? fun t => (decimal? t).isNone).getD []
    .misused w 1 "seq" ("invalid floating point argument: ".toList ++ inQuotes fault)

/-- The number at the start of a text. -/
def leadingNumber (t : Text) : Int :=
  let t := t.dropWhile Text.isBlankChar
  match t with
  | '-' :: r => -(((Pattern.number? (r.takeWhile Char.isDigit)).getD 0 : Nat) : Int)
  | t => (((Pattern.number? (t.takeWhile Char.isDigit)).getD 0 : Nat) : Int)

/-- The fields of a line: between separators, or each with the blanks before it. -/
def fieldsOf (separator : Option Char) (line : Text) : List Text :=
  match separator with
  | some c => Text.pieces c line
  | none => ((Text.pieces ' ' (line.map fun c => if c = '\t' then ' ' else c)).filter (· != []))

/-- Prints its lines in order. -/
def sort : Program := fun w args input =>
  let o := Options.of "kto" args
    [("reverse", 'r'), ("numeric-sort", 'n'), ("unique", 'u'), ("key", 'k'), ("field-separator", 't'),
     ("ignore-case", 'f'), ("check", 'c'), ("output", 'o')]
  let (bytes, e) := contentsOf "sort" w o.rest input
  let separator := (o.value? 't').bind List.head?
  let keySpec := o.value? 'k'
  let column := (keySpec.bind fun k => Pattern.number? (k.takeWhile Char.isDigit))
  let keyLetters := (keySpec.getD []).filter Char.isAlpha
  let has (c : Char) : Bool := o.has c || keyLetters.contains c
  let one := (keySpec.getD []).contains ','
  let key (line : Text) : Text :=
    let part := match column with
      | some n =>
        let fields := (fieldsOf separator line).drop (n - 1)
        if one then fields.head?.getD [] else Text.join [separator.getD ' '] fields
      | none => line
    if has 'f' then part.map Char.toUpper else part
  let before (a b : Text) : Bool :=
    if has 'n' then
      if leadingNumber (key a) = leadingNumber (key b) then !(decide (b < a))
      else decide (leadingNumber (key a) < leadingNumber (key b))
    else if key a = key b then !(decide (b < a))
    else !(decide (key b < key a))
  let same (a b : Text) : Bool :=
    if has 'n' then leadingNumber (key a) == leadingNumber (key b) else key a == key b
  let lines := textLines bytes
  let sorted := lines.mergeSort (if has 'r' then fun a b => before b a else before)
  let kept := if o.has 'u' then (sorted.splitBy same).filterMap List.head? else sorted
  if o.has 'c' then
    .withStatus w (if sorted = lines then 0 else 1)
  else
    match o.value? 'o' with
    | some file => perform "sort" w file (Effect.writeFile ⟨file⟩ (ofLines kept))
    | none => { e with status := if e.status = 0 then 0 else 2, output := if e.status = 0 then ofLines kept else [] }

/-- Prints one line for each run of equal lines. -/
def uniq : Program := fun w args input =>
  let o := Options.of "fsw" args [("count", 'c'), ("repeated", 'd'), ("unique", 'u'), ("ignore-case", 'i')]
  let key (line : Text) : Text := if o.has 'i' then line.map Char.toLower else line
  filtered "uniq" w (o.rest.take 1) input fun bytes =>
    let runs := (textLines bytes).splitBy fun a b => key a == key b
    let runs := if o.has 'd' then runs.filter (2 ≤ ·.length)
      else if o.has 'u' then runs.filter (·.length = 1) else runs
    ofLines (runs.filterMap fun run => run.head?.map fun line =>
      if o.has 'c' then
        let n := Text.ofNat run.length
        List.replicate (7 - n.length) ' ' ++ n ++ ' ' :: line
      else line)

/-- The ranges of a list such as `1,3-5,7-`. -/
def ranges? (t : Text) : Option (List (Nat × Option Nat)) :=
  (Text.pieces ',' t).mapM fun part =>
    match Text.pieces '-' part with
    | [a] => (Pattern.number? a).map fun n => (n, some n)
    | [a, b] => do
      let first ← if a = [] then some 1 else Pattern.number? a
      let last ← if b = [] then some none else (Pattern.number? b).map some
      return (first, last)
    | _ => none

/-- Prints parts of each line. -/
def cut : Program := fun w args input =>
  let o := Options.of "cbfd" args
    [("characters", 'c'), ("bytes", 'b'), ("fields", 'f'), ("delimiter", 'd'), ("only-delimited", 's')]
  let list := (o.value? 'c').or ((o.value? 'b').or (o.value? 'f'))
  let delimiter := ((o.value? 'd').bind List.head?).getD '\t'
  match list.bind ranges? with
  | none => .misused w 1 "cut" "you must specify a list of bytes, characters, or fields".toList
  | some ranges =>
    let chosen (i : Nat) : Bool := ranges.any fun (a, b) => a ≤ i + 1 && b.all fun b => decide (i + 1 ≤ b)
    let pick {α : Type} (xs : List α) : List α := (xs.zipIdx.filter fun x => chosen x.2).map Prod.fst
    filtered "cut" w o.rest input fun bytes =>
      if (o.value? 'f').isSome then
        ofLines ((textLines bytes).filterMap fun line =>
          if !line.contains delimiter then (if o.has 's' then none else some line)
          else some (Text.join [delimiter] (pick (Text.pieces delimiter line))))
      else
        (byteLines bytes).flatMap fun line =>
          let body := if line.getLast? = some 10 then line.dropLast else line
          pick body ++ [10]

/-- The control characters by the letters that stand for them after a backslash. -/
def controls : List (Char × Char) :=
  [('n', '\n'), ('t', '\t'), ('r', '\r'), ('a', '\x07'), ('b', '\x08'), ('f', '\x0c'), ('v', '\x0b')]

/-- The characters that a set of `tr` lists: with escapes, ranges and classes. -/
def setChars : (fuel : Nat) → Text → List Char
  | 0, _ => []
  | _, [] => []
  | fuel + 1, '[' :: ':' :: r =>
    let name := r.takeWhile (· != ':')
    match classOf name with
    | some p => ((List.range 128).map Char.ofNat).filter p ++ setChars fuel (r.drop (name.length + 2))
    | none => '[' :: setChars fuel (':' :: r)
  | fuel + 1, '[' :: c :: '*' :: r =>
    let digits := r.takeWhile Char.isDigit
    match r.drop digits.length with
    | ']' :: rest => List.replicate ((Pattern.number? digits).getD 1) c ++ setChars fuel rest
    | _ => '[' :: setChars fuel (c :: '*' :: r)
  | fuel + 1, '\\' :: c :: r =>
    let digits := ((c :: r).take 3).takeWhile fun d => '0' ≤ d && d ≤ '7'
    if digits != [] then
      Char.ofNat (digits.foldl (fun n d => n * 8 + (d.toNat - '0'.toNat)) 0) ::
        setChars fuel ((c :: r).drop digits.length)
    else (controls.lookup c).getD c :: setChars fuel r
  | fuel + 1, a :: '-' :: b :: r =>
    if a ≤ b then
      (List.range (b.toNat - a.toNat + 1)).map (fun i => Char.ofNat (a.toNat + i)) ++ setChars fuel r
    else a :: setChars fuel ('-' :: b :: r)
  | fuel + 1, c :: r => c :: setChars fuel r

/-- Drops repeated characters of a set. -/
def squeezed (p : Char → Bool) : Option Char → Text → Text
  | _, [] => []
  | last, c :: r => if p c && last = some c then squeezed p last r else c :: squeezed p (some c) r

/-- Replaces or drops characters of its input. -/
def tr : Program := fun w args input =>
  let o := Options.of "" args [("delete", 'd'), ("squeeze-repeats", 's'), ("complement", 'c')]
  let set (t : Text) : List Char := setChars (t.length + 1) t
  let text := Utf8.decodeLenient input
  let print (t : Text) : Ended := { Ended.printed w t with consumed := true }
  match o.rest.map set with
  | [] => .misused w 1 "tr" "missing operand".toList
  | first :: more =>
    let complement := o.has 'c' || o.has 'C'
    let inFirst (c : Char) : Bool := first.contains c != complement
    let second := more.head?.getD []
    if o.has 'd' then
      let left := text.filter fun c => !inFirst c
      print (if o.has 's' then squeezed second.contains none left else left)
    else if more = [] then
      if o.has 's' then print (squeezed inFirst none text)
      else .misused w 1 "tr" ("missing operand after ".toList ++ inQuotes (o.rest.head?.getD []) ++
        "\nTwo strings must be given when translating.".toList)
    else
      let target (c : Char) : Char :=
        if complement then second.getLast?.getD c
        else
          let i := first.length - 1 - (first.reverse.idxOf c)
          (second[i]?).getD (second.getLast?.getD c)
      let mapped := text.map fun c => if inFirst c then target c else c
      print (if o.has 's' then squeezed second.contains none mapped else mapped)

/-- The last part of a path. -/
def baseName (t : Text) : Text :=
  let kept := (t.reverse.dropWhile (· == '/')).reverse
  if kept = [] then (if t = [] then [] else ['/']) else (kept.reverse.takeWhile (· != '/')).reverse

/-- Prints the last part of a path, without a given ending. -/
def basename : Program := fun w args _ =>
  match args with
  | [] => .misused w 1 "basename" "missing operand".toList
  | [t] => .printed w (baseName t ++ ['\n'])
  | [t, ending] => .printed w (without ending (baseName t) ++ ['\n'])
  | ['-', 's'] :: ending :: ts => .printed w (ts.flatMap fun t => without ending (baseName t) ++ ['\n'])
  | ['-', 'a'] :: ts => .printed w (ts.flatMap fun t => baseName t ++ ['\n'])
  | _ :: _ :: extra :: _ => .misused w 1 "basename" ("extra operand ".toList ++ inQuotes extra)
where
  /-- A name without an ending that is not all of it. -/
  without (ending base : Text) : Text :=
    let cut := base.take (base.length - ending.length)
    if cut != [] && cut ++ ending = base then cut else base

/-- The directory part of a path. -/
def dirName (t : Text) : Text :=
  let kept := t.reverse.dropWhile (· == '/')
  let above := (kept.dropWhile (· != '/')).dropWhile (· == '/')
  if kept = [] then (if t = [] then ['.'] else ['/'])
  else if above = [] then (if kept.contains '/' then ['/'] else ['.'])
  else above.reverse

/-- Prints the directory part of paths. -/
def dirname : Program := fun w args _ =>
  if args = [] then .misused w 1 "dirname" "missing operand".toList
  else .printed w (args.flatMap fun t => dirName t ++ ['\n'])

/-- Copies its input to files and prints it. -/
def tee : Program := fun w args input =>
  let o := Options.of "" args [("append", 'a')]
  let done := forEach w o.rest fun w file =>
    let old := if o.has 'a' then (w.disk.read w.cwd ⟨file⟩).toOption.getD [] else []
    perform "tee" w file (Effect.writeFile ⟨file⟩ (old ++ input))
  { done with output := input, consumed := true }

/-- Joins the lines of files side by side, or all lines of its input. -/
def paste : Program := fun w args input =>
  let o := Options.of "d" args [("serial", 's'), ("delimiters", 'd')]
  let delimiter := (o.value? 'd').getD ['\t']
  let columns := (if o.rest = [] then [['-']] else o.rest).map fun file =>
    textLines (if isInput file then input else (contentOf "paste" w file).toOption.getD [])
  let joined :=
    if o.has 's' then columns.map (Text.join delimiter)
    else
      let height := (columns.map List.length).foldl max 0
      (List.range height).map fun i => Text.join delimiter (columns.map fun lines => (lines[i]?).getD [])
  { world := w, output := ofLines joined, consumed := readsInput o.rest }

end Cleave.Shell
