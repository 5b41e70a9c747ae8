import Cleave.Pattern.Basic
import Cleave.Shell.Process

/-!
# Searching lines

`grep` prints the lines that match a pattern. Its patterns are written in the basic or in the extended notation of
regular expressions.
-/

namespace Cleave.Shell

/-- A program: a function of the world, the arguments and the input. -/
abbrev Program := World → List Text → Bytes → Ended

/-- The content of a file, or the complaint of a program. -/
def contentOf (name : String) (w : World) (arg : Text) : Except Text Bytes :=
  match w.disk.read w.cwd ⟨arg⟩ with
  | .ok bytes => .ok bytes
  | .error e => .error (name.toList ++ ": ".toList ++ arg ++ ": ".toList ++ shortMessage e)

/-- Whether a file stands for the input. -/
def isInput (file : Text) : Bool :=
  file = ['-'] || file = "/dev/stdin".toList

/-- Whether a program that works on files reads its input. -/
def readsInput (files : List Text) : Bool :=
  files = [] || files.any isInput

/-- A set in brackets in the notation of patterns, and what follows it: backslashes stand for themselves. `first`
tells that no member has been read, so that a bracket is one itself. -/
def bracketSet : (fuel : Nat) → (first : Bool) → Text → Text × Text
  | 0, _, t => ([], t)
  | _, _, [] => ([], [])
  | fuel + 1, _, '[' :: ':' :: r =>
    let name := r.takeWhile (· != ':')
    let (more, rest) := bracketSet fuel false (r.drop (name.length + 2))
    ("[:".toList ++ name ++ ":]".toList ++ more, rest)
  | fuel + 1, first, c :: r =>
    if c = ']' && !first then ([']'], r)
    else
      let (more, rest) := bracketSet fuel false r
      (if "\\[]&~^".toList.contains c then '\\' :: c :: more else c :: more, rest)

/-- A set in brackets with its negation. -/
def bracketText (t : Text) : Text × Text :=
  match t with
  | '^' :: r =>
    let (body, rest) := bracketSet (r.length + 1) true r
    ("[^".toList ++ body, rest)
  | r =>
    let (body, rest) := bracketSet (r.length + 1) true r
    ('[' :: body, rest)

/-- A regular expression in the notation of patterns. In the basic notation some punctuation is special after a
backslash and plain otherwise; `start` tells that a star would have nothing to repeat. -/
def patternText (isBasic : Bool) : (fuel : Nat) → (start : Bool) → Text → Text
  | 0, _, _ => []
  | _, _, [] => []
  | fuel + 1, _, '\\' :: c :: r =>
    if isBasic && "()\x7b\x7d|+?".toList.contains c then
      c :: patternText isBasic fuel (c = '(' || c = '|') r
    else '\\' :: c :: patternText isBasic fuel false r
  | fuel + 1, _, '[' :: r =>
    let (set, rest) := bracketText r
    set ++ patternText isBasic fuel false rest
  | fuel + 1, start, c :: r =>
    if isBasic && "()\x7b\x7d|+?".toList.contains c then '\\' :: c :: patternText isBasic fuel false r
    else if start && c = '*' then "\\*".toList ++ patternText isBasic fuel false r
    else c :: patternText isBasic fuel (c = '^' || (!isBasic && (c = '(' || c = '|'))) r

/-- Compiles a regular expression. -/
def regex? (isBasic ignoreCase : Bool) (t : Text) : Option Pattern :=
  (Pattern.compile ignoreCase (patternText isBasic (t.length + 1) true t)).toOption

/-- A text as a pattern that matches only itself. -/
def escapeAll (t : Text) : Text :=
  t.flatMap fun c => if c.toNat < 128 && !c.isAlphanum && !Text.isBlankChar c then ['\\', c] else [c]

/-- The arguments of a program: letters of options, options with a value, and the rest. -/
structure Options where
  letters : Text := []
  values : List (Char × Text) := []
  rest : List Text := []

namespace Options

/-- Reads the letters of one argument. A letter of `valued` takes what follows it, or the next argument. -/
def readLetters (valued : Text) : Text → List Text → Options → Options × List Text
  | [], args, o => (o, args)
  | c :: r, args, o =>
    if valued.contains c then
      match r, args with
      | [], value :: args => ({ o with values := o.values ++ [(c, value)] }, args)
      | r, args => ({ o with values := o.values ++ [(c, r)] }, args)
    else readLetters valued r args { o with letters := o.letters ++ [c] }

/-- Reads an option that is written as a word, with a value after a sign or in the next argument. -/
def readName (valued : Text) (names : List (String × Char)) (name : Text) (args : List Text) (o : Options) :
    Options × List Text :=
  let word := name.takeWhile (· != '=')
  match names.lookup (String.ofList word) with
  | none => (o, args)
  | some c =>
    if !valued.contains c then ({ o with letters := o.letters ++ [c] }, args)
    else if word.length < name.length then
      ({ o with values := o.values ++ [(c, name.drop (word.length + 1))] }, args)
    else readLetters valued [c] args o

/-- Reads arguments. Options may stand anywhere before `--`. -/
def read (valued : Text) (names : List (String × Char)) : (fuel : Nat) → List Text → Options → Options
  | 0, _, o => o
  | _, [], o => o
  | fuel + 1, arg :: args, o =>
    match arg with
    | ['-', '-'] => { o with rest := o.rest ++ args }
    | '-' :: '-' :: name =>
      let (o, args) := readName valued names name args o
      read valued names fuel args o
    | '-' :: c :: r =>
      let (o, args) := readLetters valued (c :: r) args o
      read valued names fuel args o
    | _ => read valued names fuel args { o with rest := o.rest ++ [arg] }

/-- Reads the arguments of a program: the letters of `valued` take a value, and `names` are words for letters. -/
def of (valued : String) (args : List Text) (names : List (String × Char) := []) : Options :=
  read valued.toList names (args.length + 1) args {}

/-- Whether an option is given. -/
def has (o : Options) (c : Char) : Bool :=
  o.letters.contains c

/-- The last value of an option. -/
def value? (o : Options) (c : Char) : Option Text :=
  (o.values.filter (·.1 == c)).getLast?.map Prod.snd

/-- All values of an option. -/
def allValues (o : Options) (c : Char) : List Text :=
  (o.values.filter (·.1 == c)).map Prod.snd

end Options

/-- The files in a directory and below it, in order. -/
def filesBelow (w : World) (dir : Text) : List Text :=
  match w.disk.place w.cwd ⟨dir⟩ with
  | .error _ => []
  | .ok l =>
    let found := w.disk.nodes.filterMap fun (place, node) =>
      match node with
      | .file _ => if l.isPrefixOf place && place != l then some (place.drop l.length) else none
      | _ => none
    (found.map fun parts => dir ++ '/' :: Text.join ['/'] parts).mergeSort fun a b => !(decide (b < a))

/-- Prints the lines that match a pattern. -/
def grep : Program := fun w args input =>
  let o := Options.of "eABCm" args
    [("count", 'c'), ("ignore-case", 'i'), ("invert-match", 'v'), ("line-number", 'n'), ("quiet", 'q'),
     ("silent", 'q'), ("fixed-strings", 'F'), ("extended-regexp", 'E'), ("only-matching", 'o'),
     ("files-with-matches", 'l'), ("files-without-match", 'L'), ("word-regexp", 'w'), ("line-regexp", 'x'),
     ("regexp", 'e'), ("max-count", 'm'), ("no-messages", 's'), ("recursive", 'r'), ("no-filename", 'h'),
     ("with-filename", 'H'), ("after-context", 'A'), ("before-context", 'B'), ("context", 'C')]
  let (sources, files) := match o.allValues 'e', o.rest with
    | [], source :: files => ([source], files)
    | sources, files => (sources, files)
  let recursive := o.has 'r' || o.has 'R'
  let files := if recursive && files = [] then [['.']] else files
  let files := if recursive then files.flatMap fun f =>
      if (w.disk.stat w.cwd ⟨f⟩).toOption = some .dir then filesBelow w f else [f]
    else files
  if sources = [] then
    .complained w 2 "Usage: grep [OPTION]... PATTERNS [FILE]...\nTry 'grep --help' for more information.".toList
  else
    let isBasic := !o.has 'E'
    let compiled := sources.flatMap (Text.pieces '\n') |>.mapM fun source =>
      let source := if o.has 'F' then escapeAll source else patternText isBasic (source.length + 1) true source
      let source := if o.has 'x' then "^(?:".toList ++ source ++ ")$".toList
        else if o.has 'w' then "\\b(?:".toList ++ source ++ ")\\b".toList else source
      (Pattern.compile (o.has 'i') source).toOption
    match compiled with
    | none => .complained w 2 "grep: Invalid regular expression".toList
    | some patterns =>
      let selects (line : Text) : Bool := (patterns.any fun p => p.occursIn line) != o.has 'v'
      let most := (o.value? 'm').bind Pattern.number?
      let linesOf (bytes : Bytes) : List Text :=
        if bytes = [] then []
        else (Text.pieces '\n' (Utf8.decodeLenient (bytes ++ if bytes.getLast? = some 10 then [] else [10]))).dropLast
      let selected (all : List Text) : List (Text × Nat) :=
        let found := all.zipIdx.filter fun line => selects line.1
        match most with
        | some n => found.take n
        | none => found
      let parts (line : Text) : List Text :=
        if o.has 'o' then
          (patterns.flatMap fun p => (p.findAll line).filterMap fun m => m.group? line 0).filter (· != [])
        else [line]
      let around (c : Char) : Nat := (((o.value? c).or (o.value? 'C')).bind Pattern.number?).getD 0
      let hasContext := around 'A' + around 'B' != 0
      let withContext (file : Text) (all : List Text) (lines : List (Text × Nat)) : Text :=
        let near (i : Nat) : Bool := lines.any fun (_, j) => j ≤ i + around 'B' && i ≤ j + around 'A'
        let shown := all.zipIdx.filter fun (_, i) => near i
        (shown.foldl (fun ((t, last) : Text × Option Nat) (line, i) =>
          let mark := if lines.any (·.2 == i) then ':' else '-'
          let gap := if last.any fun j => j + 1 < i then "--\n".toList else []
          let file := if file = [] then [] else file ++ [mark]
          (t ++ gap ++ file ++ (if o.has 'n' then Text.ofNat (i + 1) ++ [mark] else []) ++ line ++ ['\n'], some i))
          ([], none)).1
      let show' (file label : Text) (all : List Text) (lines : List (Text × Nat)) : Text :=
        if o.has 'q' then []
        else if o.has 'c' then label ++ Text.ofNat lines.length ++ ['\n']
        else if o.has 'l' then (if lines = [] then [] else file ++ ['\n'])
        else if o.has 'L' then (if lines = [] then file ++ ['\n'] else [])
        else if hasContext then withContext label.dropLast all lines
        else
          lines.flatMap fun (line, i) => (parts line).flatMap fun part =>
            label ++ (if o.has 'n' then Text.ofNat (i + 1) ++ [':'] else []) ++ part ++ ['\n']
      let one (w : World) (file label : Text) (bytes : Bytes) : Ended :=
        let all := linesOf bytes
        let lines := selected all
        { world := w, status := if lines = [] then 1 else 0, output := Utf8.encode (show' file label all lines) }
      if files = [] then { one w "(standard input)".toList [] input with consumed := true }
      else
        let labelled := (1 < files.length || recursive || o.has 'H') && !o.has 'h'
        let results := files.map fun file =>
          if isInput file then
            one w "(standard input)".toList (if labelled then "(standard input):".toList else []) input
          else match contentOf "grep" w file with
            | .ok bytes => one w file (if labelled then file ++ [':'] else []) bytes
            | .error t => if o.has 's' then .withStatus w 2 else .complained w 2 t
        let statuses := results.map Ended.status
        { world := w
          status :=
            if statuses.contains 0 && o.has 'q' then 0
            else if statuses.contains 2 then 2 else if statuses.contains 0 then 0 else 1
          output := results.flatMap Ended.output
          errors := results.flatMap Ended.errors
          consumed := readsInput files }

end Cleave.Shell
