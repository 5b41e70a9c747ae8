import Cleave.Shell.Search

/-!
# Editing lines

`sed` runs a list of commands on each line of its input. A command may be limited to lines by an address or by a
pair of them. The commands work on the current line and on a second text that is kept from line to line.
-/

namespace Cleave.Shell.Editor

/-- Which lines a command is for. -/
inductive Address
  | line (n : Nat)
  | last
  | pattern (p : Pattern)
  /-- Every `step`-th line from `first` on. -/
  | every (first step : Nat)
  /-- A number of lines after the first address of a pair. -/
  | after (n : Nat)

/-- A part of a replacement. -/
inductive Part
  | char (c : Char)
  | group (index : Nat)
  /-- From here on letters are put into another case: `U` and `L` for all, `u` and `l` for the next one, `E` for
  none. -/
  | casing (c : Char)

/-- What a command does. -/
inductive Action
  | print
  | delete
  | deleteFirst
  | printFirst
  | quit (silent : Bool) (status : Nat)
  | number
  | next
  | join
  | hold (append : Bool)
  | fetch (append : Bool)
  | swap
  | insert (t : Text)
  | append (t : Text)
  | change (t : Text)
  | map (pairs : List (Char × Char))
  /-- Replaces matches: the first `skip` of them stay, and only one is replaced unless `all`. -/
  | replace (p : Pattern) (template : List Part) (skip : Nat) (all shown : Bool)
  /-- Passes over the next commands. -/
  | jump (count : Nat)
  | label (name : Text)
  /-- Goes on after a label, or with the next line if there is none of that name. -/
  | branch (name : Text) (onlyIfReplaced : Bool)
  | nothing

/-- A command with its addresses. -/
structure Command where
  first : Option Address := none
  second : Option Address := none
  negated : Bool := false
  action : Action

/-- Text up to a delimiter, and what follows it. A backslash keeps the delimiter as a plain character. -/
def delimited (d : Char) : Text → Option (Text × Text)
  | [] => none
  | '\\' :: c :: r =>
    (delimited d r).map fun (t, r) => (if c = d then c :: t else '\\' :: c :: t, r)
  | c :: r => if c = d then some ([], r) else (delimited d r).map fun (t, r) => (c :: t, r)

/-- A replacement as a template: `&` stands for the match, `\1` for a group and `\n` for a line end. -/
def template : Text → List Part
  | [] => []
  | '\\' :: c :: r =>
    let part : Part :=
      if c.isDigit then .group (c.toNat - '0'.toNat)
      else if c = 'n' then .char '\n'
      else if c = 't' then .char '\t'
      else if "ULEul".toList.contains c then .casing c
      else .char c
    part :: template r
  | '&' :: r => .group 0 :: template r
  | c :: r => .char c :: template r

/-- An address at the start of a text, and what follows it. -/
def address? (isBasic : Bool) (t : Text) : Option (Option Address × Text) :=
  match t with
  | '$' :: r => some (some .last, r)
  | '/' :: r => do
    let (source, r) ← delimited '/' r
    let (ignoreCase, r) := match r with
      | 'I' :: r => (true, r)
      | r => (false, r)
    return (some (.pattern (← regex? isBasic ignoreCase source)), r)
  | '+' :: r =>
    let digits := r.takeWhile Char.isDigit
    (Pattern.number? digits).map fun n => (some (.after n), r.drop digits.length)
  | t =>
    let digits := t.takeWhile Char.isDigit
    let r := t.drop digits.length
    match Pattern.number? digits, r with
    | some n, '~' :: r =>
      let digits := r.takeWhile Char.isDigit
      (Pattern.number? digits).map fun step => (some (.every n step), r.drop digits.length)
    | some n, r => some (some (.line n), r)
    | none, _ => some (none, t)

/-- Passes over blanks. -/
def dropBlanks (t : Text) : Text :=
  t.dropWhile fun c => c == ' ' || c == '\t'

/-- The text of a command that adds lines. -/
def addedText (t : Text) : Text × Text :=
  let t := match dropBlanks t with
    | '\\' :: '\n' :: r => r
    | '\\' :: r => dropBlanks r
    | r => r
  let line := t.takeWhile (· != '\n')
  (line ++ ['\n'], t.drop line.length)

/-- The flags of a replacement: the number of the match, whether all from there on are meant, whether the line is
shown, and whether case is ignored. -/
def replaceFlags : Text → (Nat × Bool × Bool × Bool) → (Nat × Bool × Bool × Bool) × Text
  | 'g' :: r, (n, _, shown, fold) => replaceFlags r (n, true, shown, fold)
  | 'p' :: r, (n, all, _, fold) => replaceFlags r (n, all, true, fold)
  | 'i' :: r, (n, all, shown, _) => replaceFlags r (n, all, shown, true)
  | 'I' :: r, (n, all, shown, _) => replaceFlags r (n, all, shown, true)
  | c :: r, (n, all, shown, fold) =>
    if c.isDigit then replaceFlags r (n * 10 + (c.toNat - '0'.toNat), all, shown, fold)
    else ((n, all, shown, fold), c :: r)
  | [], flags => (flags, [])

/-- An action at the start of a text, and what follows it. -/
def action? (isBasic : Bool) (t : Text) : Option (Action × Text) :=
  match t with
  | 'p' :: r => some (.print, r)
  | 'P' :: r => some (.printFirst, r)
  | 'd' :: r => some (.delete, r)
  | 'D' :: r => some (.deleteFirst, r)
  | '=' :: r => some (.number, r)
  | 'n' :: r => some (.next, r)
  | 'N' :: r => some (.join, r)
  | 'h' :: r => some (.hold false, r)
  | 'H' :: r => some (.hold true, r)
  | 'g' :: r => some (.fetch false, r)
  | 'G' :: r => some (.fetch true, r)
  | 'x' :: r => some (.swap, r)
  | 'a' :: r => let (t, r) := addedText r; some (.append t, r)
  | 'i' :: r => let (t, r) := addedText r; some (.insert t, r)
  | 'c' :: r => let (t, r) := addedText r; some (.change t, r)
  | 's' :: d :: r => do
    let (source, r) ← delimited d r
    let (fresh, r) ← delimited d r
    let ((n, all, shown, ignoreCase), r) := replaceFlags r (0, false, false, false)
    return (.replace (← regex? isBasic ignoreCase source) (template fresh) (n - 1) all shown, r)
  | 'y' :: d :: r => do
    let (source, r) ← delimited d r
    let (fresh, r) ← delimited d r
    if source.length != fresh.length then none else return (.map (source.zip fresh), r)
  | c :: r =>
    if c = ':' || c = 'b' || c = 't' then
      let r := dropBlanks r
      let name := r.takeWhile fun x => x != ';' && x != '\n' && x != '\x7d' && x != ' '
      some (if c = ':' then .label name else .branch name (c = 't'), r.drop name.length)
    else if c = 'q' || c = 'Q' then
      let r := dropBlanks r
      let digits := r.takeWhile Char.isDigit
      some (.quit (c = 'Q') ((Pattern.number? digits).getD 0), r.drop digits.length)
    else if c = '#' then some (.nothing, r.dropWhile (· != '\n'))
    else none
  | [] => none

/-- Passes over blanks and the ends of commands. -/
def dropEnds (t : Text) : Text :=
  t.dropWhile fun c => Text.isBlankChar c || c == ';'

/-- The commands of a script up to its end or to a closing brace, and what follows them. A group in braces is a jump
over its commands for the lines that it is not for. -/
def commands? (isBasic : Bool) : (fuel : Nat) → Text → Option (List Command × Text)
  | 0, _ => none
  | fuel + 1, t =>
    match dropEnds t with
    | [] => some ([], [])
    | '\x7d' :: r => some ([], r)
    | t => do
      let (first, r) ← address? isBasic t
      let (second, r) ← match dropBlanks r with
        | ',' :: r => if first.isSome then address? isBasic (dropBlanks r) else none
        | r => some (none, r)
      let r := dropBlanks r
      let (negated, r) := match r with
        | '!' :: r => (true, dropBlanks r)
        | r => (false, r)
      match r with
      | '\x7b' :: r =>
        let (body, r) ← commands? isBasic fuel r
        let (more, r) ← commands? isBasic fuel r
        return ({ first, second, negated := !negated, action := .jump body.length } :: body ++ more, r)
      | r =>
        let (action, r) ← action? isBasic r
        let r := dropBlanks r
        if r.head?.all fun c => c == ';' || c == '\n' || c == '\x7d' || c == '#' then
          let (more, r) ← commands? isBasic fuel r
          return ({ first, second, negated, action } :: more, r)
        else none

/-- The editor at work. -/
structure State where
  /-- The lines that follow. -/
  rest : List Text
  current : Text := []
  kept : Text := []
  line : Nat := 0
  output : List Text := []
  /-- What is printed after the current line. -/
  pending : List Text := []
  /-- For each command whether its pair of addresses is open, and until which line if that is known. -/
  ranges : List (Nat × Option Nat) := []
  /-- Whether something has been replaced in the current line. -/
  changed : Bool := false
  finished : Bool := false
  status : Nat := 0

/-- How the commands for a line end. -/
inductive Outcome
  | printed
  | dropped
  deriving DecidableEq

namespace State

/-- Adds output. -/
def put (s : State) (t : Text) : State :=
  { s with output := t :: s.output }

/-- Whether an address is for the current line. -/
def isAt (s : State) : Address → Bool
  | .line n => s.line == n
  | .last => s.rest.isEmpty
  | .pattern p => p.occursIn s.current
  | .every first step => if step = 0 then s.line == first else first ≤ s.line && (s.line - first) % step == 0
  | .after _ => false

/-- Whether the pair of addresses of the command with an index is for the current line. -/
def inRange (s : State) (index : Nat) (first second : Address) : Bool × State :=
  let closed : State := { s with ranges := s.ranges.filter (·.1 != index) }
  match s.ranges.lookup index with
  | some (some n) => (s.line ≤ n, if s.line < n then s else closed)
  | some none => (true, if s.isAt second then closed else s)
  | none =>
    if s.isAt first then
      match second with
      | .line n => (true, if n ≤ s.line then s else { s with ranges := (index, some n) :: s.ranges })
      | .after n => (true, if n = 0 then s else { s with ranges := (index, some (s.line + n)) :: s.ranges })
      | .last => (true, if s.rest.isEmpty then s else { s with ranges := (index, none) :: s.ranges })
      | _ => (true, { s with ranges := (index, none) :: s.ranges })
    else (false, s)

/-- Whether a command is for the current line. -/
def applies (s : State) (index : Nat) (c : Command) : Bool × State :=
  let (hit, s) := match c.first, c.second with
    | some a, some b => s.inRange index a b
    | some a, none => (s.isAt a, s)
    | none, _ => (true, s)
  (hit != c.negated, s)

/-- A text in the case that is set for all letters and for the next one. -/
def inCase (all next : Option Char) (t : Text) : Text :=
  let convert (mark : Option Char) (t : Text) : Text :=
    if mark = some 'U' || mark = some 'u' then t.map Char.toUpper
    else if mark = some 'L' || mark = some 'l' then t.map Char.toLower
    else t
  match next, convert all t with
  | some c, x :: r => convert (some c) [x] ++ r
  | _, t => t

/-- The text of a template for a match. -/
def render (m : Pattern.Match) (t : Text) : (all next : Option Char) → List Part → Text
  | _, _, [] => []
  | all, _, .casing c :: parts =>
    if c = 'E' then render m t none none parts
    else if c = 'U' || c = 'L' then render m t (some c) none parts
    else render m t all (some c) parts
  | all, next, .char c :: parts => inCase all next [c] ++ render m t all none parts
  | all, next, .group i :: parts =>
    let part := (m.group? t i).getD []
    inCase all next part ++ render m t all (if part = [] then next else none) parts

/-- A text from a position on, in which matches are replaced. -/
def replaceFrom (parts : List Part) (t : Text) : (index : Nat) → Text → List Pattern.Match → Text
  | _, rest, [] => rest
  | index, rest, m :: ms =>
    rest.take (m.start - index) ++ render m t none none parts ++
      replaceFrom parts t m.stop (rest.drop (m.stop - index)) ms

/-- Replaces matches in a text. -/
def replaced (p : Pattern) (parts : List Part) (skip : Nat) (all : Bool) (t : Text) : Option Text :=
  let found := (p.findAll t).drop skip
  let found := if all then found else found.take 1
  if found.isEmpty then none else some (replaceFrom parts t 0 t found)

end State

/-- The position after a label. -/
def labelled? (all : List Command) (name : Text) : Option Nat :=
  (all.findIdx? fun c => match c.action with
    | .label n => n == name
    | _ => false).map (· + 1)

/-- Runs commands on the current line, from the one with an index on. -/
def runCommands (quiet : Bool) (all : List Command) :
    (fuel : Nat) → (index : Nat) → List Command → State → State × Outcome
  | 0, _, _, s => (s, .printed)
  | _, _, [], s => (s, .printed)
  | fuel + 1, index, c :: cs, s =>
    let (due, s) := s.applies index c
    let go (s : State) : State × Outcome := runCommands quiet all fuel (index + 1) cs s
    if !due then go s
    else
      match c.action with
      | .nothing => go s
      | .label _ => go s
      | .branch name onlyIfReplaced =>
        if onlyIfReplaced && !s.changed then go s
        else
          let s := if onlyIfReplaced then { s with changed := false } else s
          match labelled? all name with
          | some i => runCommands quiet all fuel i (all.drop i) s
          | none => (s, .printed)
      | .print => go (s.put (s.current ++ ['\n']))
      | .printFirst => go (s.put (s.current.takeWhile (· != '\n') ++ ['\n']))
      | .delete => (s, .dropped)
      | .deleteFirst =>
        let left := (s.current.dropWhile (· != '\n')).drop 1
        if s.current.contains '\n' then ({ s with rest := left :: s.rest, line := s.line - 1 }, .dropped)
        else (s, .dropped)
      | .quit silent status =>
        ({ s with finished := true, status }, if silent then .dropped else .printed)
      | .number => go (s.put (Text.ofNat s.line ++ ['\n']))
      | .next =>
        match s.rest with
        | [] => ({ s with finished := true }, .printed)
        | t :: rest =>
          let s := if quiet then s else s.put (s.current ++ ['\n'])
          go { s with current := t, rest, line := s.line + 1 }
      | .join =>
        match s.rest with
        | [] => ({ s with finished := true }, .printed)
        | t :: rest => go { s with current := s.current ++ '\n' :: t, rest, line := s.line + 1 }
      | .hold false => go { s with kept := s.current }
      | .hold true => go { s with kept := s.kept ++ '\n' :: s.current }
      | .fetch false => go { s with current := s.kept }
      | .fetch true => go { s with current := s.current ++ '\n' :: s.kept }
      | .swap => go { s with current := s.kept, kept := s.current }
      | .insert t => go (s.put t)
      | .append t => go { s with pending := s.pending ++ [t] }
      | .change t =>
        let inside := c.second.isSome && s.ranges.any (·.1 == index)
        (if inside then s else s.put t, .dropped)
      | .map pairs => go { s with current := s.current.map fun x => (pairs.lookup x).getD x }
      | .replace p parts skip every shown =>
        match State.replaced p parts skip every s.current with
        | none => go s
        | some t =>
          let s := { s with current := t, changed := true }
          go (if shown then s.put (t ++ ['\n']) else s)
      | .jump n => runCommands quiet all fuel (index + 1 + n) (cs.drop n) s

/-- The number of commands that may run on a line, other than for lines that are joined to it. -/
def maxSteps : Nat := 10000

/-- Runs commands on all lines. -/
def runLines (quiet : Bool) (cs : List Command) : (fuel : Nat) → State → State
  | 0, s => s
  | fuel + 1, s =>
    if s.finished then s
    else
      match s.rest with
      | [] => s
      | t :: rest =>
        let steps := (cs.length + 1) * (rest.length + 1) + maxSteps
        let (s, outcome) := runCommands quiet cs steps 0 cs
          { s with current := t, rest, line := s.line + 1, changed := false }
        let s := if outcome = .printed && !quiet then s.put (s.current ++ ['\n']) else s
        runLines quiet cs fuel { s with output := s.pending.reverse ++ s.output, pending := [] }

/-- Edits bytes. The last line keeps its end as it is. -/
def edit (quiet : Bool) (cs : List Command) (bytes : Bytes) : Bytes × Nat :=
  let text := Utf8.decodeLenient bytes
  let complete := text.getLast? = some '\n'
  let lines := if text = [] then [] else Text.pieces '\n' (if complete then text.dropLast else text)
  let s := runLines quiet cs (2 * text.length + 2) { rest := lines }
  let output := s.output.reverse.flatten
  let output := if complete || s.finished || text = [] then output
    else if output.getLast? = some '\n' then output.dropLast else output
  (Utf8.encode output, s.status)

end Editor

/-- The ending of the copies that are kept of files that are changed in place. -/
def copyEnding? (args : List Text) : Option Text :=
  args.findSome? fun a => match a with
    | '-' :: 'i' :: c :: r => some (c :: r)
    | _ => none

/-- Edits files, or its input. -/
def sed : Program := fun w args input =>
  let ending := copyEnding? args
  let o := Options.of "e" (args.map fun a => if a.take 2 = "-i".toList then "-i".toList else a)
    [("quiet", 'n'), ("silent", 'n'), ("expression", 'e'), ("regexp-extended", 'E'), ("in-place", 'i')]
  let (scripts, files) := match o.allValues 'e', o.rest with
    | [], script :: files => ([script], files)
    | scripts, files => (scripts, files)
  let isBasic := !(o.has 'E' || o.has 'r')
  let script := Text.join ['\n'] scripts
  match if scripts = [] then none else Editor.commands? isBasic (2 * script.length + 2) script with
  | none => .complained w 1 "sed: -e expression #1: unknown command".toList
  | some (cs, _) =>
    if files = [] then
      let (bytes, status) := Editor.edit (o.has 'n') cs input
      { world := w, output := bytes, status, consumed := true }
    else if o.has 'i' then
      forEach w files fun w file =>
        match contentOf "sed" w file with
        | .ok bytes =>
          let kept : Ended := match ending with
            | some t => perform "sed" w file (Effect.writeFile ⟨file ++ t⟩ bytes)
            | none => { world := w }
          kept.andThen fun w =>
            perform "sed" w file (Effect.writeFile ⟨file⟩ (Editor.edit (o.has 'n') cs bytes).1)
        | .error t => .complained w 2 t
    else
      let contents : List (Except Text Bytes) := files.map fun file =>
        if isInput file then .ok input
        else (contentOf "sed" w file).mapError fun _ =>
          "sed: can't read ".toList ++ file ++ ": No such file or directory".toList
      let (bytes, status) := Editor.edit (o.has 'n') cs (contents.flatMap fun c => c.toOption.getD [])
      let complaints := contents.flatMap fun c => match c with
        | .ok _ => []
        | .error t => t ++ ['\n']
      { world := w, output := bytes, errors := Utf8.encode complaints
        status := if complaints = [] then status else 2, consumed := readsInput files }

end Cleave.Shell
