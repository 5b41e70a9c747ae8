import Cleave.Shell.Expansion
import Cleave.Shell.Programs

/-!
# Commands of the shell itself

Commands that change the state of a script: its variables, arguments, options, directory and traps, and the way it
goes on.
-/

namespace Cleave.Shell

/-- Commands whose failures end the script. -/
def specialCommands : List Text :=
  [":", ".", "break", "continue", "eval", "exec", "exit", "export", "readonly", "return", "set", "shift", "times",
   "trap", "unset"].map String.toList

/-- Commands of the shell that are no special ones. -/
def plainCommands : List Text :=
  ["[", "alias", "bg", "cd", "command", "echo", "false", "fg", "getopts", "hash", "jobs", "kill", "local", "printf",
   "pwd", "read", "test", "true", "type", "ulimit", "umask", "unalias", "wait"].map String.toList

/-- Words that have a meaning of their own where a command starts. -/
def keywords : List Text :=
  ["!", "\x7b", "\x7d", "case", "do", "done", "elif", "else", "esac", "fi", "for", "if", "in", "then", "until",
   "while"].map String.toList

/-- Signals by name. -/
def signals : List (Text × Nat) :=
  [("HUP", 1), ("INT", 2), ("QUIT", 3), ("ILL", 4), ("TRAP", 5), ("ABRT", 6), ("FPE", 8), ("KILL", 9), ("USR1", 10),
   ("SEGV", 11), ("USR2", 12), ("PIPE", 13), ("ALRM", 14), ("TERM", 15)].map fun s => (String.toList s.1, s.2)

/-- The number of a signal. -/
def signal? (t : Text) : Option Nat :=
  (Pattern.number? t).or (signals.lookup ((Text.dropStart? "SIG".toList t).getD t))

/-- The name of a signal, or of the end of a script. -/
def signalName (t : Text) : Text :=
  if t = ['0'] then exitSignal
  else
    match Pattern.number? t with
    | some n => ((signals.find? (·.2 == n)).map Prod.fst).getD t
    | none => (Text.dropStart? "SIG".toList t).getD t

namespace State

/-- Succeeds. -/
def succeed (s : State) : State :=
  { s with status := 0 }

/-- The number that a command is given, if it is one. -/
def withNumber (s : State) (name : String) (args : List Text) (fallback : Nat) (go : Nat → State) : State :=
  match args with
  | [] => go fallback
  | t :: _ =>
    match Pattern.number? t with
    | some n => go n
    | none => s.abort 2 (name.toList ++ ": Illegal number: ".toList ++ t)

/-- Changes the current directory. -/
def changeDir (s : State) (args : List Text) : State :=
  let args := args.filter fun a => a != "-P".toList && a != "-L".toList && a != "--".toList
  let old := (Path.ofLocation s.world.cwd).text
  let (dir, shown) := match args.head? with
    | none => ((s.value? "HOME".toList).getD ['/'], false)
    | some ['-'] => ((s.value? "OLDPWD".toList).getD old, true)
    | some dir => (dir, false)
  match s.world.disk.place s.world.cwd ⟨if dir = [] then ['.'] else dir⟩ with
  | .ok l =>
    if s.world.disk.get? l = some .dir then
      let path := (Path.ofLocation l).text
      let s := (({ s with world := { s.world with cwd := l } }.setValue "OLDPWD".toList old).setValue
        "PWD".toList path).succeed
      if shown then s.print (path ++ ['\n']) else s
    else s.complain 2 ("cd: can't cd to ".toList ++ dir)
  | .error _ => s.complain 2 ("cd: can't cd to ".toList ++ dir)

/-- Sets options and arguments. -/
def setOptions (s : State) : List Text → State
  | [] => s
  | arg :: args =>
    if arg = "--".toList then { s with arguments := args }
    else
      let named (on : Bool) : State := match args with
        | name :: args => match optionNames.lookup name with
          | some flag => (s.setFlag on flag).setOptions args
          | none => s.abort 2 ("set: Illegal option -o ".toList ++ name)
        | [] => s
      match arg with
      | ['-', 'o'] => named true
      | ['+', 'o'] => named false
      | '-' :: c :: r => ((c :: r).foldl (setFlag · true) s).setOptions args
      | '+' :: c :: r => ((c :: r).foldl (setFlag · false) s).setOptions args
      | ['-'] => { s with arguments := args }
      | _ => { s with arguments := arg :: args }

/-- A text in quotes that reads as it is. -/
def quotedValue (t : Text) : Text :=
  '\'' :: Text.replace ['\''] "'\"'\"'".toList t ++ ['\'']

/-- Some variables, by name. -/
def sortedValues (values : List (Text × Text)) : List (Text × Text) :=
  values.mergeSort fun a b => !(decide (b.1 < a.1))

/-- Applies a function to the names of arguments that may set variables. -/
def declare (s : State) (args : List Text) (f : State → Text → State) : State :=
  args.foldl (fun s arg =>
    let name := arg.takeWhile (· != '=')
    if s.ended then s
    else if !isName name then s.abort 2 (name ++ ": bad variable name".toList)
    else if name.length < arg.length then (f s name).assign name (arg.drop (name.length + 1))
    else f s name) s.succeed

/-- Makes variables visible to programs. -/
def exportAll (s : State) (args : List Text) : State :=
  let args := args.filter (· != "--".toList)
  if args = [] || args = ["-p".toList] then
    s.succeed.print ((sortedValues s.environment).flatMap fun (name, value) =>
      "export ".toList ++ name ++ '=' :: quotedValue value ++ ['\n'])
  else s.declare args fun s name => { s with exported := name :: s.exported.filter (· != name) }

/-- Makes variables keep their values. -/
def lockAll (s : State) (args : List Text) : State :=
  let args := args.filter (· != "--".toList)
  let names := args.map fun arg => arg.takeWhile (· != '=')
  let s := s.declare args fun s _ => s
  if s.ended then s else { s with locked := names ++ s.locked }

/-- Makes variables local to the function at work. -/
def localAll (s : State) (args : List Text) : State :=
  if !s.inCall then s.abort 2 "local: not in a function".toList
  else s.declare args fun s name =>
    if (s.outer.lookup name).isSome then s else { s with outer := (name, s.values.lookup name) :: s.outer }

/-- Takes variables or functions away. -/
def unsetAll (s : State) (args : List Text) : State :=
  let names := args.filter fun a => a != "-v".toList && a != "-f".toList
  names.foldl (fun s name =>
    if args.contains "-f".toList then { s with functions := s.functions.filter (·.1 != name) }
    else if s.locked.contains name then s.abort 2 (name ++ ": is read only".toList)
    else s.unset name) s.succeed

/-- Prints what a name stands for. -/
def describe (s : State) (name : Text) (verbose : Bool) : State :=
  let told (long short : Text) : State := s.print ((if verbose then name ++ long else short) ++ ['\n'])
  if keywords.contains name then told " is a shell keyword".toList name
  else if (s.functions.lookup name).isSome then told " is a shell function".toList name
  else if specialCommands.contains name then told " is a special shell builtin".toList name
  else if plainCommands.contains name then told " is a shell builtin".toList name
  else if (programs.lookup name).isSome || name = "sh".toList then
    let path := "/usr/bin/".toList ++ name
    told (" is ".toList ++ path) path
  else
    let s := if verbose then s.print (name ++ ": not found\n".toList) else s
    { s with status := 127 }

/-- Makes a script run on signals. -/
def setTraps (s : State) (args : List Text) : State :=
  match args.filter (· != "--".toList) with
  | [] =>
    s.succeed.print (s.traps.flatMap fun (name, script) =>
      "trap -- ".toList ++ quotedValue script ++ ' ' :: name ++ ['\n'])
  | first :: rest =>
    let reset := first = ['-'] || rest = [] || (Pattern.number? first).isSome
    let names := (if rest = [] || (Pattern.number? first).isSome then first :: rest else rest).map signalName
    match names.find? fun n => n != exitSignal && (signals.lookup n).isNone with
    | some bad => s.complain 1 ("trap: ".toList ++ bad ++ ": bad trap".toList)
    | none =>
      let kept := s.traps.filter fun t => !names.contains t.1
      { s.succeed with traps := if reset then kept else names.map (·, first) ++ kept }

/-- Waits for commands in the background. -/
def waitFor (s : State) (limit : Nat) (args : List Text) : State :=
  if args = [] then s.succeed.proceed limit ((s.jobs.map Prod.snd).foldl max s.millis)
  else
    args.foldl (fun s arg =>
      match (Pattern.number? arg).bind fun n => if n < firstJob then none else s.jobs[n - firstJob]? with
      | some (status, time) => { s with status }.proceed limit (max s.millis time)
      | none => { s with status := 127 }) s

/-- Sends a signal to the script itself or to what runs in the background. -/
def kill (s : State) (g : Setting) (args : List Text) : State :=
  let (signal, targets) : Option Nat × List Text := match args with
    | option :: rest =>
      if option = "-s".toList then (rest.head?.bind signal?, rest.drop 1)
      else if option.head? = some '-' then (signal? (option.drop 1), rest)
      else (some 15, args)
    | [] => (none, [])
  match signal with
  | none =>
    if args.head? = some "-l".toList then s.succeed
    else
      s.complain 2 ("kill: Usage: kill [-s sigspec | -signum | -sigspec] [pid | job]... or\n".toList ++
        "kill -l [exitstatus]".toList)
  | some n =>
    if targets.contains ownNumber then
      match s.traps.lookup (signalName (Text.ofNat n)), decide (n = 9) with
      | some script, false =>
        let done := if script = [] then s.succeed else g.inner s.succeed script
        if done.ended then done else done.succeed
      | _, _ => if n = 0 then s.succeed else { s with status := 128 + n, ended := true, killed := true }
    else
      let numbers := targets.filterMap fun t => (Pattern.number? t).bind fun k =>
        if firstJob ≤ k && k < firstJob + s.jobs.length then some (k - firstJob) else none
      let jobs := s.jobs.zipIdx.map fun (job, i) =>
        if n != 0 && numbers.contains i && s.millis < job.2 then (128 + n, s.millis) else job
      if numbers.length < targets.length then s.complain 1 "kill: No such process".toList
      else { s.succeed with jobs }

/-- A line that is read, without its end: its characters with the information whether a backslash stands before
them, whether its end was found, and what follows it. -/
structure ReadLine where
  chars : List Mark := []
  complete : Bool := false
  rest : Bytes := []

/-- Takes out the backslashes of a line; the result tells whether the last one stands before the line end. -/
def unescapeLine : Text → List Mark × Bool
  | [] => ([], false)
  | ['\\'] => ([], true)
  | '\\' :: c :: r => let (more, joined) := unescapeLine r; ((c, false) :: more, joined)
  | c :: r => let (more, joined) := unescapeLine r; ((c, true) :: more, joined)

/-- Reads a line. A backslash at its end joins it with the next one. -/
def readLine (raw : Bool) : (fuel : Nat) → Bytes → ReadLine
  | 0, _ => {}
  | fuel + 1, bytes =>
    let line := bytes.takeWhile (· != 10)
    let text := (Utf8.decodeLenient line).filter (· != '\x00')
    match bytes.drop line.length with
    | [] => { chars := if raw then text.map (·, true) else (unescapeLine text).1 }
    | _ :: rest =>
      if raw then { chars := text.map (·, true), complete := true, rest }
      else
        let (chars, joined) := unescapeLine text
        if joined then
          let next := readLine raw fuel rest
          { next with chars := chars ++ next.chars }
        else { chars, complete := true, rest }

/-- The values that a line gives to some variables: each a field, and the last one what is left. -/
def readFields (separators : Text) : Nat → List Mark → List Text
  | 0, _ => []
  | n + 1, chars =>
    let isBlank (m : Mark) : Bool := m.2 && separators.contains m.1 && " \t\n".toList.contains m.1
    let isEnd (m : Mark) : Bool := m.2 && separators.contains m.1
    let chars := chars.dropWhile isBlank
    if n = 0 then
      let trimmed := (chars.reverse.dropWhile isBlank).reverse
      let field := trimmed.takeWhile (!isEnd ·)
      let whole := if field.length + 1 = trimmed.length then field else trimmed
      [whole.map Prod.fst]
    else
      let field := chars.takeWhile (!isEnd ·)
      let rest := (chars.drop field.length).dropWhile isBlank
      let rest := match rest with
        | m :: r => if isEnd m then r else rest
        | [] => []
      field.map Prod.fst :: readFields separators n rest

/-- Reads a line into variables. -/
def readInto (s : State) (args : List Text) : State :=
  let options := args.takeWhile fun a => a.head? = some '-'
  let names := (args.drop options.length).filter (· != "-p".toList)
  let raw := options.any (·.contains 'r')
  match names with
  | [] => s.abort 2 "read: arg count".toList
  | names =>
    let bytes := s.readable 0
    let line := readLine raw (bytes.length + 1) bytes
    let values := readFields s.separators names.length line.chars
    let s := (names.zip values).foldl (fun s (name, value) => s.assign name value) (s.leave 0 line.rest)
    if s.ended then s else { s with status := if line.complete then 0 else 1 }

/-- Reads the next option of the arguments into a variable. The variable `OPTIND` counts arguments, and the letters
that are done within one are counted after a point in its value. -/
def nextOption (s : State) (args : List Text) : State :=
  match args with
  | letters :: name :: given =>
    let arguments := if given = [] then s.arguments else given
    let position := Text.pieces '.' ((s.values.lookup "OPTIND".toList).getD ['1'])
    let index := ((position.head?.bind Pattern.number?).getD 1) - 1
    let offset := (position[1]?.bind Pattern.number?).getD 1
    let silent := letters.head? = some ':'
    let at' (index offset : Nat) (s : State) : State :=
      s.setValue "OPTIND".toList (Text.ofNat (index + 1) ++ if offset ≤ 1 then [] else '.' :: Text.ofNat offset)
    let finished : State := { s.setValue name ['?'] with status := 1 }
    match arguments[index]? with
    | some ('-' :: body) =>
      if body = [] then finished
      else if body = ['-'] then at' (index + 1) 1 finished
      else
        match body[offset - 1]? with
        | none => finished
        | some c =>
          let more := body.drop offset
          let next (s : State) : State := if more = [] then at' (index + 1) 1 s else at' index (offset + 1) s
          match letters.findIdx? (· == c) with
          | some i =>
            if c != ':' && letters[i + 1]? = some ':' then
              match more, arguments[index + 1]? with
              | [], none =>
                let s := at' (index + 1) 1 s
                if silent then ((s.setValue name [':']).setValue "OPTARG".toList [c]).succeed
                else (s.setValue name ['?']).complain 0 ("No arg for -".toList ++ [c] ++ " option".toList)
              | [], some value => at' (index + 2) 1 (((s.setValue name [c]).setValue "OPTARG".toList value).succeed)
              | more, _ => at' (index + 1) 1 (((s.setValue name [c]).setValue "OPTARG".toList more).succeed)
            else next ((s.setValue name [c]).setValue "OPTARG".toList []).succeed
          | none =>
            let s := next (s.setValue name ['?'])
            if silent then (s.setValue "OPTARG".toList [c]).succeed
            else s.complain 0 ("Illegal option -".toList ++ [c])
    | _ => finished
  | _ => s.abort 2 "getopts: Usage: getopts optstring var [arg]".toList

/-- Leaves loops. -/
def leaveLoops (s : State) (name : String) (args : List Text) (leave : Nat → Leave) : State :=
  s.withNumber name args 1 fun n =>
    if n = 0 then s.abort 2 (name.toList ++ ": Illegal number: 0".toList)
    else { s.succeed with leaving := if s.loops = 0 then none else some (leave (min n s.loops)) }

/-- Runs the text of a file as a part of the script. -/
def source (s : State) (g : Setting) (args : List Text) : State :=
  match args with
  | [] => s.abort 2 ".: filename argument required".toList
  | file :: _ =>
    match s.world.disk.read s.world.cwd ⟨file⟩ with
    | .ok bytes =>
      if !file.contains '/' then s.abort 127 (".: ".toList ++ file ++ ": not found".toList)
      else
        let done := g.inner s.succeed (Utf8.decodeLenient bytes)
        { done with leaving := if done.leaving = some .call then none else done.leaving }
    | .error _ =>
      if file.contains '/' then s.abort 2 (".: cannot open ".toList ++ file ++ ": No such file".toList)
      else s.abort 127 (".: ".toList ++ file ++ ": not found".toList)

end State

/-- Runs a command of the shell, other than those that run commands by name. -/
def builtin? (g : Setting) (s : State) (name : Text) (args : List Text) : Option State :=
  match String.ofList name with
  | ":" => some s.succeed
  | "true" => some s.succeed
  | "false" => some { s with status := 1 }
  | "exit" => some (s.withNumber "exit" args s.status fun n => { s with status := n % 256, ended := true })
  | "return" => some (s.withNumber "return" args s.status fun n => { s with status := n % 256, leaving := some .call })
  | "break" => some (s.leaveLoops "break" args .loop)
  | "continue" => some (s.leaveLoops "continue" args .round)
  | "cd" => some (s.changeDir args)
  | "pwd" => some (s.succeed.print ((Path.ofLocation s.world.cwd).text ++ ['\n']))
  | "set" => some <|
      if args = [] then
        s.succeed.print ((State.sortedValues s.values).flatMap fun (name, value) =>
          name ++ '=' :: State.quotedValue value ++ ['\n'])
      else s.succeed.setOptions args
  | "shift" => some <| s.withNumber "shift" args 1 fun n =>
      if s.arguments.length < n then s.abort 2 "shift: can't shift that many".toList
      else { s.succeed with arguments := s.arguments.drop n }
  | "export" => some (s.exportAll args)
  | "readonly" => some (s.lockAll args)
  | "local" => some (s.localAll args)
  | "unset" => some (s.unsetAll args)
  | "read" => some (s.readInto args)
  | "getopts" => some (s.nextOption args)
  | "trap" => some (s.setTraps args)
  | "kill" => some (s.kill g args)
  | "wait" => some (s.waitFor g.limit args)
  | "eval" => some (if args = [] then s.succeed else g.inner s (Text.join [' '] args))
  | "." => some (s.source g args)
  | "type" => some (args.foldl (fun s name => s.describe name true) s.succeed)
  | "umask" => some (if args = [] then s.succeed.print "0022\n".toList else s.succeed)
  | "ulimit" => some (if args.length < 2 then s.succeed.print "unlimited\n".toList else s.succeed)
  | "times" | "hash" | "jobs" | "alias" | "unalias" | "bg" | "fg" => some s.succeed
  | "echo" => some (s.absorb g.limit (echo s.world args))
  | "printf" => some (s.absorb g.limit (printf s.world args))
  | "test" => some (s.absorb g.limit (testAs "test" s.world args))
  | "[" => some (s.absorb g.limit (bracket s.world args))
  | _ => none

end Cleave.Shell
