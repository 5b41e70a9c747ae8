import Cleave.Shell.Builtin

/-!
# Running commands by name

The first word of a command names a function of the script, a command of the shell or a program. Some programs run
other commands themselves.
-/

namespace Cleave.Shell

/-- Calls a function. -/
def callFunction (g : Setting) (s : State) (body : Command) (args : List Text) : State :=
  let done := g.call { s with arguments := args, outer := [], loops := 0, inCall := true } body
  let done := done.outer.foldl State.restore done
  { done with
    arguments := s.arguments
    outer := s.outer
    loops := s.loops
    inCall := s.inCall
    leaving := if done.leaving = some .call then none else done.leaving }

/-- The directories of the programs. -/
def programDirs : List Location :=
  [["bin".toList], ["usr".toList, "bin".toList]]

/-- Lists of at most `n` values each. -/
def batches {α : Type} (n : Nat) : (fuel : Nat) → List α → List (List α)
  | 0, _ => []
  | _, [] => []
  | fuel + 1, xs => xs.take n :: batches n fuel (xs.drop n)

/-- The words of a text between blanks, where quotes keep blanks. -/
def quotedWords : (quote : Option Char) → (current : Option Text) → Text → List Text
  | _, current, [] => (current.map List.reverse).toList
  | none, current, '\\' :: c :: r => quotedWords none (some (c :: current.getD [])) r
  | none, current, c :: r =>
    if c = '\'' || c = '"' then quotedWords (some c) (some (current.getD [])) r
    else if Text.isBlankChar c then (current.map List.reverse).toList ++ quotedWords none none r
    else quotedWords none (some (c :: current.getD [])) r
  | some q, current, c :: r =>
    if c = q then quotedWords none current r else quotedWords (some q) (some (c :: current.getD [])) r

/-- What `xargs` is asked for: the most words of a call, the mark that stands for a line, and the command. -/
structure Calls where
  most : Option Nat := none
  mark : Option Text := none
  command : List Text := []

/-- Reads the arguments of `xargs`. -/
def callsOf : Calls → List Text → Calls
  | c, ['-', 'n'] :: count :: rest => callsOf { c with most := Pattern.number? count } rest
  | c, ('-' :: 'n' :: count) :: rest => callsOf { c with most := Pattern.number? count } rest
  | c, ['-', 'I'] :: text :: rest => callsOf { c with mark := some text } rest
  | c, ('-' :: 'I' :: text) :: rest => callsOf { c with mark := some text } rest
  | c, ('-' :: _) :: rest => callsOf c rest
  | c, command => { c with command := if command = [] then ["echo".toList] else command }

/-- Runs a command with words from the input after its own ones. -/
def xargs (s : State) (args : List Text) (run : State → List Text → State) : State :=
  let input := Utf8.decodeLenient (s.readable 0)
  let ⟨count, mark, command⟩ := callsOf {} args
  let calls := match mark with
    | some text => ((Text.pieces '\n' input).filter (· != [])).map fun line =>
        command.map (Text.replace text (Text.trim line))
    | none =>
      let words := if args.contains "-0".toList then (Text.pieces '\x00' input).filter (· != [])
        else quotedWords none none input
      let quietly := args.contains "-r".toList
      if words = [] then (if quietly then [] else [command])
      else (batches (max 1 (count.getD words.length)) (words.length + 1) words).map (command ++ ·)
  let s := (s.leave 0 []).succeed
  calls.foldl (fun s call =>
    if s.ended then s
    else
      let done := run s call
      { done with status := if done.status != 0 then 123 else s.status }) s

/-- Runs a program for the paths that `find` prints: for each of them, or for all at once. -/
def findAndRun (g : Setting) (s : State) (args : List Text) (run : State → List Text → State) : State :=
  let find (s : State) (args : List Text) : State := s.absorb g.limit (findFiles s.world args [])
  match args.findIdx? (· == "-exec".toList) with
  | none => find s args
  | some i =>
    let command := args.drop (i + 1)
    let together := command.getLast? = some ['+']
    let command := command.dropLast
    let (s, bytes) := s.capture fun s => find s (args.take i)
    let paths := textLines bytes
    let braces := "\x7b\x7d".toList
    if together then run s (command.filter (· != braces) ++ paths)
    else paths.foldl (fun s p => if s.ended then s else run s (command.map (Text.replace braces p))) s

/-- Marks files as programs, if the mode asks for it. -/
def chmod (s : State) (args : List Text) : State :=
  match args.filter (· != "-R".toList) with
  | mode :: files =>
    files.foldl (fun s file =>
      match placeOf s.world file with
      | .ok l =>
        if (s.world.disk.get? l).isNone then
          { s.emit 2 (Utf8.encode ("chmod: cannot access ".toList ++ inQuotes file ++
              ": No such file or directory\n".toList)) with status := 1 }
        else if mode.contains 'x' || mode.contains '7' || mode.contains '5' then
          if mode.contains '-' then { s with runnable := s.runnable.filter (· != l) }
          else { s with runnable := l :: s.runnable }
        else s
      | .error _ => { s with status := 1 }) s.succeed
  | [] => { s with status := 1 }

/-- Runs a program by its path. -/
def runPath (g : Setting) (s : State) (name : Text) (args : List Text) : State :=
  let l := (Path.mk name).locationFrom s.world.cwd
  let base := l.getLast?.getD []
  match if programDirs.contains l.dropLast then programs.lookup base else none with
  | some p => s.absorb g.limit (p s.world args (s.readable 0))
  | none =>
    if programDirs.contains l.dropLast && base = "sh".toList then g.shell s args
    else
      match placeOf s.world name with
      | .ok l =>
        match s.world.disk.get? l with
        | none => s.complain 127 (name ++ ": not found".toList)
        | some (.file _) =>
          if s.runnable.contains l then g.shell s (name :: args)
          else s.complain 126 (name ++ ": Permission denied".toList)
        | some _ => s.complain 126 (name ++ ": Permission denied".toList)
      | .error _ => s.complain 127 (name ++ ": not found".toList)

/-- Whether programs are found by their names. -/
def State.findsPrograms (s : State) : Bool :=
  (Text.pieces ':' ((s.value? "PATH".toList).getD [])).any fun dir =>
    dir.head? = some '/' && programDirs.contains ((Path.mk dir).locationFrom [])

/-- Prints variables as settings. -/
def printValues (s : State) (values : List (Text × Text)) : State :=
  s.succeed.print (values.flatMap fun (name, value) => name ++ '=' :: value ++ ['\n'])

/-- Prints the variables that programs see, or one of them. -/
def printenv (s : State) (args : List Text) : State :=
  match args with
  | [] => printValues s s.environment
  | name :: _ => match s.environment.lookup name with
    | some value => s.succeed.print (value ++ ['\n'])
    | none => { s with status := 1 }

/-- Runs a command with other variables, or prints them. -/
def env (s : State) (args : List Text) (run : State → List Text → State) : State :=
  let (fresh, args) : State × List Text := match args with
    | ['-', 'i'] :: args => ({ s with exported := [] }, args)
    | ['-'] :: args => ({ s with exported := [] }, args)
    | ['-', 'u'] :: name :: args => ({ s with exported := s.exported.filter (· != name) }, args)
    | args => (s, args)
  let settings := args.takeWhile fun a => a.contains '=' && isName (a.takeWhile (· != '='))
  let within := settings.foldl (fun s a =>
    let name := a.takeWhile (· != '=')
    let s := s.setValue name (a.drop (name.length + 1))
    { s with exported := name :: s.exported.filter (· != name) }) fresh
  let done := match args.drop settings.length with
    | [] => printValues within within.environment
    | args => run within args
  { done with values := s.values, exported := s.exported }

/-- Prints the paths of programs. -/
def which (s : State) (args : List Text) : State :=
  args.foldl (fun s name =>
    if (programs.lookup name).isSome || name = "sh".toList then s.print ("/usr/bin/".toList ++ name ++ ['\n'])
    else { s with status := 1 }) s.succeed

/-- Runs a command for a limited time. -/
def timeout (g : Setting) (s : State) (args : List Text) (run : State → List Text → State) : State :=
  let (signal, args) : Text × List Text := match args with
    | ['-', 's'] :: signal :: args => (signal, args)
    | ['-', 'k'] :: _ :: args => ("TERM".toList, args)
    | args => ("TERM".toList, args)
  match args with
  | [] => s.absorb g.limit (.complained s.world 125 "Try 'timeout --help' for more information.".toList)
  | time :: args =>
    match duration? time with
    | none =>
      s.absorb g.limit (.misused s.world 125 "timeout" ("invalid time interval ".toList ++ inQuotes time))
    | some n =>
      let done := run s args
      if n != 0 && s.millis + n < done.millis then
        let status := if signal? signal = some 9 then 137 else 124
        { done with status, ended := s.ended }.proceed g.limit (s.millis + n)
      else done

/-- Runs a program by its bare name. -/
def runFound (g : Setting) (s : State) (name : Text) (args : List Text) : State :=
  match if s.findsPrograms then programs.lookup name else none with
  | some p => s.absorb g.limit (p s.world args (s.readable 0))
  | none => s.complain 127 (name ++ ": not found".toList)

/-- How deep commands that run commands may be nested. -/
def maxNesting : Nat := 20

/-- Runs a command by its words. The flags tell whether functions and commands of the shell itself are meant, too. -/
def runNamed (g : Setting) : (fuel : Nat) → (functions own : Bool) → State → List Text → State
  | 0, _, _, s, _ => { s with status := 126 }
  | _, _, _, s, [] => s.succeed
  | fuel + 1, functions, own, s, name :: args =>
    let run (s : State) (ws : List Text) : State := runNamed g fuel false false s ws
    match if functions then s.functions.lookup name else none with
    | some body => callFunction g s body args
    | none =>
      match if own then builtin? g s name args else none with
      | some s => s
      | none =>
        match String.ofList name, own with
        | "command", true =>
          match args with
          | ['-', 'v'] :: names => names.foldl (fun s name => s.describe name false) s.succeed
          | ['-', 'V'] :: names => names.foldl (fun s name => s.describe name true) s.succeed
          | ['-', 'p'] :: args => runNamed g fuel false true s args
          | args => runNamed g fuel false true s args
        | "exec", true => if args = [] then s.succeed else { run s args with ended := true }
        | "sh", _ => g.shell s args
        | "dash", _ => g.shell s args
        | "chmod", _ => chmod s args
        | "xargs", _ => xargs s args run
        | "nohup", _ => run s args
        | "find", _ => findAndRun g s args run
        | "printenv", _ => printenv s args
        | "env", _ => env s args run
        | "which", _ => which s args
        | "timeout", _ => timeout g s args run
        | _, _ => if name.contains '/' then runPath g s name args else runFound g s name args

end Cleave.Shell
