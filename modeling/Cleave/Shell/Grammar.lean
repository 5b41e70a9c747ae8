import Cleave.Shell.Token

/-!
# Reading scripts

A script is read and run line by line: `line` reads one list of pipelines up to the end of its last line. Each reader
gives what it has read and the tokens after it, or a complaint about the first token that does not fit.
-/

namespace Cleave.Shell

/-- Words that cannot start a command. -/
def closers : List String :=
  ["\x7d", "then", "elif", "else", "fi", "do", "done", "esac", "in"]

/-- Words that start a command of several parts, or a negation. -/
def openers : List String :=
  ["\x7b", "if", "while", "until", "for", "case", "!"]

/-- The name of a token in a complaint. -/
def Token.shown : Token → Text
  | operator t => if t = ['\n'] then "newline".toList else '"' :: t ++ ['"']
  | redirection _ _ => "redirection".toList
  | here _ _ => "redirection".toList
  | word w =>
    match w.bare? with
    | some t => if closers.contains (String.ofList t) || t = ['!'] then '"' :: t ++ ['"'] else "word".toList
    | none => "word".toList
  | broken _ => []

/-- A complaint about the first of some tokens; `expected` tells what should be there. -/
def unexpected {α : Type} (ts : List Token) (expected : String := "") : Except Text α :=
  let what : Text := match ts with
    | [] => "end of file".toList
    | t :: _ => t.shown
  match ts with
  | .broken why :: _ => .error why
  | _ => .error (what ++ " unexpected".toList ++
      if expected = "" then [] else " (expecting ".toList ++ expected.toList ++ [')'])

/-- A word in quotes, as complaints have it. -/
def quotedName (s : String) : String :=
  "\"" ++ s ++ "\""

/-- The redirection that a token and the word after it make. -/
def redirection (stream : Option Nat) (arrow : Text) (w : Word) : Except Text Redirection :=
  let same (fallback : Nat) : Except Text Redirection :=
    match w with
    | [.text _ [c]] =>
      if c.isDigit then .ok (.same (stream.getD fallback) (some (c.toNat - '0'.toNat)))
      else if c = '-' then .ok (.same (stream.getD fallback) none)
      else .error "Bad fd number".toList
    | _ => .error "Bad fd number".toList
  if arrow = ['<'] || arrow = "<>".toList then .ok (.input (stream.getD 0) w)
  else if arrow = ">>".toList then .ok (.append (stream.getD 1) w)
  else if arrow = ">&".toList then same 1
  else if arrow = "<&".toList then same 0
  else .ok (.write (stream.getD 1) w)

/-- The redirections at the start of some tokens. -/
def redirections : List Token → Except Text (List Redirection × List Token)
  | .redirection s a :: .word w :: r => do
    let first ← redirection s a w
    let (more, r) ← redirections r
    return (first :: more, r)
  | .here s body :: r => (redirections r).map fun (more, r) => (.here (s.getD 0) body :: more, r)
  | .redirection _ _ :: r => unexpected r
  | ts => .ok ([], ts)

/-- The words and redirections of a command. -/
def commandWords : List Token → Except Text ((List Word × List Redirection) × List Token)
  | .word w :: r => (commandWords r).map fun ((ws, rs), r) => ((w :: ws, rs), r)
  | .redirection s a :: .word w :: r => do
    let first ← redirection s a w
    let ((ws, rs), r) ← commandWords r
    return ((ws, first :: rs), r)
  | .here s body :: r => (commandWords r).map fun ((ws, rs), r) => ((ws, .here (s.getD 0) body :: rs), r)
  | .redirection _ _ :: r => unexpected r
  | ts => .ok (([], []), ts)

/-- Whether tokens can end a list of steps. -/
def endsSteps : List Token → Bool
  | [] => true
  | t :: _ => t.isOperator ")" || t.isOperator ";;" || closers.any (t.isKeyword ·)

/-- Passes over a word that must come next. -/
def expect (s : String) : List Token → Except Text (List Token)
  | t :: r => if t.isKeyword s then .ok r else unexpected (t :: r) (quotedName s)
  | [] => unexpected [] (quotedName s)

/-- Complains about a part that has no steps before a closing word. -/
def needSteps (steps : List Step) (closing : String) (ts : List Token) : Except Text Unit :=
  if !steps.isEmpty then .ok ()
  else if ts.isEmpty then unexpected [] (quotedName closing)
  else unexpected ts

/-- The words up to the end of a line. -/
def lineWords : List Token → Except Text (List Word × List Token)
  | .word w :: r => (lineWords r).map fun (ws, r) => (w :: ws, r)
  | .operator t :: r => if t = [';'] || t = ['\n'] then .ok ([], r) else unexpected (.operator t :: r)
  | ts => unexpected ts

/-- Passes over line ends. -/
def skipLineEnds (ts : List Token) : List Token :=
  ts.dropWhile (·.isOperator "\n")

/-- The patterns of a case up to the parenthesis after them. -/
def casePatterns : List Token → Except Text (List Word × List Token)
  | .word w :: t :: r =>
    if t.isOperator "|" then (casePatterns r).map fun (ws, r) => (w :: ws, r)
    else if t.isOperator ")" then .ok ([w], r)
    else unexpected (t :: r) (quotedName ")")
  | [.word _] => unexpected [] (quotedName ")")
  | ts => unexpected ts (quotedName ")")

/-- The words of a loop over words; without any it goes over the arguments. -/
def eachWords (ts : List Token) : Except Text (Option (List Word) × List Token) :=
  match skipLineEnds ts with
  | t :: r =>
    if t.isKeyword "in" then (lineWords r).map fun (ws, r) => (some ws, r)
    else if t.isOperator ";" then .ok (none, r)
    else .ok (none, t :: r)
  | [] => unexpected [] (quotedName "do")

mutual

/-- One command. -/
def command : (fuel : Nat) → List Token → Except Text (Command × List Token)
  | 0, ts => unexpected ts
  | fuel + 1, ts =>
    match ts with
    | .word w :: opening :: r =>
      if opening.isOperator "(" && !(openers ++ closers).any ((Token.word w).isKeyword ·) then
        match r with
        | [] => unexpected [] (quotedName ")")
        | closing :: r =>
          if !closing.isOperator ")" then unexpected (closing :: r) (quotedName ")")
          else if !(w.bare?.any isName) then .error "Bad function name".toList
          else do
            let (body, r) ← command fuel (skipLineEnds r)
            return (.define (w.bare?.getD []) body, r)
      else compound fuel (.word w :: opening :: r)
    | ts => compound fuel ts

/-- A script up to its closing mark. -/
def grouped : (fuel : Nat) → (subshell : Bool) → List Token → Except Text (Command × List Token)
  | 0, _, ts => unexpected ts
  | fuel + 1, subshell, ts => do
    let closing := if subshell then ")" else "\x7d"
    let (body, r) ← steps fuel false .always ts
    needSteps body closing r
    match r with
    | t :: rest =>
      if (if subshell then t.isOperator closing else t.isKeyword closing) then
        let (rs, r) ← redirections rest
        return (.group subshell body rs, r)
      else unexpected r (quotedName closing)
    | [] => unexpected [] (quotedName closing)

/-- A command that is no definition. -/
def compound : (fuel : Nat) → List Token → Except Text (Command × List Token)
  | 0, ts => unexpected ts
  | fuel + 1, ts =>
    match ts with
    | [] => unexpected []
    | t :: r =>
      if t.isOperator "(" then grouped fuel true r
      else if t.isKeyword "\x7b" then grouped fuel false r
      else if t.isKeyword "if" then do
        let ((condition, yes, no), r) ← branch fuel r
        let (rs, r) ← redirections r
        return (.branch condition yes no rs, r)
      else if t.isKeyword "while" || t.isKeyword "until" then do
        let (condition, r) ← steps fuel false .always r
        needSteps condition "do" r
        let (body, r) ← steps fuel false .always (← expect "do" r)
        needSteps body "done" r
        let (rs, r) ← redirections (← expect "done" r)
        return (.loop (t.isKeyword "until") condition body rs, r)
      else if t.isKeyword "for" then
        match r with
        | .word w :: r =>
          if !(w.bare?.any isName) then .error "Bad for loop variable".toList
          else do
            let (ws, r) ← eachWords r
            let (body, r) ← steps fuel false .always (← expect "do" (skipLineEnds r))
            needSteps body "done" r
            let (rs, r) ← redirections (← expect "done" r)
            return (.each (w.bare?.getD []) ws body rs, r)
        | _ => .error "Bad for loop variable".toList
      else if t.isKeyword "case" then
        match r with
        | .word w :: r => do
          let (cs, r) ← cases fuel (← expect "in" (skipLineEnds r))
          let (rs, r) ← redirections r
          return (.choose w cs rs, r)
        | r => unexpected r "word"
      else if closers.any (t.isKeyword ·) || t.isKeyword "!" then unexpected ts
      else do
        let ((ws, rs), r) ← commandWords ts
        if ws.isEmpty && rs.isEmpty then unexpected ts
        else if r.head?.any (·.isOperator "(") then unexpected r
        else return (.words ws rs, r)

/-- The cases of a choice up to its last word. -/
def cases : (fuel : Nat) → List Token → Except Text (List Case × List Token)
  | 0, ts => unexpected ts
  | fuel + 1, ts =>
    match skipLineEnds ts with
    | [] => unexpected [] (quotedName ")")
    | t :: r =>
      if t.isKeyword "esac" then .ok ([], r)
      else do
        let (patterns, r) ← casePatterns (if t.isOperator "(" then r else t :: r)
        let (body, r) ← steps fuel false .always r
        match r with
        | t :: rest =>
          if t.isOperator ";;" then
            let (more, r) ← cases fuel rest
            return (.mk patterns body :: more, r)
          else if t.isKeyword "esac" then return ([.mk patterns body], rest)
          else unexpected r (quotedName ";;")
        | [] => unexpected [] (quotedName ";;")

/-- A branch after its first word: the condition, what follows if it succeeds, and what follows otherwise. -/
def branch : (fuel : Nat) → List Token → Except Text ((List Step × List Step × List Step) × List Token)
  | 0, ts => unexpected ts
  | fuel + 1, ts => do
    let (condition, r) ← steps fuel false .always ts
    needSteps condition "then" r
    let (yes, r) ← steps fuel false .always (← expect "then" r)
    needSteps yes "fi" r
    match r with
    | t :: rest =>
      if t.isKeyword "elif" then
        let ((condition', yes', no'), r) ← branch fuel rest
        return ((condition, yes, [.mk .always .next false [.branch condition' yes' no' []]]), r)
      else if t.isKeyword "else" then
        let (no, r) ← steps fuel false .always rest
        needSteps no "fi" r
        return ((condition, yes, no), ← expect "fi" r)
      else return ((condition, yes, []), ← expect "fi" r)
    | [] => unexpected [] (quotedName "fi")

/-- The commands of a pipeline. -/
def pipeline : (fuel : Nat) → List Token → Except Text (List Command × List Token)
  | 0, ts => unexpected ts
  | fuel + 1, ts => do
    let (c, r) ← command fuel ts
    match r with
    | t :: rest =>
      if t.isOperator "|" then
        let (cs, r) ← pipeline fuel (skipLineEnds rest)
        return (c :: cs, r)
      else return ([c], r)
    | [] => return ([c], [])

/-- The steps up to the end of a part of a script, or of a line. -/
def steps : (fuel : Nat) → (oneLine : Bool) → Link → List Token → Except Text (List Step × List Token)
  | 0, _, _, ts => unexpected ts
  | fuel + 1, oneLine, link, ts =>
    let ts := if oneLine && link = .always then ts else skipLineEnds ts
    let finished := endsSteps ts || (oneLine && ts.head?.any (·.isOperator "\n"))
    if link = .always && finished then .ok ([], ts)
    else do
      let negated := ts.head?.any (·.isKeyword "!")
      let (p, r) ← pipeline fuel (if negated then ts.drop 1 else ts)
      let step (ending : Ending) : Step := .mk link ending negated p
      let followed (ending : Ending) (next : Link) (rest : List Token) : Except Text (List Step × List Token) := do
        let (more, r) ← steps fuel oneLine next rest
        return (step ending :: more, r)
      match r with
      | t :: rest =>
        if t.isOperator ";" || (!oneLine && t.isOperator "\n") then followed .next .always rest
        else if t.isOperator "&" then followed .background .always rest
        else if t.isOperator "&&" then followed .chained .onSuccess rest
        else if t.isOperator "||" then followed .chained .onFailure rest
        else return ([step .next], r)
      | [] => return ([step .next], [])

end

/-- The steps of the next line, and what follows it. -/
def line (ts : List Token) : Except Text (List Step × List Token) := do
  let (found, r) ← steps (4 * ts.length + 4) true .always ts
  match r with
  | [] => return (found, [])
  | t :: rest => if t.isOperator "\n" then return (found, rest) else unexpected r

end Cleave.Shell
