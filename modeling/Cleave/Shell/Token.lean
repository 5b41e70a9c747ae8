import Cleave.Shell.Script

/-!
# Tokens of scripts

A script is cut into words, operators and redirections. The lines of a text in the script stand after the line
that asks for it; they are put where the redirection is. Where the script cannot be cut any further, the last
token says so.
-/

namespace Cleave.Shell

/-- A token of a script. -/
inductive Token
  | word (w : Word)
  | operator (t : Text)
  | redirection (stream : Option Nat) (t : Text)
  /-- A redirection from a text in the script. -/
  | here (stream : Option Nat) (body : Word)
  /-- What follows cannot be read. -/
  | broken (why : Text)

/-- Whether a token is an operator. -/
def Token.isOperator (s : String) : Token → Bool
  | operator t => t = s.toList
  | _ => false

/-- Whether a token is a word that has a meaning of its own where a command starts. -/
def Token.isKeyword (s : String) : Token → Bool
  | word w => w.bare? = some s.toList
  | _ => false

/-- Adds text to a word. -/
def Word.push (w : Word) (quoted : Bool) (t : Text) : Word :=
  match w.getLast? with
  | some (.text q s) => if q = quoted then w.dropLast ++ [.text q (s ++ t)] else w ++ [.text quoted t]
  | _ => w ++ [.text quoted t]

/-- Characters that end a word. -/
def isMeta (c : Char) : Bool :=
  " \t\n;&|<>()".toList.contains c

/-- Characters of the name of a variable. -/
def isNameChar (c : Char) : Bool :=
  c.isAlphanum || c == '_'

/-- Whether a text is the name of a variable. -/
def isName (t : Text) : Bool :=
  t != [] && t.all isNameChar && !(t.head?.any Char.isDigit)

/-- A position in a text that ends with a parenthesis. -/
structure Enclosure where
  /-- The number of open parentheses. -/
  depth : Nat
  /-- The number of open choices, whose patterns end with parentheses of their own. -/
  choices : Nat := 0
  /-- The last character that is not blank. -/
  last : Char := ';'
  /-- Whether a word starts here. -/
  fresh : Bool := true
  quote : Option Char := none

/-- Whether a text starts with a word. -/
def startsWord (word : String) (t : Text) : Bool :=
  match Text.dropStart? word.toList t with
  | some [] => true
  | some (c :: _) => isMeta c
  | none => false

/-- The text up to the parenthesis that closes the open ones, and what follows it. Parentheses in quotes do not
count. -/
def enclosedText : Enclosure → Text → Option (Text × Text)
  | _, [] => none
  | e, '\\' :: c :: r =>
    let e := { e with last := c, fresh := false }
    let e := if e.quote = some '\'' && c = '\'' then { e with quote := none } else e
    (enclosedText e r).map fun (t, r) => ('\\' :: c :: t, r)
  | e, c :: r =>
    let opensChoice := e.fresh && startsWord "case" (c :: r) && ";\n&|(".toList.contains e.last
    let closesChoice := e.fresh && startsWord "esac" (c :: r)
    let choices := if opensChoice then e.choices + 1 else if closesChoice then e.choices - 1 else e.choices
    let next : Enclosure :=
      { e with choices, fresh := isMeta c, last := if c = ' ' || c = '\t' then e.last else c }
    let go (e : Enclosure) : Option (Text × Text) := (enclosedText e r).map fun (t, r) => (c :: t, r)
    match e.quote with
    | some q => go { e with quote := if c = q then none else some q, last := c, fresh := false }
    | none =>
      if c = '\'' || c = '"' then go { next with quote := some c }
      else if c = '(' then go { next with depth := e.depth + 1 }
      else if c = ')' then
        if e.depth ≤ 1 && e.choices = 0 then some ([], r)
        else if e.depth ≤ 1 then go next
        else go { next with depth := e.depth - 1 }
      else go next

/-- A script between backquotes, and what follows it. A backslash keeps a backquote, a dollar sign or a
backslash, and in double quotes also a double quote. -/
def backquoted (quoted : Bool) : Text → Option (Text × Text)
  | [] => none
  | '\\' :: c :: r =>
    (backquoted quoted r).map fun (t, r) =>
      (if "\x60$\\".toList.contains c || (quoted && c == '"') then c :: t else '\\' :: c :: t, r)
  | c :: r => if c = '\x60' then some ([], r) else (backquoted quoted r).map fun (t, r) => (c :: t, r)

/-- The name of a variable in braces: of letters, a number, or a sign. -/
def bracedName (t : Text) : Text :=
  match t with
  | c :: _ =>
    if c.isDigit then t.takeWhile Char.isDigit
    else if isNameChar c then t.takeWhile isNameChar
    else if "?$#@*!-".toList.contains c then [c]
    else []
  | [] => []

/-- What follows the name of a variable in braces: the use, as a function of the word after it, and whether that
word is a pattern. -/
def bracedUse? (t : Text) : Option ((Word → Use) × Bool × Text) :=
  match t with
  | ':' :: '-' :: r => some (.fallback true, false, r)
  | ':' :: '=' :: r => some (.assign true, false, r)
  | ':' :: '+' :: r => some (.alternative true, false, r)
  | ':' :: '?' :: r => some (.demand true, false, r)
  | '-' :: r => some (.fallback false, false, r)
  | '=' :: r => some (.assign false, false, r)
  | '+' :: r => some (.alternative false, false, r)
  | '?' :: r => some (.demand false, false, r)
  | '#' :: '#' :: r => some (.strip false true, true, r)
  | '#' :: r => some (.strip false false, true, r)
  | '%' :: '%' :: r => some (.strip true true, true, r)
  | '%' :: r => some (.strip true false, true, r)
  | _ => none

/-- Where quoted text ends. -/
inductive Until
  | quote
  | brace
  | end
  deriving DecidableEq

/-- The character that ends quoted text. -/
def Until.char? : Until → Option Char
  | quote => some '"'
  | brace => some '\x7d'
  | .end => none

mutual

/-- What a dollar sign before a text starts, and what follows it. -/
def dollar : (fuel : Nat) → (quoted : Bool) → Text → Option (Piece × Text)
  | 0, _, _ => none
  | fuel + 1, quoted, t =>
    match t with
    | '(' :: '(' :: r => do
      let (e, r) ← enclosedText { depth := 2 } r
      if e.getLast? != some ')' then none
      let (w, _) ← quotedText fuel .end [] e.dropLast
      return (.number quoted w, r)
    | '(' :: r => (enclosedText { depth := 1 } r).map fun (script, r) => (.output quoted script, r)
    | '\x7b' :: '#' :: r =>
      let name := bracedName r
      match name, r.drop name.length with
      | _ :: _, '\x7d' :: r => some (.parameter quoted name .length, r)
      | _, _ => bracedParameter fuel quoted ('#' :: r)
    | '\x7b' :: r => bracedParameter fuel quoted r
    | c :: r =>
      if c.isAlpha || c == '_' then
        let more := r.takeWhile isNameChar
        some (.parameter quoted (c :: more) .value, r.drop more.length)
      else if c.isDigit || "?$#@*!-".toList.contains c then some (.parameter quoted [c] .value, r)
      else some (.text quoted ['$'], c :: r)
    | [] => some (.text quoted ['$'], [])

/-- A variable in braces, after the brace. -/
def bracedParameter : (fuel : Nat) → (quoted : Bool) → Text → Option (Piece × Text)
  | 0, _, _ => none
  | fuel + 1, quoted, t =>
    let name := bracedName t
    if name = [] then none
    else
      match t.drop name.length with
      | '\x7d' :: r => some (.parameter quoted name .value, r)
      | r => do
        let (use, isPattern, r) ← bracedUse? r
        let (w, r) ← if quoted && !isPattern then quotedText fuel .brace [] r else bareText fuel true [] r
        return (.parameter quoted name (use w), r)

/-- Quoted text: a backslash only escapes a few characters. -/
def quotedText : (fuel : Nat) → Until → Word → Text → Option (Word × Text)
  | 0, _, _, _ => none
  | _, limit, w, [] => if limit = .end then some (w, []) else none
  | fuel + 1, limit, w, '\\' :: '\n' :: r => quotedText fuel limit w r
  | fuel + 1, limit, w, '\\' :: c :: r =>
    if "\\$\x60".toList.contains c || limit.char? = some c || (limit = .brace && c = '"') then
      quotedText fuel limit (w.push true [c]) r
    else quotedText fuel limit (w.push true ['\\', c]) r
  | fuel + 1, limit, w, c :: r =>
    if limit.char? = some c then some (w, r)
    else if limit = .brace && c = '"' then quotedText fuel limit w r
    else if c = '$' then (dollar fuel true r).bind fun (piece, r) => quotedText fuel limit (w ++ [piece]) r
    else if c = '\x60' then
      (backquoted true r).bind fun (script, r) => quotedText fuel limit (w ++ [.output true script]) r
    else quotedText fuel limit (w.push true [c]) r

/-- The rest of a word, and what follows it. In braces it ends with them. -/
def bareText : (fuel : Nat) → (inBraces : Bool) → Word → Text → Option (Word × Text)
  | 0, _, _, _ => none
  | _, inBraces, w, [] => if inBraces then none else some (w, [])
  | fuel + 1, inBraces, w, '\'' :: r =>
    let body := r.takeWhile (· != '\'')
    match r.drop body.length with
    | [] => none
    | _ :: r => bareText fuel inBraces (w.push true body) r
  | fuel + 1, inBraces, w, '"' :: '"' :: r => bareText fuel inBraces (w.push true []) r
  | fuel + 1, inBraces, w, '"' :: r =>
    (quotedText fuel .quote [] r).bind fun (inner, r) => bareText fuel inBraces (w ++ inner) r
  | fuel + 1, inBraces, w, '\\' :: '\n' :: r => bareText fuel inBraces w r
  | fuel + 1, inBraces, w, '\\' :: c :: r => bareText fuel inBraces (w.push true [c]) r
  | fuel + 1, inBraces, w, c :: r =>
    if c = '$' then (dollar fuel false r).bind fun (piece, r) => bareText fuel inBraces (w ++ [piece]) r
    else if c = '\x60' then
      (backquoted false r).bind fun (script, r) => bareText fuel inBraces (w ++ [.output false script]) r
    else if inBraces && c = '\x7d' then some (w, r)
    else if !inBraces && isMeta c then some (w, c :: r)
    else bareText fuel inBraces (w.push false [c]) r

end

/-- Why a word has no end. -/
def unterminated : Text := "Unterminated quoted string".toList

/-- A text in the script that is still to be read. -/
structure Pending where
  /-- The position of its token. -/
  position : Nat
  stream : Option Nat
  delimiter : Text
  /-- Whether its lines are taken as they are. -/
  literal : Bool
  /-- Whether tabulators at the start of its lines are dropped. -/
  stripped : Bool

/-- A lexer at work. -/
structure Lexer where
  rest : Text
  tokens : Array Token := #[]
  pending : List Pending := []

namespace Lexer

/-- Adds a token. -/
def push (l : Lexer) (t : Token) (rest : Text) : Lexer :=
  { l with tokens := l.tokens.push t, rest }

/-- The lines up to the delimiter, and what follows it. -/
def hereLines (p : Pending) : (fuel : Nat) → Text → Text × Text
  | 0, t => ([], t)
  | _, [] => ([], [])
  | fuel + 1, t =>
    let whole := t.takeWhile (· != '\n')
    let rest := t.drop (whole.length + 1)
    let line := if p.stripped then whole.dropWhile (· == '\t') else whole
    if line = p.delimiter then ([], rest)
    else if whole.length = t.length then (line, [])
    else
      let (more, rest) := hereLines p fuel rest
      (line ++ '\n' :: more, rest)

/-- Reads the texts that the line before asks for. -/
def readPending (l : Lexer) : Lexer :=
  l.pending.foldl (fun l p =>
    let (body, rest) := hereLines p (l.rest.length + 1) l.rest
    let token := if p.literal then Token.here p.stream [.text true body]
      else match quotedText (2 * body.length + 2) .end [] body with
        | some (w, _) => .here p.stream w
        | none => .broken unterminated
    { l with tokens := l.tokens.setIfInBounds p.position token, rest }) { l with pending := [] }

/-- The text of a delimiter, and whether it is in quotes. -/
def delimiterOf (w : Word) : Text × Bool :=
  w.foldl (fun (t, quoted) piece =>
    match piece with
    | .text q s => (t ++ s, quoted || q)
    | _ => (t, quoted)) ([], false)

/-- Takes in a word. -/
def readWord (l : Lexer) : Option (Word × Lexer) :=
  (bareText (2 * l.rest.length + 2) false [] l.rest).map fun (w, rest) => (w, { l with rest })

/-- Takes in a redirection. -/
def redirect (l : Lexer) (stream : Option Nat) : Option Lexer :=
  match l.rest with
  | '<' :: '<' :: r => do
    let (stripped, r) := match r with
      | '-' :: r => (true, r)
      | r => (false, r)
    let (w, l) ← readWord { l with rest := r.dropWhile fun c => c == ' ' || c == '\t' }
    if w.isEmpty then return l.push (.redirection stream "<<".toList) l.rest
    let (delimiter, literal) := delimiterOf w
    let pending : Pending := { position := l.tokens.size, stream, delimiter, literal, stripped }
    return { l.push (.here stream []) l.rest with pending := l.pending ++ [pending] }
  | t =>
    let n := if [">>".toList, ">&".toList, "<&".toList, ">|".toList, "<>".toList].contains (t.take 2) then 2 else 1
    some (l.push (.redirection stream (t.take n)) (t.drop n))

/-- Operators of two characters. -/
def longOperators : List Text := ["&&".toList, "||".toList, ";;".toList]

/-- Takes in the next token. -/
def step (l : Lexer) : Option Lexer :=
  match l.rest with
  | [] => some l
  | c :: r =>
    if c = ' ' || c = '\t' then some { l with rest := r }
    else if c = '\\' && r.head? = some '\n' then some { l with rest := r.drop 1 }
    else if c = '#' then some { l with rest := r.dropWhile (· != '\n') }
    else if c = '\n' then some (l.push (.operator ['\n']) r).readPending
    else if longOperators.contains (l.rest.take 2) then some (l.push (.operator (l.rest.take 2)) (r.drop 1))
    else if ";&|()".toList.contains c then some (l.push (.operator [c]) r)
    else if c = '<' || c = '>' then l.redirect none
    else if c.isDigit && (r.head? = some '>' || r.head? = some '<') then
      { l with rest := r }.redirect (some (c.toNat - '0'.toNat))
    else l.readWord.map fun (w, l) => l.push (.word w) l.rest

/-- Takes in everything. -/
def run : (fuel : Nat) → Lexer → Lexer
  | 0, l => l
  | fuel + 1, l =>
    if l.rest = [] then l.readPending
    else
      match l.step with
      | some l => run fuel l
      | none => l.push (.broken unterminated) []

end Lexer

/-- The tokens of a script. -/
def tokens (script : Text) : List Token :=
  (Lexer.run (script.length + 1) { rest := script }).tokens.toList

end Cleave.Shell
