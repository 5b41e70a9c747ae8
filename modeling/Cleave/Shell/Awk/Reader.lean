import Cleave.Shell.Awk.Script
import Cleave.Shell.Print
import Cleave.Shell.Search

/-!
# Reading scripts over records

The text of a script is cut into tokens, and these are read by precedence: assignments bind least, then choices,
alternatives, conjunctions, membership, matches, comparisons, joined texts, sums, products, signs and powers.
-/

namespace Cleave.Shell.Awk

/-- A token. -/
inductive Token
  | number (x : Float)
  | text (t : Text)
  | pattern (t : Text)
  | name (t : Text)
  | sign (t : Text)
  | newline
  deriving BEq

/-- Whether a token is a sign. -/
def Token.isSign (s : String) : Token → Bool
  | sign t => t = s.toList
  | _ => false

/-- Whether a token is a word. -/
def Token.isName (s : String) : Token → Bool
  | name t => t = s.toList
  | _ => false

/-- Words that are no variables. -/
def keywords : List Text :=
  ["BEGIN", "END", "if", "else", "while", "do", "for", "in", "print", "printf", "next", "exit", "break", "continue",
   "delete", "getline", "function", "return"].map String.toList

/-- Whether a value may end with a token, so that a slash after it divides. -/
def Token.endsValue : Token → Bool
  | number _ => true
  | text _ => true
  | name t => !keywords.contains t
  | sign t => t = [')'] || t = [']'] || t = ['$'] || t = "++".toList || t = "--".toList
  | _ => false

/-- The text up to a quote, and what follows it. -/
def quoted : (fuel : Nat) → Text → Option (Text × Text)
  | 0, _ => none
  | _, [] => none
  | _, '"' :: r => some ([], r)
  | fuel + 1, '\\' :: c :: r =>
    let digits := octalDigits 3 (c :: r)
    if digits != [] then
      (quoted fuel ((c :: r).drop digits.length)).map fun (t, r) => (Char.ofNat (octal digits) :: t, r)
    else
      let plain : Text := if c = '"' then ['"'] else if c = '/' then ['/'] else match escape? c with
        | some x => [x]
        | none => ['\\', c]
      (quoted fuel r).map fun (t, r) => (plain ++ t, r)
  | fuel + 1, c :: r => (quoted fuel r).map fun (t, r) => (c :: t, r)

/-- The text up to a slash that is not in brackets, and what follows it. -/
def slashed : (inBrackets : Bool) → Text → Option (Text × Text)
  | _, [] => none
  | b, '\\' :: c :: r => (slashed b r).map fun (t, r) => (if c = '/' then '/' :: t else '\\' :: c :: t, r)
  | b, c :: r =>
    if c = '/' && !b then some ([], r)
    else (slashed (if c = '[' then true else if c = ']' then false else b) r).map fun (t, r) => (c :: t, r)

/-- Signs of more than one character. -/
def longSigns : List Text :=
  ["&&", "||", "==", "!=", "<=", ">=", ">>", "++", "--", "+=", "-=", "*=", "/=", "%=", "^=", "!~", "**"].map
    String.toList

/-- The tokens of a script, the last one first. -/
def tokensFrom : (fuel : Nat) → List Token → Text → Option (List Token)
  | 0, _, _ => none
  | _, done, [] => some done
  | fuel + 1, done, c :: r =>
    if c = ' ' || c = '\t' || c = '\r' then tokensFrom fuel done r
    else if c = '\n' then tokensFrom fuel (.newline :: done) r
    else if c = '\\' && r.head? = some '\n' then tokensFrom fuel done (r.drop 1)
    else if c = '#' then tokensFrom fuel done (r.dropWhile (· != '\n'))
    else if c = '"' then (quoted (r.length + 1) r).bind fun (t, r) => tokensFrom fuel (.text t :: done) r
    else if c = '/' && !(done.head?.any Token.endsValue) then
      (slashed false r).bind fun (t, r) => tokensFrom fuel (.pattern t :: done) r
    else if c.isDigit || (c = '.' && r.head?.any Char.isDigit) then
      let (x, rest) := leadingFraction (c :: r)
      tokensFrom fuel (.number x :: done) rest
    else if c.isAlpha || c = '_' then
      let more := r.takeWhile fun c => c.isAlphanum || c == '_'
      tokensFrom fuel (.name (c :: more) :: done) (r.drop more.length)
    else if longSigns.contains ((c :: r).take 2) then tokensFrom fuel (.sign ((c :: r).take 2) :: done) (r.drop 1)
    else tokensFrom fuel (.sign [c] :: done) r

/-- The tokens of a script. -/
def tokens? (t : Text) : Option (List Token) :=
  (tokensFrom (t.length + 1) [] t).map List.reverse

/-- What may be read: a value that no longer takes in the sign `>` or the word `in` where these have another
meaning. -/
structure Limits where
  noGreater : Bool := false
  noIn : Bool := false

/-- Passes over line ends. -/
def skipLines (ts : List Token) : List Token :=
  ts.dropWhile (· matches .newline)

/-- Passes over line ends and semicolons. -/
def skipEnds (ts : List Token) : List Token :=
  ts.dropWhile fun t => t matches .newline || t.isSign ";"

/-- Passes over a sign that must come next. -/
def expectSign (s : String) : List Token → Option (List Token)
  | t :: r => if t.isSign s then some r else none
  | [] => none

/-- Whether an expression can be given a value. -/
def Expr.isTarget : Expr → Bool
  | named _ => true
  | item _ _ => true
  | field _ => true
  | _ => false

/-- Signs that give a value to a variable. -/
def assigning? (t : Token) : Option (Option Operation) :=
  match t with
  | .sign s =>
    match String.ofList s with
    | "=" => some none
    | "+=" => some (some .add)
    | "-=" => some (some .sub)
    | "*=" => some (some .mul)
    | "/=" => some (some .div)
    | "%=" => some (some .mod)
    | "^=" => some (some .pow)
    | _ => none
  | _ => none

/-- The comparison that a sign stands for. -/
def comparison? (l : Limits) (t : Token) : Option Comparison :=
  match t with
  | .sign s =>
    match String.ofList s with
    | "<" => some .less
    | "<=" => some .lessOrEqual
    | "==" => some .equal
    | "!=" => some .notEqual
    | ">=" => some .greaterOrEqual
    | ">" => if l.noGreater then none else some .greater
    | _ => none
  | _ => none

/-- Whether a joined text may go on with a token. -/
def startsValue : Token → Bool
  | .number _ => true
  | .text _ => true
  | .name t => !keywords.contains t
  | .sign t => t = ['$'] || t = ['('] || t = ['!'] || t = ['-'] || t = ['+'] || t = "++".toList || t = "--".toList
  | _ => false

/-- Functions that may be called. -/
def functions : List Text :=
  ["length", "substr", "index", "split", "sub", "gsub", "match", "sprintf", "tolower", "toupper", "int", "sqrt", "exp",
   "log", "sin", "cos", "atan2", "close"].map String.toList

mutual

/-- An expression. -/
def expr? : (fuel : Nat) → Limits → List Token → Option (Expr × List Token)
  | 0, _, _ => none
  | fuel + 1, l, ts => do
    let (e, r) ← chosen? fuel l ts
    match r with
    | t :: rest =>
      match assigning? t with
      | some op =>
        if e.isTarget then
          let (v, r) ← expr? fuel l (skipLines rest)
          return (.assign op e v, r)
        else none
      | none => return (e, r)
    | [] => return (e, [])

/-- A choice between two values. -/
def chosen? : (fuel : Nat) → Limits → List Token → Option (Expr × List Token)
  | 0, _, _ => none
  | fuel + 1, l, ts => do
    let (c, r) ← either? fuel l ts
    match r with
    | t :: rest =>
      if t.isSign "?" then
        let (yes, r) ← expr? fuel l (skipLines rest)
        let (no, r) ← expr? fuel l (skipLines (← expectSign ":" (skipLines r)))
        return (.choose c yes no, r)
      else return (c, r)
    | [] => return (c, [])

/-- Alternatives. -/
def either? : (fuel : Nat) → Limits → List Token → Option (Expr × List Token)
  | 0, _, _ => none
  | fuel + 1, l, ts => do
    let (a, r) ← both? fuel l ts
    match r with
    | t :: rest =>
      if t.isSign "||" then
        let (b, r) ← either? fuel l (skipLines rest)
        return (.either a b, r)
      else return (a, r)
    | [] => return (a, [])

/-- Conjunctions. -/
def both? : (fuel : Nat) → Limits → List Token → Option (Expr × List Token)
  | 0, _, _ => none
  | fuel + 1, l, ts => do
    let (a, r) ← member? fuel l ts
    match r with
    | t :: rest =>
      if t.isSign "&&" then
        let (b, r) ← both? fuel l (skipLines rest)
        return (.both a b, r)
      else return (a, r)
    | [] => return (a, [])

/-- Membership in a table. -/
def member? : (fuel : Nat) → Limits → List Token → Option (Expr × List Token)
  | 0, _, _ => none
  | fuel + 1, l, ts => do
    let (a, r) ← fits? fuel l ts
    match r with
    | t :: .name table :: rest =>
      if t.isName "in" && !l.noIn then return (.member [a] table, rest) else return (a, r)
    | r => return (a, r)

/-- Matches with a pattern. -/
def fits? : (fuel : Nat) → Limits → List Token → Option (Expr × List Token)
  | 0, _, _ => none
  | fuel + 1, l, ts => do
    let (a, r) ← compared? fuel l ts
    match r with
    | t :: rest =>
      if t.isSign "~" || t.isSign "!~" then
        let (b, r) ← compared? fuel l rest
        return (.fits (t.isSign "!~") a b, r)
      else return (a, r)
    | [] => return (a, [])

/-- Comparisons. -/
def compared? : (fuel : Nat) → Limits → List Token → Option (Expr × List Token)
  | 0, _, _ => none
  | fuel + 1, l, ts => do
    let (a, r) ← summed? fuel l ts
    let (a, r) ← joined? fuel l a r
    match r with
    | t :: rest =>
      match comparison? l t with
      | some op =>
        let (b, r) ← summed? fuel l rest
        let (b, r) ← joined? fuel l b r
        return (.compare op a b, r)
      | none => return (a, r)
    | [] => return (a, [])

/-- The rest of a joined text. -/
def joined? : (fuel : Nat) → Limits → Expr → List Token → Option (Expr × List Token)
  | 0, _, _, _ => none
  | fuel + 1, l, a, ts =>
    if ts.head?.any startsValue then do
      let (b, r) ← summed? fuel l ts
      joined? fuel l (.join a b) r
    else some (a, ts)

/-- A sum. -/
def summed? : (fuel : Nat) → Limits → List Token → Option (Expr × List Token)
  | 0, _, _ => none
  | fuel + 1, l, ts => do
    let (a, r) ← multiplied? fuel l ts
    addends? fuel l a r

/-- The rest of a sum. -/
def addends? : (fuel : Nat) → Limits → Expr → List Token → Option (Expr × List Token)
  | 0, _, _, _ => none
  | fuel + 1, l, a, ts =>
    match ts with
    | t :: rest =>
      if t.isSign "+" || t.isSign "-" then do
        let (b, r) ← multiplied? fuel l rest
        addends? fuel l (.calculate (if t.isSign "+" then .add else .sub) a b) r
      else some (a, ts)
    | [] => some (a, [])

/-- A product. -/
def multiplied? : (fuel : Nat) → Limits → List Token → Option (Expr × List Token)
  | 0, _, _ => none
  | fuel + 1, l, ts => do
    let (a, r) ← signed? fuel l ts
    factors? fuel l a r

/-- The rest of a product. -/
def factors? : (fuel : Nat) → Limits → Expr → List Token → Option (Expr × List Token)
  | 0, _, _, _ => none
  | fuel + 1, l, a, ts =>
    match ts with
    | t :: rest =>
      if t.isSign "*" || t.isSign "/" || t.isSign "%" then do
        let (b, r) ← signed? fuel l rest
        let op : Operation := if t.isSign "*" then .mul else if t.isSign "/" then .div else .mod
        factors? fuel l (.calculate op a b) r
      else some (a, ts)
    | [] => some (a, [])

/-- A value with signs before it. -/
def signed? : (fuel : Nat) → Limits → List Token → Option (Expr × List Token)
  | 0, _, _ => none
  | fuel + 1, l, ts =>
    match ts with
    | t :: rest =>
      if t.isSign "!" then (signed? fuel l rest).map fun (e, r) => (.not e, r)
      else if t.isSign "-" then (signed? fuel l rest).map fun (e, r) => (.negative e, r)
      else if t.isSign "+" then (signed? fuel l rest).map fun (e, r) => (.positive e, r)
      else power? fuel l ts
    | [] => none

/-- A power. -/
def power? : (fuel : Nat) → Limits → List Token → Option (Expr × List Token)
  | 0, _, _ => none
  | fuel + 1, l, ts => do
    let (a, r) ← changed? fuel l ts
    match r with
    | t :: rest =>
      if t.isSign "^" || t.isSign "**" then
        let (b, r) ← signed? fuel l rest
        return (.calculate .pow a b, r)
      else return (a, r)
    | [] => return (a, [])

/-- A value with a step before or after it. -/
def changed? : (fuel : Nat) → Limits → List Token → Option (Expr × List Token)
  | 0, _, _ => none
  | fuel + 1, l, ts =>
    match ts with
    | t :: rest =>
      if t.isSign "++" || t.isSign "--" then do
        let (e, r) ← changed? fuel l rest
        if e.isTarget then return (.change (if t.isSign "++" then 1 else -1) false e, r) else none
      else do
        let (e, r) ← primary? fuel l ts
        match r with
        | t :: rest =>
          if e.isTarget && (t.isSign "++" || t.isSign "--") then
            return (.change (if t.isSign "++" then 1 else -1) true e, rest)
          else return (e, r)
        | [] => return (e, [])
    | [] => none

/-- A single value. -/
def primary? : (fuel : Nat) → Limits → List Token → Option (Expr × List Token)
  | 0, _, _ => none
  | fuel + 1, l, ts =>
    match ts with
    | .number x :: r => some (.number x, r)
    | .text t :: r => some (.text t, r)
    | .pattern t :: r => (regex? false false t).map fun p => (.pattern p, r)
    | .name t :: r =>
      if keywords.contains t then none
      else if functions.contains t then
        match r with
        | opening :: rest =>
          if opening.isSign "(" then do
            let (args, r) ← list? fuel {} ")" (skipLines rest)
            return (.call t args, r)
          else if t = "length".toList then some (.call t [], r)
          else none
        | [] => if t = "length".toList then some (.call t [], []) else none
      else
        match r with
        | opening :: rest =>
          if opening.isSign "[" then do
            let (key, r) ← list? fuel {} "]" rest
            return (.item t key, r)
          else some (.named t, r)
        | [] => some (.named t, [])
    | t :: r =>
      if t.isSign "$" then (changed? fuel l r).map fun (e, r) =>
        match e with
        | .change delta true target => (.change delta true (.field target), r)
        | e => (.field e, r)
      else if t.isSign "(" then do
        let (es, r) ← list? fuel {} ")" (skipLines r)
        match es, r with
        | [e], r => return (e, r)
        | es, t :: .name table :: r => if t.isName "in" then return (.member es table, r) else none
        | _, _ => none
      else none
    | [] => none

/-- Expressions between commas up to a closing sign. -/
def list? : (fuel : Nat) → Limits → (closing : String) → List Token → Option (List Expr × List Token)
  | 0, _, _, _ => none
  | fuel + 1, l, closing, ts =>
    match ts with
    | t :: r =>
      if t.isSign closing then some ([], r)
      else do
        let (e, r) ← expr? fuel l ts
        match skipLines r with
        | t :: r =>
          if t.isSign closing then return ([e], r)
          else if t.isSign "," then
            let (es, r) ← list? fuel l closing (skipLines r)
            return (e :: es, r)
          else none
        | [] => none
    | [] => none

end

/-- Expressions between commas up to something else. -/
def openList? : (fuel : Nat) → List Token → Option (List Expr × List Token)
  | 0, _ => none
  | fuel + 1, ts => do
    let (e, r) ← expr? (8 * ts.length + 16) { noGreater := true } ts
    match r with
    | t :: rest =>
      if t.isSign "," then
        let (es, r) ← openList? fuel (skipLines rest)
        return (e :: es, r)
      else return ([e], r)
    | [] => return ([e], [])

/-- Whether a statement may end before a token. -/
def endsStatement : List Token → Bool
  | [] => true
  | t :: _ => t matches .newline || t.isSign ";" || t.isSign "\x7d"

/-- Whether the arguments of an output may end before a token. -/
def endsOutput (ts : List Token) : Bool :=
  endsStatement ts || ts.head?.any fun t => t.isSign ">" || t.isSign ">>" || t.isSign "|"

/-- The arguments of an output and the file that it goes to. -/
def output? (fuel : Nat) (ts : List Token) : Option (List Expr × Option (Bool × Expr) × List Token) := do
  let bracketed : Option (List Expr × List Token) := match ts with
    | t :: r => if t.isSign "(" then (list? fuel {} ")" (skipLines r)).filter fun (_, r) => endsOutput r else none
    | [] => none
  let (args, r) ← if endsOutput ts then some ([], ts) else bracketed.or (openList? fuel ts)
  match r with
  | t :: rest =>
    if t.isSign ">" || t.isSign ">>" then
      let (e, r) ← summed? fuel { noGreater := true } rest
      let (e, r) ← joined? fuel { noGreater := true } e r
      return (args, some (t.isSign ">>", e), r)
    else if t.isSign "|" then none
    else return (args, none, r)
  | [] => return (args, none, [])

/-- A statement without parts of its own, and what follows it. -/
def simple? (fuel : Nat) (ts : List Token) : Option (Statement × List Token) :=
  match ts with
  | .name t :: r =>
    match String.ofList t with
    | "print" => (output? fuel r).map fun (args, file, r) => (.print args file, r)
    | "printf" => (output? fuel r).map fun (args, file, r) => (.printf args file, r)
    | "next" => some (.next, r)
    | "break" => some (.leaveLoop, r)
    | "continue" => some (.leaveRound, r)
    | "exit" =>
      if endsStatement r then some (.exit none, r)
      else (expr? fuel {} r).map fun (e, r) => (.exit (some e), r)
    | "delete" =>
      match r with
      | .name table :: opening :: rest =>
        if opening.isSign "[" then (list? fuel {} "]" rest).map fun (key, r) => (.delete table (some key), r)
        else some (.delete table none, opening :: rest)
      | [.name table] => some (.delete table none, [])
      | _ => none
    | _ => (expr? fuel {} ts).map fun (e, r) => (.eval e, r)
  | ts => (expr? fuel {} ts).map fun (e, r) => (.eval e, r)

/-- Passes over the end of a statement; before a closing brace there is none. -/
def afterStatement (ts : List Token) : List Token :=
  match ts with
  | t :: r => if t matches .newline || t.isSign ";" then r else t :: r
  | [] => []

mutual

/-- A statement as a list. -/
def statement? : (fuel : Nat) → List Token → Option (List Statement × List Token)
  | 0, _ => none
  | fuel + 1, ts =>
    let ts := skipLines ts
    let value? := expr? (8 * ts.length + 16) {}
    match ts with
    | [] => some ([], [])
    | t :: r =>
      if t.isSign ";" then some ([], r)
      else if t.isSign "\x7b" then statements? fuel r
      else if t.isName "if" then do
        let (c, r) ← value? (← expectSign "(" r)
        let (yes, r) ← statement? fuel (← expectSign ")" r)
        match skipEnds r with
        | t :: rest =>
          if t.isName "else" then
            let (no, r) ← statement? fuel rest
            return ([.branch c yes no], r)
          else return ([.branch c yes []], r)
        | [] => return ([.branch c yes []], [])
      else if t.isName "while" then do
        let (c, r) ← value? (← expectSign "(" r)
        let (body, r) ← statement? fuel (← expectSign ")" r)
        return ([.loop false [] (some c) [] body], r)
      else if t.isName "do" then do
        let (body, r) ← statement? fuel r
        match skipEnds r with
        | t :: r =>
          if t.isName "while" then
            let (c, r) ← value? (← expectSign "(" r)
            return ([.loop true [] (some c) [] body], afterStatement (← expectSign ")" r))
          else none
        | [] => none
      else if t.isName "for" then
        match r with
        | opening :: .name name :: word :: .name table :: closing :: rest =>
          if opening.isSign "(" && word.isName "in" && closing.isSign ")" then do
            let (body, r) ← statement? fuel rest
            return ([.each name table body], r)
          else counted? fuel r
        | r => counted? fuel r
      else do
        let (s, r) ← simple? (8 * ts.length + 16) ts
        if endsStatement r then return ([s], afterStatement r) else none

/-- A loop with a start, a condition and a step, after its first word. -/
def counted? : (fuel : Nat) → List Token → Option (List Statement × List Token)
  | 0, _ => none
  | fuel + 1, ts => do
    let r ← expectSign "(" ts
    let (start, r) ← if r.head?.any (·.isSign ";") then some ([], r)
      else (simple? (8 * r.length + 16) r).map fun (s, r) => ([s], r)
    let r ← expectSign ";" r
    let (condition, r) ← if r.head?.any (·.isSign ";") then some (none, r)
      else (expr? (8 * r.length + 16) {} r).map fun (e, r) => (some e, r)
    let r ← expectSign ";" r
    let (after, r) ← if r.head?.any (·.isSign ")") then some ([], r)
      else (simple? (8 * r.length + 16) r).map fun (s, r) => ([s], r)
    let (body, r) ← statement? fuel (← expectSign ")" r)
    return ([.loop false start condition after body], r)

/-- Statements up to a closing brace. -/
def statements? : (fuel : Nat) → List Token → Option (List Statement × List Token)
  | 0, _ => none
  | fuel + 1, ts =>
    match skipEnds ts with
    | [] => none
    | t :: r =>
      if t.isSign "\x7d" then some ([], r)
      else do
        let (first, r) ← statement? fuel (t :: r)
        let (more, r) ← statements? fuel r
        return (first ++ more, r)

end

/-- The rules of a script. -/
def rules? : (fuel : Nat) → List Token → Option (List Rule)
  | 0, _ => none
  | fuel + 1, ts =>
    let room := 8 * ts.length + 16
    let withBody (condition : Condition) (r : List Token) : Option (List Rule) :=
      match r with
      | t :: rest =>
        if t.isSign "\x7b" then do
          let (body, r) ← statements? room rest
          return ⟨condition, some body⟩ :: (← rules? fuel r)
        else if t matches .newline || t.isSign ";" then (rules? fuel rest).map (⟨condition, none⟩ :: ·)
        else none
      | [] => some [⟨condition, none⟩]
    match skipEnds ts with
    | [] => some []
    | t :: r =>
      if t.isSign "\x7b" then withBody .always (t :: r)
      else if t.isName "BEGIN" then withBody .atStart r
      else if t.isName "END" then withBody .atEnd r
      else do
        let (first, r) ← expr? room {} (t :: r)
        match r with
        | t :: rest =>
          if t.isSign "," then
            let (last, r) ← expr? room {} (skipLines rest)
            withBody (.between first last) r
          else withBody (.holds first) r
        | [] => withBody (.holds first) []

/-- Reads a script. -/
def read? (t : Text) : Option (List Rule) := do
  let ts ← tokens? t
  rules? (ts.length + 2) ts

end Cleave.Shell.Awk
