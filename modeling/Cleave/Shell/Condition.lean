import Cleave.Pattern.Basic
import Cleave.Shell.Process

/-!
# Conditions

`test` looks at texts, numbers and files. Conditions are joined by `-a`, `-o`, `!` and parentheses; of two that are
joined, both are evaluated from left to right, and `-a` binds more strongly.
-/

namespace Cleave.Shell

/-- Whether a condition on one path holds. -/
def testPath (w : World) (option : Char) (p : Path) : Bool :=
  let node := (w.disk.stat w.cwd p).toOption
  match option with
  | 'e' => node.isSome
  | 'f' => node.any (· matches .file _)
  | 'd' => node.any (· == .dir)
  | 's' => node.any fun n => match n with
    | .file content => content != []
    | n => n == .dir
  | 'r' => node.isSome
  | 'w' => node.isSome
  | 'O' => node.isSome
  | 'G' => node.isSome
  | 'x' => node.any (· == .dir)
  | 'h' => isLink p
  | 'L' => isLink p
  | _ => false
where
  isLink (p : Path) : Bool :=
    match w.disk.holder w.cwd p with
    | .ok (dir, .name n _) => (w.disk.get? (dir ++ [n])).any (· matches .link _)
    | _ => false

/-- A whole number with an optional sign and blanks around it. -/
def integer? (t : Text) : Option Int :=
  match Text.trim t with
  | '-' :: r => (Pattern.number? r).map fun n => -(n : Int)
  | t => (Pattern.number? t).map fun n => (n : Int)

/-- Compares two numbers. -/
def compare? (option : Text) (a b : Int) : Option Bool :=
  [("-eq".toList, a == b), ("-ne".toList, a != b), ("-lt".toList, decide (a < b)), ("-le".toList, decide (a ≤ b)),
   ("-gt".toList, decide (b < a)), ("-ge".toList, decide (b ≤ a))].lookup option

/-- Signs between two texts. -/
def binarySigns : List Text :=
  ["=", "!=", "<", ">", "-eq", "-ne", "-lt", "-le", "-gt", "-ge", "-nt", "-ot", "-ef"].map String.toList

/-- Whether a text is the sign of a condition on one text. -/
def isUnarySign (t : Text) : Bool :=
  match t with
  | ['-', c] => "nzefdsrwxhLOGbcpugkSt".toList.contains c
  | _ => false

/-- Why a condition has no value. -/
abbrev Complaint := Text

/-- The value of a condition on two texts. -/
def binary (w : World) (a sign b : Text) : Except Complaint Bool :=
  if sign = "=".toList then .ok (a == b)
  else if sign = "!=".toList then .ok (a != b)
  else if sign = "<".toList then .ok (decide (a < b))
  else if sign = ">".toList then .ok (decide (b < a))
  else if sign = "-ef".toList then
    .ok (match w.disk.place w.cwd ⟨a⟩, w.disk.place w.cwd ⟨b⟩ with
      | .ok x, .ok y => x == y && (w.disk.get? x).isSome
      | _, _ => false)
  else if sign = "-nt".toList || sign = "-ot".toList then .ok false
  else
    match integer? a, integer? b with
    | none, _ => .error ("Illegal number: ".toList ++ a)
    | _, none => .error ("Illegal number: ".toList ++ b)
    | some x, some y => match compare? sign x y with
      | some v => .ok v
      | none => .error (sign ++ ": unexpected operator".toList)

/-- The value of a condition on one text. -/
def unary (w : World) (sign a : Text) : Bool :=
  match sign with
  | ['-', 'n'] => a != []
  | ['-', 'z'] => a = []
  | ['-', c] => testPath w c ⟨a⟩
  | _ => false

/-- Whether the sign of a condition on one text is a text itself, because nothing or a sign between two texts
follows it. -/
def isOperand (rest : List Text) : Bool :=
  match rest with
  | [] => true
  | [_] => false
  | sign :: b :: _ => binarySigns.contains sign && b != [')']

mutual

/-- Conditions joined by `-o`. -/
def anyOf (w : World) : (fuel : Nat) → List Text → Except Complaint (Bool × List Text)
  | 0, ts => .ok (false, ts)
  | fuel + 1, ts => do
    let (a, r) ← allOf w fuel ts
    match r with
    | ['-', 'o'] :: r =>
      let (b, r) ← anyOf w fuel r
      return (a || b, r)
    | r => return (a, r)

/-- Conditions joined by `-a`. -/
def allOf (w : World) : (fuel : Nat) → List Text → Except Complaint (Bool × List Text)
  | 0, ts => .ok (false, ts)
  | fuel + 1, ts => do
    let (a, r) ← notOf w fuel ts
    match r with
    | ['-', 'a'] :: r =>
      let (b, r) ← allOf w fuel r
      return (a && b, r)
    | r => return (a, r)

/-- A condition with its negations. -/
def notOf (w : World) : (fuel : Nat) → List Text → Except Complaint (Bool × List Text)
  | 0, ts => .ok (false, ts)
  | fuel + 1, ts =>
    match ts with
    | ['!'] :: r =>
      if r = [] then .ok (true, [])
      else (notOf w fuel r).map fun (a, r) => (!a, r)
    | ts => primary w fuel ts

/-- A single condition. -/
def primary (w : World) : (fuel : Nat) → List Text → Except Complaint (Bool × List Text)
  | 0, ts => .ok (false, ts)
  | _, [] => .ok (false, [])
  | fuel + 1, a :: r =>
    if a = ['('] && r != [] then do
      if r.head? = some [')'] then return (false, r.drop 1)
      let (value, r) ← anyOf w fuel r
      match r with
      | [')'] :: r => return (value, r)
      | _ => throw "closing paren expected".toList
    else if isUnarySign a && !isOperand r then
      match r with
      | b :: r => .ok (unary w a b, r)
      | [] => .error (a ++ ": argument expected".toList)
    else
      match r with
      | sign :: b :: rest =>
        if binarySigns.contains sign then (binary w a sign b).map (·, rest) else .ok (a != [], r)
      | r => .ok (a != [], r)

end

/-- The value of a condition. With three texts a sign in the middle decides; else parentheses around it or a
negation before it are looked at first. -/
def condition (w : World) : List Text → Except Complaint Bool
  | [] => .ok false
  | [a, sign, b] =>
    if binarySigns.contains sign then binary w a sign b
    else if a = ['('] && b = [')'] then whole w [sign]
    else if a = ['!'] then (whole w [sign, b]).map (!·)
    else whole w [a, sign, b]
  | ts => whole w ts
where
  whole (w : World) (ts : List Text) : Except Complaint Bool := do
    let (value, r) ← anyOf w (4 * ts.length + 4) ts
    if r = [] then return value
    else throw (((ts.take (ts.length - r.length)).getLast?.getD []) ++ ": unexpected operator".toList)

/-- Succeeds if a condition holds. -/
def testAs (name : String) (w : World) (args : List Text) : Ended :=
  match condition w args with
  | .ok b => .withStatus w (if b then 0 else 1)
  | .error t => .complained w 2 ("sh: 1: ".toList ++ name.toList ++ ": ".toList ++ t)

/-- Like `test`, with a closing bracket. -/
def bracket (w : World) (args : List Text) : Ended :=
  if args.getLast? = some [']'] then testAs "[" w args.dropLast
  else .complained w 2 "sh: 1: [: missing ]".toList

end Cleave.Shell
