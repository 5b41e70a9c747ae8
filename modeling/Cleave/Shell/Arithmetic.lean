import Cleave.Pattern.Basic

/-!
# Calculations

Calculations of scripts are on whole numbers of 64 bits, with the usual precedence of operators. Division goes
toward zero. A calculation may give variables new values.
-/

namespace Cleave.Shell

/-- A number within 64 bits. -/
def wrapped (n : Int) : Int :=
  Int.bmod n (Nat.pow 2 64)

/-- The number of a truth value. -/
def truth (b : Bool) : Int :=
  if b then 1 else 0

/-- An operation on the bits of two numbers. -/
def bitwise (f : BitVec 64 → BitVec 64 → BitVec 64) (a b : Int) : Int :=
  (f (BitVec.ofInt 64 a) (BitVec.ofInt 64 b)).toInt

/-- An operator between two numbers. -/
structure Operator where
  sign : Text
  /-- Operators of higher strength bind first. -/
  strength : Nat
  /-- The result; division by zero has none. -/
  apply : Int → Int → Option Int

/-- The operators. One that starts like another comes before it. -/
def operators : List Operator :=
  [⟨"||".toList, 1, fun a b => some (truth (a != 0 || b != 0))⟩,
   ⟨"&&".toList, 2, fun a b => some (truth (a != 0 && b != 0))⟩,
   ⟨"==".toList, 6, fun a b => some (truth (a == b))⟩,
   ⟨"!=".toList, 6, fun a b => some (truth (a != b))⟩,
   ⟨"<<".toList, 8, fun a b => some (wrapped (a * Nat.pow 2 (b.toNat % 64)))⟩,
   ⟨">>".toList, 8, fun a b => some (a / Nat.pow 2 (b.toNat % 64))⟩,
   ⟨"<=".toList, 7, fun a b => some (truth (decide (a ≤ b)))⟩,
   ⟨">=".toList, 7, fun a b => some (truth (decide (b ≤ a)))⟩,
   ⟨"<".toList, 7, fun a b => some (truth (decide (a < b)))⟩,
   ⟨">".toList, 7, fun a b => some (truth (decide (b < a)))⟩,
   ⟨"|".toList, 3, fun a b => some (bitwise (· ||| ·) a b)⟩,
   ⟨"^".toList, 4, fun a b => some (bitwise (· ^^^ ·) a b)⟩,
   ⟨"&".toList, 5, fun a b => some (bitwise (· &&& ·) a b)⟩,
   ⟨"+".toList, 9, fun a b => some (wrapped (a + b))⟩,
   ⟨"-".toList, 9, fun a b => some (wrapped (a - b))⟩,
   ⟨"*".toList, 10, fun a b => some (wrapped (a * b))⟩,
   ⟨"/".toList, 10, fun a b => if b = 0 then none else some (wrapped (a.tdiv b))⟩,
   ⟨"%".toList, 10, fun a b => if b = 0 then none else some (a.tmod b)⟩]

/-- Passes over blanks. -/
def skipBlanks (t : Text) : Text :=
  t.dropWhile Text.isBlankChar

/-- The operator at the start of a text, and what follows it. -/
def operator? (t : Text) : Option (Operator × Text) :=
  operators.findSome? fun op => (Text.dropStart? op.sign t).map (op, ·)

/-- An assignment at the start of a text: the operator that it applies first, if it does, and what follows. -/
def assigning? (t : Text) : Option (Option Operator × Text) :=
  match t with
  | '=' :: '=' :: _ => none
  | '=' :: r => some (none, r)
  | _ => do
    let op ← ["*", "/", "%", "+", "-", "<<", ">>", "&", "^", "|"].findSome? fun s =>
      (Text.dropStart? (s.toList ++ ['=']) t).map (s.toList, ·)
    let known ← operators.find? (·.sign == op.1)
    return (some known, op.2)

/-- The number that digits write: in base 16 after `0x`, in base 8 after `0`, else in base 10. -/
def constant? (t : Text) : Option Int :=
  let digit? (c : Char) : Option Nat := Pattern.hexDigit? c
  let read (base : Nat) (digits : Text) : Option Int :=
    if digits = [] then none
    else (digits.foldlM (fun n c => (digit? c).bind fun d => if d < base then some (n * base + d) else none) 0).map
      fun n : Nat => (n : Int)
  match t with
  | '0' :: 'x' :: r => read 16 r
  | '0' :: 'X' :: r => read 16 r
  | ['0'] => some 0
  | '0' :: r => read 8 r
  | t => read 10 t

/-- The values of variables during a calculation. -/
abbrev Bindings := List (Text × Int)

/-- A calculation: it may look up and set variables, and it may fail. -/
abbrev Calculation := StateT Bindings Option

mutual

/-- A number, a variable, a sign or parentheses. -/
def operand? (lookup : Text → Option Int) : (fuel : Nat) → Text → Calculation (Int × Text)
  | 0, _ => failure
  | fuel + 1, t =>
    match skipBlanks t with
    | '(' :: r => do
      let (n, r) ← calculation? lookup fuel 0 r
      match skipBlanks r with
      | ')' :: r => return (n, r)
      | _ => failure
    | '-' :: r => do
      let (n, r) ← operand? lookup fuel r
      return (wrapped (-n), r)
    | '+' :: r => operand? lookup fuel r
    | '!' :: r => do
      let (n, r) ← operand? lookup fuel r
      return (truth (n == 0), r)
    | '~' :: r => do
      let (n, r) ← operand? lookup fuel r
      return (-n - 1, r)
    | t => do
      let name := t.takeWhile fun c => c.isAlphanum || c == '_'
      let rest := t.drop name.length
      if name = [] then failure
      else if name.head?.any Char.isDigit then
        let n ← constant? name
        return (n, rest)
      else
        let old := ((← get).lookup name).or (lookup name)
        match assigning? (skipBlanks rest) with
        | some (op, r) =>
          let (m, r) ← calculation? lookup fuel 0 r
          let value ← match op with
            | some op => (old.bind fun n => op.apply n m : Option Int)
            | none => some m
          modify ((name, value) :: ·)
          return (value, r)
        | none => return (← old, rest)

/-- A calculation with operators of at least some strength. -/
def calculation? (lookup : Text → Option Int) : (fuel strength : Nat) → Text → Calculation (Int × Text)
  | 0, _, _ => failure
  | fuel + 1, strength, t => do
    let (n, r) ← operand? lookup fuel t
    extend? lookup fuel strength n r

/-- The rest of a calculation that starts with a number. -/
def extend? (lookup : Text → Option Int) : (fuel strength : Nat) → Int → Text → Calculation (Int × Text)
  | 0, _, _, _ => failure
  | fuel + 1, strength, n, t =>
    match skipBlanks t with
    | '?' :: r =>
      if strength = 0 then do
        let (yes, r) ← calculation? lookup fuel 0 r
        match skipBlanks r with
        | ':' :: r =>
          let (no, r) ← calculation? lookup fuel 0 r
          return (if n != 0 then yes else no, r)
        | _ => failure
      else return (n, t)
    | r =>
      match operator? r with
      | some (op, r) =>
        if strength ≤ op.strength then do
          let (m, r) ← calculation? lookup fuel (op.strength + 1) r
          let value ← (op.apply n m : Option Int)
          extend? lookup fuel strength value r
        else return (n, t)
      | none => return (n, t)

end

/-- The value of a calculation, and the variables that it sets, the last one first. Nothing at all is zero. -/
def calculate? (lookup : Text → Option Int) (t : Text) : Option (Int × Bindings) :=
  if Text.isBlank t then some (0, [])
  else
    match (calculation? lookup (4 * t.length + 4) 0 t).run [] with
    | some ((n, r), bindings) => if Text.isBlank r then some (n, bindings) else none
    | none => none

end Cleave.Shell
