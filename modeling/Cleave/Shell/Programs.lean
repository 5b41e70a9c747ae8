import Cleave.Shell.Awk.Program
import Cleave.Shell.Condition
import Cleave.Shell.Editor
import Cleave.Shell.Files
import Cleave.Shell.Print

/-!
# Programs

The programs that scripts may call, by name. Each works on a world and on what is sent to its input.
-/

namespace Cleave.Shell

/-- The number of milliseconds in `digits` seconds, the last `decimals` of which stand after the point, times a
power of ten. -/
def millisOf (digits : Text) (decimals : Nat) (power : Int) : Option Nat := do
  let n ← Pattern.number? digits
  let exponent := power + 3 - (decimals : Int)
  return if 0 ≤ exponent then n * Nat.pow 10 (min exponent.toNat 20) else n / Nat.pow 10 (min (-exponent).toNat 400)

/-- The longest wait. -/
def forever : Nat := Nat.pow 10 15

/-- A duration in seconds with decimals, a power of ten and an optional unit, in milliseconds. -/
def duration? (t : Text) : Option Nat :=
  let units : List (Char × Nat) := [('s', 1), ('m', 60), ('h', 3600), ('d', 86400)]
  let (t, unit) := match t.getLast?.bind fun c => units.lookup c with
    | some unit => (t.dropLast, unit)
    | none => (t, 1)
  if t = "inf".toList || t = "infinity".toList then some forever
  else do
    let t := if t.head? = some '+' then t.drop 1 else t
    let mantissa := t.takeWhile fun c => c != 'e' && c != 'E'
    let power : Int ← if mantissa.length = t.length then some 0
      else match integer? (t.drop (mantissa.length + 1)) with
        | some n => if Text.isBlank (t.drop (mantissa.length + 1)) then none else some n
        | none => none
    let whole := mantissa.takeWhile (· != '.')
    let decimals := mantissa.drop (whole.length + 1)
    if !(whole ++ decimals).all Char.isDigit then none
    let n ← millisOf (whole ++ decimals) decimals.length power
    return n * unit

/-- Waits. -/
def sleep : Program := fun w args _ =>
  let wrong := args.filter fun a => (duration? a).isNone
  match args.find? fun a => a.head? = some '-' && 1 < a.length with
  | some option => .misused w 1 "sleep" ("invalid option -- ".toList ++ inQuotes ((option.drop 1).take 1))
  | none =>
    if args = [] then .misused w 1 "sleep" "missing operand".toList
    else if wrong = [] then { world := w, millis := total (args.filterMap duration?) }
    else .misused w 1 "sleep" (Text.join "\nsleep: ".toList (wrong.map fun a =>
      "invalid time interval ".toList ++ inQuotes a))

/-- The strength of an operator of `expr`. -/
def exprStrength (t : Text) : Option Nat :=
  match String.ofList t with
  | "|" => some 1
  | "&" => some 2
  | "=" | "==" | "!=" | "<" | "<=" | ">" | ">=" => some 3
  | "+" | "-" => some 4
  | "*" | "/" | "%" => some 5
  | ":" => some 6
  | _ => none

/-- Whether a value of `expr` counts as nothing. -/
def isNull (t : Text) : Bool :=
  t = [] || integer? t = some 0

/-- What the start of a text matches: the first group, or the length of the match. -/
def matchStart? (t source : Text) : Option Text := do
  let p ← regex? true false ('^' :: source)
  let grouped := Text.occursIn "\\(".toList source
  match (p.findAll t).head? with
  | none => return if grouped then [] else ['0']
  | some m =>
    if grouped then return (m.group? t 1).getD []
    else return Text.ofNat ((m.group? t 0).getD []).length

/-- The result of an operator of `expr`. -/
def exprApply? (sign a b : Text) : Option Text :=
  let truth (v : Bool) : Text := if v then ['1'] else ['0']
  let ordered (numbers : Int → Int → Bool) (texts : Text → Text → Bool) : Text :=
    match integer? a, integer? b with
    | some x, some y => truth (numbers x y)
    | _, _ => truth (texts a b)
  let number (f : Int → Int → Option Int) : Option Text := do
    let n ← f (← integer? a) (← integer? b)
    return (toString n).toList
  match String.ofList sign with
  | "|" => some (if isNull a then (if isNull b then ['0'] else b) else a)
  | "&" => some (if isNull a || isNull b then ['0'] else a)
  | "=" | "==" => some (ordered (· == ·) (· == ·))
  | "!=" => some (ordered (· != ·) (· != ·))
  | "<" => some (ordered (fun x y => decide (x < y)) fun x y => decide (x < y))
  | "<=" => some (ordered (fun x y => decide (x ≤ y)) fun x y => !decide (y < x))
  | ">" => some (ordered (fun x y => decide (y < x)) fun x y => decide (y < x))
  | ">=" => some (ordered (fun x y => decide (y ≤ x)) fun x y => !decide (x < y))
  | "+" => number fun x y => some (x + y)
  | "-" => number fun x y => some (x - y)
  | "*" => number fun x y => some (x * y)
  | "/" => number fun x y => if y = 0 then none else some (x.tdiv y)
  | "%" => number fun x y => if y = 0 then none else some (x.tmod y)
  | ":" => matchStart? a b
  | _ => none

mutual

/-- A value of `expr`, a function or parentheses. -/
def exprOperand? : (fuel : Nat) → List Text → Option (Text × List Text)
  | 0, _ => none
  | fuel + 1, ts =>
    match ts with
    | ['('] :: r => do
      let (v, r) ← expr? fuel 1 r
      match r with
      | [')'] :: r => return (v, r)
      | _ => none
    | t :: r =>
      if t = "length".toList && r != [] then do
        let (v, r) ← exprOperand? fuel r
        return (Text.ofNat v.length, r)
      else if t = "substr".toList && 3 ≤ r.length then do
        let (v, r) ← exprOperand? fuel r
        let (start, r) ← exprOperand? fuel r
        let (count, r) ← exprOperand? fuel r
        let (i, n) := ((integer? start).getD 0, (integer? count).getD 0)
        return (if i < 1 || n < 1 then [] else (v.drop (i.toNat - 1)).take n.toNat, r)
      else if t = "index".toList && 2 ≤ r.length then do
        let (v, r) ← exprOperand? fuel r
        let (set, r) ← exprOperand? fuel r
        return (Text.ofNat ((v.findIdx? set.contains).elim 0 (· + 1)), r)
      else if t = "match".toList && 2 ≤ r.length then do
        let (v, r) ← exprOperand? fuel r
        let (source, r) ← exprOperand? fuel r
        return (← matchStart? v source, r)
      else some (t, r)
    | [] => none

/-- A value of `expr` with operators of at least some strength. -/
def expr? : (fuel strength : Nat) → List Text → Option (Text × List Text)
  | 0, _, _ => none
  | fuel + 1, strength, ts => do
    let (v, r) ← exprOperand? fuel ts
    exprExtend? fuel strength v r

/-- The rest of an expression that starts with a value. -/
def exprExtend? : (fuel strength : Nat) → Text → List Text → Option (Text × List Text)
  | 0, _, _, _ => none
  | fuel + 1, strength, v, ts =>
    match ts with
    | sign :: r =>
      match exprStrength sign with
      | some k =>
        if strength ≤ k then do
          let (u, r) ← expr? fuel (k + 1) r
          exprExtend? fuel strength (← exprApply? sign v u) r
        else some (v, ts)
      | none => some (v, ts)
    | [] => some (v, [])

end

/-- Prints the value of an expression. -/
def expr : Program := fun w args _ =>
  match expr? (4 * args.length + 4) 1 args with
  | some (v, []) => { Ended.printed w (v ++ ['\n']) with status := if isNull v then 1 else 0 }
  | _ => if args = [] then .misused w 2 "expr" "missing operand".toList
    else .complained w 2 "expr: syntax error".toList

/-- The number of lines that `yes` prints: more than a reader of its first lines takes. -/
def yesLines : Nat := 4096

/-- Prints a line again and again. -/
def yes : Program := fun w args _ =>
  let line := (if args = [] then ['y'] else Text.join [' '] args) ++ ['\n']
  .printed w (List.replicate yesLines line).flatten

/-- Prints the time, which stands still. -/
def date : Program := fun w args _ =>
  .printed w (if args.head? = some "+%s".toList then "0\n".toList else "Thu Jan  1 00:00:00 UTC 1970\n".toList)

/-- The programs by name, other than the shell. -/
def programs : List (Text × Program) :=
  [("true".toList, fun w _ _ => .withStatus w 0),
   ("false".toList, fun w _ _ => .withStatus w 1),
   ("echo".toList, fun w args _ => plainEcho w args),
   ("printf".toList, fun w args _ => printf w args),
   ("test".toList, fun w args _ => testAs "test" w args),
   ("[".toList, fun w args _ => bracket w args),
   ("expr".toList, expr),
   ("cat".toList, cat),
   ("tac".toList, tac),
   ("rev".toList, rev),
   ("nl".toList, nl),
   ("head".toList, head),
   ("tail".toList, tail),
   ("wc".toList, wc),
   ("seq".toList, seq),
   ("sort".toList, sort),
   ("uniq".toList, uniq),
   ("cut".toList, cut),
   ("paste".toList, paste),
   ("tr".toList, tr),
   ("tee".toList, tee),
   ("basename".toList, basename),
   ("dirname".toList, dirname),
   ("grep".toList, grep),
   ("egrep".toList, fun w args input => grep w ("-E".toList :: args) input),
   ("fgrep".toList, fun w args input => grep w ("-F".toList :: args) input),
   ("sed".toList, sed),
   ("awk".toList, awk),
   ("sleep".toList, sleep),
   ("touch".toList, touch),
   ("rm".toList, rm),
   ("rmdir".toList, rmdir),
   ("mkdir".toList, mkdir),
   ("cp".toList, cp),
   ("mv".toList, mv),
   ("ln".toList, ln),
   ("readlink".toList, readlink),
   ("realpath".toList, realpath),
   ("ls".toList, ls),
   ("find".toList, findFiles),
   ("cmp".toList, cmp),
   ("diff".toList, diff),
   ("pwd".toList, fun w _ _ => .printed w ((Path.ofLocation w.cwd).text ++ ['\n'])),
   ("sync".toList, fun w _ _ => .withStatus w 0),
   ("uname".toList, fun w _ _ => .printed w "Linux\n".toList),
   ("date".toList, date),
   ("yes".toList, yes)]

end Cleave.Shell
