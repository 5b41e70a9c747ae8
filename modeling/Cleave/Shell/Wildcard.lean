import Cleave.Text.Basic

/-!
# Wildcards

A pattern of names is a text in which `*` stands for any text, `?` for any character, and a set in brackets for one
of its members. In quotes these characters stand for themselves.
-/

namespace Cleave.Shell

/-- A character of a pattern, and whether it may stand for others. -/
abbrev Mark := Char × Bool

/-- Classes of characters by name. -/
def classOf (name : Text) : Option (Char → Bool) :=
  match String.ofList name with
  | "alpha" => some Char.isAlpha
  | "digit" => some Char.isDigit
  | "alnum" => some Char.isAlphanum
  | "upper" => some Char.isUpper
  | "lower" => some Char.isLower
  | "space" => some fun c => c == ' ' || ('\t' ≤ c && c ≤ '\r')
  | "blank" => some fun c => c == ' ' || c == '\t'
  | "punct" => some fun c => '!' ≤ c && c ≤ '~' && !c.isAlphanum
  | "print" => some fun c => ' ' ≤ c && c ≤ '~'
  | "graph" => some fun c => '!' ≤ c && c ≤ '~'
  | "cntrl" => some fun c => c < ' ' || c == '\x7f'
  | "xdigit" => some fun c => c.isDigit || ('a' ≤ c && c ≤ 'f') || ('A' ≤ c && c ≤ 'F')
  | _ => none

/-- The members of a set up to its closing bracket, and what follows it. `first` tells that no member has been
read, so that a bracket is one itself. -/
def members : (fuel : Nat) → (first : Bool) → List Mark → Option ((Char → Bool) × List Mark)
  | 0, _, _ => none
  | _, _, [] => none
  | fuel + 1, _, ('[', active) :: (':', _) :: r =>
    let name := (r.map Prod.fst).takeWhile (· != ':')
    match classOf name, r.drop (name.length + 1) with
    | some inClass, (']', _) :: rest =>
      (members fuel false rest).map fun (p, rest) => (fun c => inClass c || p c, rest)
    | _, _ =>
      if active then (members fuel false ((':', false) :: r)).map fun (p, rest) => (fun c => c == '[' || p c, rest)
      else none
  | fuel + 1, first, (a, active) :: r =>
    if a = ']' && active && !first then some (fun _ => false, r)
    else
      match r with
      | ('-', true) :: (b, quotedEnd) :: rest =>
        if b = ']' && quotedEnd then
          (members fuel false r).map fun (p, rest) => (fun c => c == a || p c, rest)
        else (members fuel false rest).map fun (p, rest) => (fun c => (a ≤ c && c ≤ b) || p c, rest)
      | r => (members fuel false r).map fun (p, rest) => (fun c => c == a || p c, rest)

/-- The set after an opening bracket, and what follows it. -/
def set? (r : List Mark) : Option ((Char → Bool) × List Mark) :=
  match r with
  | ('!', true) :: r => (members (r.length + 1) true r).map fun (p, rest) => (fun c => !p c, rest)
  | ('^', true) :: r => (members (r.length + 1) true r).map fun (p, rest) => (fun c => !p c, rest)
  | r => members (r.length + 1) true r

/-- Whether a text fits a pattern. -/
def fits : (fuel : Nat) → (pattern : List Mark) → Text → Bool
  | 0, _, _ => false
  | _, [], t => t = []
  | fuel + 1, (c, active) :: r, t =>
    if active && c = '*' then (List.range (t.length + 1)).any fun n => fits fuel r (t.drop n)
    else
      match t with
      | [] => false
      | x :: t =>
        if active && c = '?' then fits fuel r t
        else
          match if active && c = '[' then set? r else none with
          | some (p, rest) => p x && fits fuel rest t
          | none => c == x && fits fuel r t

/-- Whether a text fits a pattern. -/
def matchesPattern (pattern : List Mark) (t : Text) : Bool :=
  fits (pattern.length + 1) pattern t

/-- Whether a pattern has characters that stand for others. -/
def isGlob (pattern : List Mark) : Bool :=
  pattern.any fun m => m.2 && "*?[".toList.contains m.1

/-- A text without a part at its start that fits a pattern, the shortest or the longest one. -/
def stripStart (longest : Bool) (pattern : List Mark) (t : Text) : Text :=
  let lengths := List.range (t.length + 1)
  match (if longest then lengths.reverse else lengths).find? fun n => matchesPattern pattern (t.take n) with
  | some n => t.drop n
  | none => t

/-- A text without a part at its end that fits a pattern, the shortest or the longest one. -/
def stripEnd (longest : Bool) (pattern : List Mark) (t : Text) : Text :=
  let lengths := List.range (t.length + 1)
  match (if longest then lengths else lengths.reverse).find? fun n => matchesPattern pattern (t.drop n) with
  | some n => t.take n
  | none => t

end Cleave.Shell
