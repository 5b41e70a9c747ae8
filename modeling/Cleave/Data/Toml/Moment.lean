import Cleave.Data.Value

/-!
# TOML dates and times

A date, a time, or both, with or without an offset from universal time. Each function gives the written form in
a normal spelling: a capital `T` between date and time, a capital `Z`, and at most nine digits of a second without
zeros at the end.
-/

namespace Cleave.Toml

/-- A number of exactly `width` digits. -/
def fixed? (width : Nat) (t : Text) : Option Nat :=
  if t.length = width && t.all Char.isDigit then Value.number? 10 t else none

/-- The number of days of a month. -/
def daysOf (year month : Nat) : Nat :=
  if month = 2 then (if year % 4 = 0 && (year % 100 != 0 || year % 400 = 0) then 29 else 28)
  else if [4, 6, 9, 11].contains month then 30
  else 31

/-- A date. -/
def date? (t : Text) : Option Text :=
  match Text.pieces '-' t with
  | [y, m, d] => do
    let year ← fixed? 4 y
    let month ← fixed? 2 m
    let day ← fixed? 2 d
    if 1 ≤ month && month ≤ 12 && 1 ≤ day && day ≤ daysOf year month then some t else none
  | _ => none

/-- Whether a text is hours and minutes. -/
def isClock (t : Text) : Bool :=
  match Text.pieces ':' t with
  | [h, m] => (fixed? 2 h).any (· ≤ 23) && (fixed? 2 m).any (· ≤ 59)
  | _ => false

/-- The fraction of a second: none, or digits after a point. -/
def fraction? : Text → Option Text
  | [] => some []
  | '.' :: digits =>
    if digits = [] || !digits.all Char.isDigit then none
    else
      let kept := ((digits.take 9).reverse.dropWhile (· == '0')).reverse
      some (if kept = [] then [] else '.' :: kept)
  | _ => none

/-- A time without an offset. -/
def time? (t : Text) : Option Text :=
  if isClock (t.take 5) && t[5]? = some ':' && (fixed? 2 ((t.drop 6).take 2)).any (· ≤ 60) then
    (fraction? (t.drop 8)).map (t.take 8 ++ ·)
  else none

/-- An offset from universal time. An offset of nothing is positive. -/
def offset? : Text → Option Text
  | [] => some []
  | ['Z'] => some ['Z']
  | ['z'] => some ['Z']
  | '+' :: r => if isClock r then some ('+' :: r) else none
  | '-' :: r => if isClock r then some ((if r = "00:00".toList then '+' else '-') :: r) else none
  | _ => none

/-- A time with or without an offset. -/
def offsetTime? (t : Text) : Option Text := do
  let time := t.takeWhile fun c => c.isDigit || c == ':' || c == '.'
  return (← time? time) ++ (← offset? (t.drop time.length))

/-- A date and a time. -/
def dateTime? (date time : Text) : Option Text := do
  return (← date? date) ++ 'T' :: (← offsetTime? time)

/-- A date, a time, or both. -/
def moment? (t : Text) : Option Text :=
  let both := if t[10]?.any fun c => c == 'T' || c == 't' then dateTime? (t.take 10) (t.drop 11) else none
  (date? t).or ((time? t).or both)

/-- The key under which a moment is kept in a table of its own. -/
def momentKey : String := "$__toml_private_datetime"

/-- A moment as a value: a table with its written form. -/
def momentValue (t : Text) : Value :=
  .table [(momentKey, .string (String.ofList t))]

end Cleave.Toml
