import Cleave.Pattern.Basic

/-!
# Scripts over records

A script of `awk` is a list of rules. A rule has a condition on a record, which is a line, and statements that are
carried out for the records that satisfy it.
-/

namespace Cleave.Shell.Awk

/-- An operation on two numbers. -/
inductive Operation
  | add
  | sub
  | mul
  | div
  | mod
  | pow
  deriving DecidableEq, Repr

/-- A comparison of two values. -/
inductive Comparison
  | less
  | lessOrEqual
  | equal
  | notEqual
  | greaterOrEqual
  | greater
  deriving DecidableEq, Repr

/-- An expression. -/
inductive Expr
  | number (x : Float)
  | text (t : Text)
  /-- Whether a pattern matches the record. -/
  | pattern (p : Pattern)
  | named (name : Text)
  | item (table : Text) (key : List Expr)
  | field (index : Expr)
  | assign (op : Option Operation) (target value : Expr)
  /-- Adds to a variable; the value is the one before or after that. -/
  | change (delta : Float) (before : Bool) (target : Expr)
  | negative (e : Expr)
  | positive (e : Expr)
  | not (e : Expr)
  | calculate (op : Operation) (a b : Expr)
  | compare (op : Comparison) (a b : Expr)
  | join (a b : Expr)
  | both (a b : Expr)
  | either (a b : Expr)
  | choose (condition yes no : Expr)
  | fits (negated : Bool) (e pattern : Expr)
  | member (key : List Expr) (table : Text)
  | call (function : Text) (args : List Expr)

/-- A statement. Output goes to a file if one is given, at its end if that is asked for. -/
inductive Statement
  | print (args : List Expr) (file : Option (Bool × Expr))
  | printf (args : List Expr) (file : Option (Bool × Expr))
  | eval (e : Expr)
  | branch (condition : Expr) (yes no : List Statement)
  | loop (bodyFirst : Bool) (start : List Statement) (condition : Option Expr) (after body : List Statement)
  | each (name table : Text) (body : List Statement)
  | next
  | exit (status : Option Expr)
  | leaveLoop
  | leaveRound
  | delete (table : Text) (key : Option (List Expr))

/-- When a rule applies. -/
inductive Condition
  | atStart
  | atEnd
  | always
  | holds (e : Expr)
  /-- From a record on that satisfies one expression to one that satisfies another. -/
  | between (first last : Expr)

/-- A rule; without statements it prints the record. -/
structure Rule where
  condition : Condition
  body : Option (List Statement)

end Cleave.Shell.Awk
