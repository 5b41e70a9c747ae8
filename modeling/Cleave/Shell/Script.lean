import Cleave.Text.Basic

/-!
# Scripts

The commands of a check are often short shell scripts. A script is a list of pipelines joined by `;`, `&`, `&&`
and `||`. The commands of a pipeline are words with redirections, scripts in parentheses or braces, branches,
loops, choices and definitions of functions.
-/

namespace Cleave.Shell

mutual

/-- A part of a word. Outside of quotes, what a part stands for is split at blanks, and stars in it stand for
names of files. -/
inductive Piece
  | text (quoted : Bool) (t : Text)
  /-- The value of a variable, or what is made of it. -/
  | parameter (quoted : Bool) (name : Text) (use : Use)
  /-- The output of a script. -/
  | output (quoted : Bool) (script : Text)
  /-- The value of a calculation. -/
  | number (quoted : Bool) (expression : List Piece)

/-- What is made of the value of a variable. `emptyToo` tells that an empty value counts as none. -/
inductive Use
  | value
  | length
  /-- Another word, if there is no value. -/
  | fallback (emptyToo : Bool) (w : List Piece)
  /-- Another word that becomes the value, if there is none. -/
  | assign (emptyToo : Bool) (w : List Piece)
  /-- Another word, if there is a value. -/
  | alternative (emptyToo : Bool) (w : List Piece)
  /-- The end of the script, if there is no value. -/
  | demand (emptyToo : Bool) (w : List Piece)
  /-- The value without the shortest or longest part at its start or end that fits a pattern. -/
  | strip (atEnd longest : Bool) (pattern : List Piece)

end

/-- A word before its parts are put together. -/
abbrev Word := List Piece

/-- The text of a word that is a single unquoted text. -/
def Word.bare? : Word → Option Text
  | [.text false t] => some t
  | _ => none

/-- Where a stream is sent or taken from. -/
inductive Redirection
  | input (stream : Nat) (file : Word)
  /-- From a text in the script. -/
  | here (stream : Nat) (body : Word)
  | write (stream : Nat) (file : Word)
  | append (stream : Nat) (file : Word)
  /-- To where another stream goes, or to nowhere. -/
  | same (stream : Nat) (other : Option Nat)

/-- How a pipeline depends on the one before it. -/
inductive Link
  | always
  | onSuccess
  | onFailure
  deriving DecidableEq, Repr

/-- What comes after a pipeline. -/
inductive Ending
  /-- The next pipeline of a list starts after its end. -/
  | next
  /-- The next pipeline depends on its status. -/
  | chained
  /-- The next pipeline starts at once. -/
  | background
  deriving DecidableEq, Repr

mutual

/-- A command. -/
inductive Command
  | words (ws : List Word) (redirections : List Redirection)
  | group (subshell : Bool) (body : List Step) (redirections : List Redirection)
  | branch (condition yes no : List Step) (redirections : List Redirection)
  /-- Repeats a body as long as a condition succeeds, or fails. -/
  | loop (whileFailing : Bool) (condition body : List Step) (redirections : List Redirection)
  /-- Runs a body for each of some words, or for each argument of the script. -/
  | each (name : Text) (ws : Option (List Word)) (body : List Step) (redirections : List Redirection)
  /-- Runs the body of the first case that fits a word. -/
  | choose (subject : Word) (cases : List Case) (redirections : List Redirection)
  /-- Gives a command a name. -/
  | define (name : Text) (body : Command)

/-- Patterns with a body. -/
inductive Case
  | mk (patterns : List Word) (body : List Step)

/-- A pipeline, how it depends on the one before it, and what comes after it. -/
inductive Step
  | mk (link : Link) (ending : Ending) (negated : Bool) (pipeline : List Command)

end

end Cleave.Shell
