import Cleave.Text.Basic

/-!
# Arguments

Arguments of a command line are options and positional words. An option may be given by its long name, with its
value after `=` or in the next word, or by its letter, with its value right after it or in the next word; letters
of options without value may be joined. After `--` every word is positional.
-/

namespace Cleave.Command

/-- An option of a command. -/
structure Flag where
  long : String
  short : Option Char := none
  takesValue : Bool := false
  /-- Which values are accepted. -/
  accepts : Text → Bool := fun _ => true

/-- What a reader of arguments finds. -/
structure Found where
  /-- The options that were given, with their values; an option without value has an empty one. -/
  options : List (String × Text) := []
  words : List Text := []
  /-- The subcommand that follows, with its own arguments. -/
  subcommand : Option (Text × List Text) := none

/-- Why reading stops before the end. -/
inductive Stop
  | help
  | version
  /-- The arguments are not accepted. -/
  | invalid
  deriving DecidableEq, Repr

/-- What a level of commands accepts. -/
structure Grammar where
  flags : List Flag
  subcommands : List Text := []
  /-- The largest number of words. -/
  maxWords : Option Nat := some 0
  /-- Which words are accepted. -/
  acceptsWord : Text → Bool := fun _ => true

namespace Found

/-- The value of an option that was given. -/
def value? (f : Found) (long : String) : Option Text :=
  f.options.lookup long

/-- Whether an option was given. -/
def has (f : Found) (long : String) : Bool :=
  (f.value? long).isSome

/-- Notes an option. No option may be given twice, and the value must be accepted. -/
def add (f : Found) (flag : Flag) (value : Text) : Except Stop Found :=
  if flag.long = "help" then .error .help
  else if flag.long = "version" then .error .version
  else if f.has flag.long || !flag.accepts value then .error .invalid
  else .ok { f with options := f.options ++ [(flag.long, value)] }

end Found

namespace Grammar

/-- Notes a word. -/
def addWord (g : Grammar) (f : Found) (word : Text) : Except Stop Found :=
  if g.maxWords.all (f.words.length < ·) && g.acceptsWord word then .ok { f with words := f.words ++ [word] }
  else .error .invalid

/-- Reads an option by its long name. The result tells which option still needs a value. -/
def long (g : Grammar) (f : Found) (body : Text) : Except Stop (Found × Option Flag) :=
  let name := body.takeWhile (· != '=')
  let attached : Option Text := if name.length < body.length then some (body.drop (name.length + 1)) else none
  match g.flags.find? fun flag => flag.long.toList = name with
  | none => .error .invalid
  | some flag =>
    match flag.takesValue, attached with
    | true, some value => (f.add flag value).map (·, none)
    | true, none => .ok (f, some flag)
    | false, some _ => .error .invalid
    | false, none => (f.add flag []).map (·, none)

/-- Reads options by their letters. The result tells which option still needs a value. -/
def shorts (g : Grammar) : Found → Text → Except Stop (Found × Option Flag)
  | f, [] => .ok (f, none)
  | f, c :: r =>
    match g.flags.find? fun flag => flag.short = some c with
    | none => .error .invalid
    | some flag =>
      if flag.takesValue then
        if r = [] then .ok (f, some flag)
        else (f.add flag ((Text.dropStart? ['='] r).getD r)).map (·, none)
      else
        match f.add flag [] with
        | .ok f => shorts g f r
        | .error e => .error e

/-- Reads arguments. `pending` is an option that needs the next word as its value. -/
def read (g : Grammar) : (pending : Option Flag) → Found → List Text → Except Stop Found
  | none, f, [] => .ok f
  | some _, _, [] => .error .invalid
  | none, f, arg :: rest =>
    if g.subcommands.contains arg then .ok { f with subcommand := some (arg, rest) }
    else if arg = "--".toList then rest.foldlM (g.addWord · ·) f
    else
      match arg with
      | '-' :: '-' :: body => do
        let (f, pending) ← g.long f body
        read g pending f rest
      | '-' :: c :: body => do
        let (f, pending) ← g.shorts f (c :: body)
        read g pending f rest
      | _ => do read g none (← g.addWord f arg) rest
  | some flag, f, arg :: rest =>
    if arg.head? = some '-' && arg != ['-'] then .error .invalid
    else do read g none (← f.add flag arg) rest

end Grammar

end Cleave.Command
