import Cleave.Shell.Arithmetic
import Cleave.Shell.Files
import Cleave.Shell.State
import Cleave.Shell.Token

/-!
# Expansion of words

Before a command runs, the parts of its words are put together: variables, outputs and calculations are replaced
by their values. Outside of quotes a value is split into fields, and a field with wildcards becomes the names of the
files that fit.
-/

namespace Cleave.Shell

/-- A part of a word whose value is known. -/
inductive Segment
  /-- Text of the script, or a value in quotes. -/
  | text (quoted : Bool) (t : Text)
  /-- A value that is split into fields. -/
  | value (t : Text)
  /-- The end of a field. -/
  | cut

namespace Segment

/-- A value, in quotes or not. -/
def of (quoted : Bool) (t : Text) : Segment :=
  if quoted then text true t else value t

/-- The text of segments that are not split. -/
def plain (segments : List Segment) : Text :=
  segments.flatMap fun s => match s with
    | text _ t => t
    | value t => t
    | cut => [' ']

/-- The characters of segments that are not split, where those outside of quotes may stand for others. -/
def marks (segments : List Segment) : List Mark :=
  segments.flatMap fun s => match s with
    | text quoted t => t.map (·, !quoted)
    | value t => t.map (·, true)
    | cut => [(' ', false)]

end Segment

namespace State

/-- The characters that end a field. -/
def separators (s : State) : Text :=
  (s.values.lookup "IFS".toList).getD [' ', '\t', '\n']

/-- Sets a variable, unless it keeps its value. -/
def assign (s : State) (name value : Text) : State :=
  if s.locked.contains name then s.abort 2 (name ++ ": is read only".toList)
  else s.setValue name value

/-- The number of a variable in a calculation. -/
def number? (s : State) (name : Text) : Option Int :=
  match Text.trim ((s.value? name).getD []) with
  | [] => some 0
  | '-' :: digits => (constant? digits).map (-·)
  | '+' :: digits => constant? digits
  | digits => constant? digits

/-- The value of a variable as segments. The arguments of the script are fields of their own. -/
def valueSegments (s : State) (quoted : Bool) (name : Text) : List Segment :=
  if name = ['@'] || (name = ['*'] && !quoted) then (s.arguments.map (Segment.of quoted)).intersperse .cut
  else if name = ['*'] then [.text true (Text.join (s.separators.take 1) s.arguments)]
  else [Segment.of quoted ((s.value? name).getD [])]

/-- The segments of no value. -/
def noSegments (quoted : Bool) (name : Text) : List Segment :=
  if quoted && name != ['@'] then [.text true []] else []

/-- Whether a variable has a value; `emptyToo` tells that an empty one counts as none. -/
def isSet (s : State) (emptyToo : Bool) (name : Text) : Bool :=
  (s.value? name).any fun v => !(emptyToo && v = [])

/-- The state after a look at a variable: it must have a value if an option asks for it. -/
def demand (s : State) (name : Text) : State :=
  if s.has 'u' && (s.value? name).isNone && name != ['@'] && name != ['*'] then
    s.abort 2 (name ++ ": parameter not set".toList)
  else s

/-- The output of a script without the line ends at its end. -/
def outputOf (s : State) (g : Setting) (script : Text) : State × Text :=
  let (done, bytes) := s.capture fun s => g.enclosed s fun s => g.inner s script
  ({ done with status := s.status, outputStatus := done.status },
    Text.trimEndOf (· == '\n') ((Utf8.decodeLenient bytes).filter (· != '\x00')))

/-- The value of a calculation, which may set variables. -/
def calculated (s : State) (t : Text) : State × Text :=
  match calculate? s.number? t with
  | some (n, bindings) =>
    (bindings.reverse.foldl (fun s (name, n) => s.assign name (toString n).toList) s, (toString n).toList)
  | none => (s.abort 2 ("arithmetic expression: expecting primary: \"".toList ++ t ++ ['"']), [])

end State

mutual

/-- The segments of a part of a word. With `split`, also text outside of quotes is split. -/
def pieceSegments (g : Setting) (split : Bool) (s : State) : Piece → State × List Segment
  | .text quoted t => (s, [if split && !quoted then .value t else .text quoted t])
  | .parameter quoted name use => useSegments g quoted name s use
  | .output quoted script =>
    let (s, t) := s.outputOf g script
    (s, [Segment.of quoted t])
  | .number quoted expression =>
    let (s, segments) := wordSegments g false s expression
    if s.ended then (s, [])
    else
      let (s, t) := s.calculated (Segment.plain segments)
      (s, [Segment.of quoted t])

/-- The segments of what is made of a variable. -/
def useSegments (g : Setting) (quoted : Bool) (name : Text) (s : State) : Use → State × List Segment
  | .value =>
    if (s.value? name).isSome then (s, s.valueSegments quoted name)
    else (s.demand name, State.noSegments quoted name)
  | .length =>
    let length := if name = ['@'] || name = ['*'] then s.arguments.length
      else Text.byteLength ((s.value? name).getD [])
    (s.demand name, [Segment.of quoted (Text.ofNat length)])
  | .fallback emptyToo w =>
    if s.isSet emptyToo name then (s, s.valueSegments quoted name)
    else
      let (s, segments) := wordSegments g (!quoted) s w
      (s, if segments.isEmpty then State.noSegments quoted name else segments)
  | .assign emptyToo w =>
    if s.isSet emptyToo name then (s, s.valueSegments quoted name)
    else if !isName name then (s.abort 2 (name ++ ": bad variable name".toList), [])
    else
      let (s, segments) := wordSegments g (!quoted) s w
      let t := Segment.plain segments
      (s.assign name t, [Segment.of quoted t])
  | .alternative emptyToo w =>
    if s.isSet emptyToo name then
      let (s, segments) := wordSegments g (!quoted) s w
      (s, if segments.isEmpty then State.noSegments quoted name else segments)
    else (s, State.noSegments quoted name)
  | .demand emptyToo w =>
    if s.isSet emptyToo name then (s, s.valueSegments quoted name)
    else
      let (s, segments) := wordSegments g (!quoted) s w
      let t := Segment.plain segments
      let reason := if t != [] then t
        else (if emptyToo then "parameter not set or null" else "parameter not set").toList
      (s.abort 2 (name ++ ": ".toList ++ reason), [])
  | .strip atEnd longest w =>
    let s := s.demand name
    let (s, segments) := wordSegments g false s w
    let pattern := Segment.marks segments
    let stripped (t : Text) : Text := if atEnd then stripEnd longest pattern t else stripStart longest pattern t
    (s, (s.valueSegments quoted name).map fun segment => match segment with
      | .text q t => .text q (stripped t)
      | .value t => .value (stripped t)
      | .cut => .cut)

/-- The segments of a word. -/
def wordSegments (g : Setting) (split : Bool) (s : State) : List Piece → State × List Segment
  | [] => (s, [])
  | piece :: r =>
    let (s, first) := pieceSegments g split s piece
    if s.ended then (s, [])
    else
      let (s, rest) := wordSegments g split s r
      (s, first ++ rest)

end

/-- A word in which a leading tilde stands for the home directory. -/
def withHome (s : State) (w : Word) : Word :=
  match w with
  | .text false ('~' :: t) :: r =>
    if t.head? = some '/' || (t = [] && r.isEmpty) then
      .text true ((s.value? "HOME".toList).getD ['~']) :: .text false t :: r
    else w
  | w => w

/-- Fields on the way: those that are complete, last first, and the characters of the one at work, last first. -/
structure Fields where
  complete : List (List Mark) := []
  current : Option (List Mark) := none
  /-- Whether blanks have ended the last field, so that another separator belongs to them. -/
  blankEnd : Bool := false

namespace Fields

/-- Adds a character to the field at work. -/
def add (f : Fields) (m : Mark) : Fields :=
  { f with current := some (m :: f.current.getD []), blankEnd := false }

/-- Ends the field at work. -/
def close (f : Fields) : Fields :=
  match f.current with
  | some field => { complete := field.reverse :: f.complete }
  | none => f

/-- Adds a character of a value. Blanks among the separators only end a field, others divide two. -/
def addValue (separators : Text) (f : Fields) (c : Char) : Fields :=
  if !separators.contains c then f.add (c, true)
  else if " \t\n".toList.contains c then
    if f.current.isSome then { f.close with blankEnd := true } else f
  else if f.current.isSome then f.close
  else if f.blankEnd then { f with blankEnd := false }
  else { f with complete := [] :: f.complete }

/-- Adds a segment. -/
def addSegment (separators : Text) (f : Fields) : Segment → Fields
  | .text quoted t =>
    if t = [] && !quoted then f
    else t.foldl (fun f c => f.add (c, !quoted)) { f with current := some (f.current.getD []), blankEnd := false }
  | .value t => t.foldl (addValue separators) f
  | .cut => { f.close with blankEnd := false }

/-- All fields in order. -/
def toList (f : Fields) : List (List Mark) :=
  f.close.complete.reverse

end Fields

/-- The parts of a field between slashes. -/
def partsOf : List Mark → List (List Mark)
  | [] => [[]]
  | m :: r =>
    match partsOf r with
    | part :: parts => if m.1 = '/' then [] :: part :: parts else (m :: part) :: parts
    | [] => [[m]]

/-- The paths that fit the parts of a field. `above` is the path so far, if there is one. -/
def pathsFor (w : World) : (above : Option Text) → List (List Mark) → List Text
  | above, [] => above.toList
  | above, part :: parts =>
    let extend (name : Text) : Text := match above with
      | some p => p ++ '/' :: name
      | none => name
    if isGlob part then
      let dir : Text := match above with
        | none => ['.']
        | some [] => ['/']
        | some p => p
      let shown (name : Text) : Bool := !isHidden name || (part.head?.any fun m => m.1 == '.')
      ((allNamesIn w dir).filter fun name => shown name && matchesPattern part name).flatMap fun name =>
        pathsFor w (some (extend name)) parts
    else pathsFor w (some (extend (part.map Prod.fst))) parts

/-- The words that a field makes. -/
def fieldWords (w : World) (field : List Mark) : List Text :=
  let literal := field.map Prod.fst
  if isGlob field then
    let found := (pathsFor w none (partsOf field)).filter fun p =>
      (itemAt? w p).isSome && (p.getLast? != some '/' || isDirectory w p)
    if found = [] then [literal] else found
  else [literal]

namespace State

/-- The value of a word that is not split. -/
def textOf (s : State) (g : Setting) (w : Word) : State × Text :=
  let (s, segments) := wordSegments g false s (withHome s w)
  (s, Segment.plain segments)

/-- The pattern that a word makes. -/
def patternOf (s : State) (g : Setting) (w : Word) : State × List Mark :=
  let (s, segments) := wordSegments g false s w
  (s, Segment.marks segments)

/-- The words that a word makes. -/
def fieldsOf (s : State) (g : Setting) (w : Word) : State × List Text :=
  let (s, segments) := wordSegments g false s (withHome s w)
  let fields := (segments.foldl (Fields.addSegment s.separators) {}).toList
  (s, fields.flatMap fun field => if s.has 'f' then [field.map Prod.fst] else fieldWords s.world field)

/-- The words that words make. -/
def wordsOf (s : State) (g : Setting) : List Word → State × List Text
  | [] => (s, [])
  | w :: ws =>
    let (s, found) := s.fieldsOf g w
    if s.ended then (s, [])
    else
      let (s, rest) := s.wordsOf g ws
      (s, found ++ rest)

end State

/-- The name and value of a word that sets a variable. -/
def assignment? (w : Word) : Option (Text × Word) :=
  match w with
  | .text false t :: r =>
    let name := t.takeWhile isNameChar
    if isName name && t[name.length]? = some '=' then
      some (name, .text false (t.drop (name.length + 1)) :: r)
    else none
  | _ => none

/-- Commands whose arguments may set variables. Such arguments are not split. -/
def declaringCommands : List Text :=
  ["export", "readonly", "local"].map String.toList

/-- The arguments of a command that sets variables. -/
def State.declarations (s : State) (g : Setting) : List Word → State × List Text
  | [] => (s, [])
  | w :: ws =>
    let (s, found) := match assignment? w with
      | some (name, value) =>
        let (s, t) := s.textOf g value
        (s, [name ++ '=' :: t])
      | none => s.fieldsOf g w
    if s.ended then (s, [])
    else
      let (s, rest) := s.declarations g ws
      (s, found ++ rest)

/-- The words that the words of a command make. -/
def State.commandWords (s : State) (g : Setting) (ws : List Word) : State × List Text :=
  match ws.head?.bind Word.bare? with
  | some name => if declaringCommands.contains name then s.declarations g ws else s.wordsOf g ws
  | none => s.wordsOf g ws

end Cleave.Shell
