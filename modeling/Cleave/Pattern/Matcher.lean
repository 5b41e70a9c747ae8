import Cleave.Pattern.Program

/-!
# Matching

All ways through a program are followed side by side, one character at a time, in order of preference. The
match that starts first wins, and among those the one that the program prefers.
-/

namespace Cleave.Pattern

/-- Positions noted so far, by slot. -/
abbrev Slots := Array (Option Nat)

/-- A place in the program with the positions noted on the way there. -/
structure Thread where
  pc : Nat
  slots : Slots

/-- A position between two characters. -/
structure Place where
  before : Option Char
  after : Option Char
  index : Nat

/-- Whether a neighbour counts as a word character. -/
def Look.isWordAt (unicode : Bool) : Option Char → Bool
  | none => false
  | some c => if unicode then Property.isWord c else c.isAlphanum || c == '_'

/-- Whether a condition holds at a place. -/
def Look.holds (l : Look) (p : Place) : Bool :=
  match l with
  | start => p.before.isNone
  | stop => p.after.isNone
  | lineStart false => p.before.isNone || p.before == some '\n'
  | lineStart true =>
    p.before.isNone || p.before == some '\n' || (p.before == some '\r' && p.after != some '\n')
  | lineStop false => p.after.isNone || p.after == some '\n'
  | lineStop true =>
    p.after.isNone || p.after == some '\r' || (p.after == some '\n' && p.before != some '\r')
  | word kind unicode =>
    let b := isWordAt unicode p.before
    let a := isWordAt unicode p.after
    match kind with
    | .noWordEdge => b == a
    | .wordStart => !b && a
    | .wordEnd => b && !a
    | .wordStartHalf => !b
    | .wordEndHalf => !a
    | _ => b != a

/-- Threads that wait for a character or accept, in order of preference, and the instructions seen at the
current place. -/
structure Front where
  threads : Array Thread := #[]
  seen : Array Bool

/-- No threads yet. -/
def Front.fresh (program : Program) : Front :=
  { seen := Array.replicate program.size false }

/-- Follows the instructions that consume nothing. Each instruction is entered once at a place, so twice the
length of the program bounds the number of steps. -/
def Front.follow (program : Program) (place : Place) : (fuel : Nat) → List Thread → Front → Front
  | 0, _, front => front
  | _, [], front => front
  | fuel + 1, t :: rest, front =>
    if front.seen[t.pc]?.getD true then follow program place fuel rest front
    else
      let front := { front with seen := front.seen.setIfInBounds t.pc true }
      match program[t.pc]? with
      | none => follow program place fuel rest front
      | some (.take _) | some .accept =>
        follow program place fuel rest { front with threads := front.threads.push t }
      | some (.check l) =>
        if l.holds place then follow program place fuel ({ t with pc := t.pc + 1 } :: rest) front
        else follow program place fuel rest front
      | some (.save slot) =>
        let t := { pc := t.pc + 1, slots := t.slots.setIfInBounds slot (some place.index) }
        follow program place fuel (t :: rest) front
      | some (.jump target) => follow program place fuel ({ t with pc := target } :: rest) front
      | some (.fork first second) =>
        follow program place fuel ({ t with pc := first } :: { t with pc := second } :: rest) front

/-- Adds a thread and everything it reaches without consuming. -/
def Front.add (program : Program) (place : Place) (t : Thread) (front : Front) : Front :=
  front.follow program place (2 * program.size + 2) [t]

/-- Moves threads over the character `c` to the place after it, in order, until one accepts: its slots are
returned, and the threads after it are given up. Without a character only acceptance counts. -/
def Front.advance (program : Program) (c : Option Char) (place : Place) :
    List Thread → Front → Front × Option Slots
  | [], front => (front, none)
  | t :: rest, front =>
    match program[t.pc]? with
    | some .accept => (front, some t.slots)
    | some (.take ranges) =>
      if c.any fun c => CharSet.memRanges ranges c.toNat then
        advance program c place rest (front.add program place { t with pc := t.pc + 1 })
      else advance program c place rest front
    | _ => advance program c place rest front

/-- Adds the thread of a match that begins here, unless an earlier match has been found. -/
def Front.begin (program : Program) (slots : Nat) (place : Place) (found : Option Slots) (front : Front) : Front :=
  if found.isSome then front
  else front.add program place { pc := 0, slots := Array.replicate slots none }

/-- Runs the threads of `front`, which stand at position `index`, over the rest of the text. As long as
nothing has matched, a match may also begin at each position, after all threads that began earlier. -/
def runFrom (program : Program) (slots : Nat) :
    (before : Option Char) → (index : Nat) → Front → (found : Option Slots) → Text → Option Slots
  | before, index, front, found, [] =>
    let place : Place := { before, after := none, index }
    let front := front.begin program slots place found
    (Front.advance program none place front.threads.toList (.fresh program)).2.or found
  | before, index, front, found, c :: r =>
    let front := front.begin program slots { before, after := some c, index } found
    let next : Place := { before := some c, after := r.head?, index := index + 1 }
    let (moved, hit) := Front.advance program (some c) next front.threads.toList (.fresh program)
    let found := hit.or found
    if found.isSome && moved.threads.isEmpty then found
    else runFrom program slots (some c) (index + 1) moved found r

end Cleave.Pattern
