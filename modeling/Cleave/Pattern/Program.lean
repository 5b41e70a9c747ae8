import Cleave.Pattern.Expr

/-!
# Match programs

An expression becomes a list of instructions. At a fork the first target is preferred; a greedy repetition
prefers another round and a lazy one prefers to stop.
-/

namespace Cleave.Pattern

/-- One instruction; unless it says otherwise the next one follows. -/
inductive Instr
  /-- Consumes a character of the ordered ranges. -/
  | take (ranges : Array (Nat × Nat))
  /-- Goes on if the condition holds here. -/
  | check (l : Look)
  /-- Notes the position in a slot. -/
  | save (slot : Nat)
  | jump (target : Nat)
  /-- Goes on at both targets, preferring the first. -/
  | fork (first second : Nat)
  | accept

/-- Instructions by position. -/
abbrev Program := Array Instr

namespace Program

/-- A fork between going on and leaving; a greedy one goes on first. -/
def forkTo (greedy : Bool) (go leave : Nat) : Instr :=
  if greedy then .fork go leave else .fork leave go

/-- Emits `body` several times. -/
def emitTimes (body : Program → Program) : Nat → Program → Program
  | 0, code => code
  | n + 1, code => emitTimes body n (body code)

/-- Emits `body` up to `n` times, each round optional. -/
def emitOptional (greedy : Bool) (body : Program → Program) : Nat → Program → Program
  | 0, code => code
  | n + 1, code =>
    let at_ := code.size
    let code := emitOptional greedy body n (body (code.push .accept))
    code.setIfInBounds at_ (forkTo greedy (at_ + 1) code.size)

/-- Emits `body` once or more often. -/
def emitPlus (greedy : Bool) (body : Program → Program) (code : Program) : Program :=
  let at_ := code.size
  let code := body code
  code.push (forkTo greedy at_ (code.size + 1))

/-- Emits a `body` that consumes something any number of times. -/
def emitStar (greedy : Bool) (body : Program → Program) (code : Program) : Program :=
  let at_ := code.size
  let code := (body (code.push .accept)).push (.jump at_)
  code.setIfInBounds at_ (forkTo greedy (at_ + 1) code.size)

/-- Appends the code of an expression. -/
def emit : Expr → Program → Program
  | .empty, code => code
  | .set s, code => code.push (.take s.ranges.toArray)
  | .look l, code => code.push (.check l)
  | .capture index body, code => (emit body (code.push (.save (2 * index)))).push (.save (2 * index + 1))
  | .loop least most greedy body, code =>
    match least, most with
    | least, some most => emitOptional greedy (emit body) (most - least) (emitTimes (emit body) least code)
    | 0, none =>
      if body.consumes then emitStar greedy (emit body) code
      else emitOptional greedy (emitPlus greedy (emit body)) 1 code
    | least + 1, none => emitPlus greedy (emit body) (emitTimes (emit body) least code)
  | .seq first second, code => emit second (emit first code)
  | .alt first second, code =>
    let at_ := code.size
    let code := (emit first (code.push .accept)).push .accept
    let middle := code.size
    let code := emit second code
    (code.setIfInBounds at_ (.fork (at_ + 1) middle)).setIfInBounds (middle - 1) (.jump code.size)

/-- The program of an expression. -/
def ofExpr (e : Expr) : Program :=
  (emit (.capture 0 e) #[]).push .accept

end Program

end Cleave.Pattern
