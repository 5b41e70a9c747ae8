import Cleave.Document
import Cleave.Pattern.Basic

/-!
# Scanning

A scan cuts a document into a preamble, declarations, residues, at most one aggregator and the text after
it. A line that matches the introducer or the aggregator pattern starts a declaration. The declaration ends
on the first line where opening and closing delimiters balance, at least one has been opened, and the closing
marker occurs. Delimiters in strings and comments count like any other. A declaration that is still open when
the next one starts, or at the end, is a failure, and its lines become residue.
-/

namespace Cleave

/-- A declaration that does not close. Lines count from 0. -/
inductive ScanFailure
  | unterminated (name : Text) (line : Nat)
  | interrupted (name : Text) (line nextLine : Nat)
  deriving DecidableEq, Repr

namespace ScanFailure

/-- The name of the declaration. -/
def name : ScanFailure → Text
  | unterminated name _ => name
  | interrupted name _ _ => name

/-- The wording, with lines counted from 1. -/
def message : ScanFailure → Text
  | unterminated name line =>
    name ++ " (line ".toList ++ Text.ofNat (line + 1) ++ "): block is still open at end of file".toList
  | interrupted name line nextLine =>
    name ++ " (line ".toList ++ Text.ofNat (line + 1) ++ "): next declaration starts at line ".toList ++
      Text.ofNat (nextLine + 1) ++ " before this one closes".toList

end ScanFailure

/-- What a scanner looks for. -/
structure ScanPatterns where
  /-- The first line of a declaration. -/
  introducer : Pattern
  /-- The first line of the aggregator. -/
  aggregator : Option Pattern
  openChar : Char
  closeChar : Char
  /-- Text that the last line of a declaration holds. -/
  closingMarker : Text

/-- The parts of a scanned document. -/
structure ScanOutcome where
  /-- Text before the first declaration. -/
  preamble : Text := []
  declarations : List Span := []
  residue : List Residue := []
  aggregator : Option Span := none
  /-- Text after the aggregator. -/
  trailing : Text := []
  failures : List ScanFailure := []
  deriving DecidableEq, Repr

/-- Bytes of all parts together. -/
def ScanOutcome.accountedLength (o : ScanOutcome) : Nat :=
  Text.byteLength o.preamble + total (o.declarations.map fun s => Text.byteLength s.text) +
    total (o.residue.map fun r => Text.byteLength r.text) +
    (o.aggregator.map fun s => Text.byteLength s.text).getD 0 + Text.byteLength o.trailing

namespace Scan

/-- The first line of a declaration: its name, and whether it starts the aggregator. -/
structure Start where
  name : Text
  aggregates : Bool
  deriving DecidableEq, Repr

/-- The name in a match: the group `name`, else the first group, else the whole match. -/
def matchedName (p : Pattern) (line : Text) (m : Pattern.Match) : Text :=
  Text.trim <|
    ((m.named? p line "name".toList).or ((m.group? line 1).or (m.group? line 0))).getD []

/-- The start that a line makes, if it makes one. The aggregator pattern is tried first. -/
def start? (patterns : ScanPatterns) (line : Text) : Option Start :=
  let line := Text.trimEndOf Text.isTerminator line
  let found (aggregates : Bool) (p : Pattern) : Option Start :=
    (p.find? line).map fun m => { name := matchedName p line m, aggregates }
  (patterns.aggregator.bind (found true)).or (found false patterns.introducer)

/-- A declaration that has started and not closed yet. -/
structure OpenBody where
  name : Text
  first : Nat
  aggregates : Bool
  /-- Opening minus closing delimiters so far. -/
  balance : Int := 0
  /-- Whether a delimiter has been opened. -/
  opened : Bool := false
  deriving DecidableEq, Repr

/-- Counts one character. -/
def OpenBody.count (patterns : ScanPatterns) (b : OpenBody) (c : Char) : OpenBody :=
  if c = patterns.openChar then { b with balance := b.balance + 1, opened := true }
  else if c = patterns.closeChar then { b with balance := b.balance - 1 }
  else b

/-- Counts the characters of a line. -/
def OpenBody.countLine (patterns : ScanPatterns) (b : OpenBody) (line : Text) : OpenBody :=
  line.foldl (OpenBody.count patterns) b

/-- Whether a declaration closes on a line that has been counted. -/
def OpenBody.closesOn (patterns : ScanPatterns) (b : OpenBody) (line : Text) : Bool :=
  b.balance == 0 && b.opened && Text.occursIn patterns.closingMarker line

/-- A scan in progress. -/
structure Progress where
  outcome : ScanOutcome := {}
  /-- Lines that belong to no part of the outcome yet. -/
  pending : List Text := []
  /-- Position of the first pending line. -/
  cursor : Nat := 0
  /-- Whether a declaration has started. -/
  started : Bool := false
  body : Option OpenBody := none

namespace Progress

/-- Makes the pending lines, if there are any, a residue; line `index` comes next. -/
def flush (p : Progress) (index : Nat) : Progress :=
  if p.pending = [] then { p with cursor := index }
  else
    { p with
      outcome := { p.outcome with residue := p.outcome.residue ++ [⟨p.cursor, p.pending.flatten⟩] }
      pending := [], cursor := index }

/-- Gives up the open declaration because another one starts at line `index`. -/
def interrupt (p : Progress) (b : OpenBody) (index : Nat) : Progress :=
  let failure := ScanFailure.interrupted b.name b.first index
  { p.flush index with
    outcome := { (p.flush index).outcome with failures := p.outcome.failures ++ [failure] }
    body := none }

/-- Starts a declaration at line `index`: the lines before the first one are the preamble, lines between two
are residue. -/
def begin (p : Progress) (s : Start) (index : Nat) : Progress :=
  let body : OpenBody := { name := s.name, first := index, aggregates := s.aggregates }
  if p.started then { p.flush index with body := some body }
  else
    { p with
      outcome := { p.outcome with preamble := p.pending.flatten }
      pending := [], cursor := index, started := true, body := some body }

/-- Result of taking in a line: the scan goes on, or the aggregator has closed. -/
inductive Next
  | more (p : Progress)
  | closed (o : ScanOutcome)

/-- Takes in a line of the open declaration. -/
def takeBody (patterns : ScanPatterns) (p : Progress) (b : OpenBody) (index : Nat) (line : Text) : Next :=
  let b := b.countLine patterns line
  let pending := p.pending ++ [line]
  if b.closesOn patterns line then
    let span : Span := { name := b.name, first := b.first, last := index, text := pending.flatten }
    if b.aggregates then .closed { p.outcome with aggregator := some span }
    else
      .more { p with
        outcome := { p.outcome with declarations := p.outcome.declarations ++ [span] }
        pending := [], cursor := index + 1, body := none }
  else .more { p with pending, body := some b }

/-- Takes in the line at position `index`. -/
def step (patterns : ScanPatterns) (p : Progress) (index : Nat) (line : Text) : Next :=
  match p.body, start? patterns line with
  | some b, none => takeBody patterns p b index line
  | none, none => .more { p with pending := p.pending ++ [line] }
  | body, some s =>
    let p := match body with
      | some b => p.interrupt b index
      | none => p
    let b : OpenBody := { name := s.name, first := index, aggregates := s.aggregates }
    takeBody patterns (p.begin s index) b index line

/-- Ends the scan after the last line, which comes before position `index`. -/
def finish (p : Progress) (index : Nat) : ScanOutcome :=
  match p.body with
  | some b =>
    { (p.flush index).outcome with
      failures := p.outcome.failures ++ [ScanFailure.unterminated b.name b.first] }
  | none =>
    if p.started then (p.flush index).outcome
    else { p.outcome with preamble := p.pending.flatten }

/-- Takes in the remaining lines, the first of which is at position `index`. -/
def run (patterns : ScanPatterns) : (index : Nat) → Progress → List Text → ScanOutcome
  | index, p, [] => p.finish index
  | index, p, line :: rest =>
    match p.step patterns index line with
    | .more p => run patterns (index + 1) p rest
    | .closed o => { o with trailing := rest.flatten }

end Progress

end Scan

/-- Scans a document. A scan never fails; declarations that do not close are listed in its outcome. -/
def ScanPatterns.scan (patterns : ScanPatterns) (d : Document) : ScanOutcome :=
  Scan.Progress.run patterns 0 {} d.lines

end Cleave
