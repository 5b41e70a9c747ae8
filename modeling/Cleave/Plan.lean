import Cleave.Domain.Rules
import Cleave.Imports.Catalog
import Cleave.Render
import Cleave.Scan
import Cleave.Specifier

/-!
# Plans

A plan holds every file that a run would write for one document. It is made in memory: the document is
scanned, its declarations are grouped by domain, and each group and the root are rendered.
-/

namespace Cleave

/-- Declarations of one domain, in source order. -/
structure DomainGroup where
  key : DomainKey
  spans : List Span
  deriving DecidableEq, Repr

namespace DomainGroup

/-- The text of all declarations. -/
def body (g : DomainGroup) : Text :=
  (g.spans.map Span.text).flatten

/-- The names of all declarations. -/
def names (g : DomainGroup) : List Text :=
  g.spans.map Span.name

end DomainGroup

/-- Declarations put into groups. -/
structure Grouped where
  /-- Groups in order of their first declaration. -/
  groups : List DomainGroup := []
  /-- Declarations that stay in the root. -/
  retained : List Span := []
  /-- Names that only fell back to `misc`. -/
  unmatched : List Text := []
  deriving DecidableEq, Repr

namespace Grouped

/-- Adds a declaration to the group of its key, which is made if it is missing. -/
def addTo (key : DomainKey) (span : Span) : List DomainGroup → List DomainGroup
  | [] => [⟨key, [span]⟩]
  | g :: gs => if g.key = key then { g with spans := g.spans ++ [span] } :: gs else g :: addTo key span gs

/-- Puts one declaration where the rules say. -/
def add (table : RuleTable) (g : Grouped) (span : Span) : Grouped :=
  match table.assign span.name with
  | .retained => { g with retained := g.retained ++ [span] }
  | .domain key matched =>
    { g with
      groups := addTo key span g.groups
      unmatched := if matched then g.unmatched else g.unmatched ++ [span.name] }

/-- Puts declarations into groups. -/
def ofSpans (table : RuleTable) (spans : List Span) : Grouped :=
  spans.foldl (add table) {}

end Grouped

/-- Where the root and the generated files live. -/
structure Layout where
  rootDir : Path
  outDir : Path
  deriving Repr

/-- One rendered group. -/
structure GroupPlan where
  key : DomainKey
  declarations : List Text
  imports : ImportSet
  /-- The file, with a path relative to the output directory. -/
  file : GeneratedFile
  deriving DecidableEq, Repr

/-- Everything that a run would write. -/
structure Plan where
  groups : List GroupPlan
  root : GeneratedFile
  retained : List Text
  unmatched : List Text
  failures : List ScanFailure
  aggregator : Option Text
  deriving DecidableEq, Repr

namespace Plan

/-- The number of extracted declarations. -/
def extracted (p : Plan) : Nat :=
  total (p.groups.map fun g => g.declarations.length)

/-- Whether nothing would be extracted. -/
def isNoop (p : Plan) : Bool :=
  p.groups.isEmpty

/-- The names of the declarations that do not close. -/
def failureNames (p : Plan) : List Text :=
  p.failures.map ScanFailure.name

/-- The files of the groups. -/
def files (p : Plan) : List GeneratedFile :=
  p.groups.map GroupPlan.file

end Plan

/-- A compiled profile: everything that decides how a document is split. -/
structure Engine where
  patterns : ScanPatterns
  table : RuleTable
  catalog : Catalog
  renderer : Renderer

namespace Engine

/-- Groups the declarations of a scanned document. -/
def group (e : Engine) (o : ScanOutcome) : Grouped :=
  Grouped.ofSpans e.table o.declarations

/-- Residues that are not blank and retained declarations, in source order. -/
def retainedChunks (o : ScanOutcome) (retained : List Span) : List Text :=
  let residue := (o.residue.filter fun r => !r.isBlank).map fun r => (r.first, r.text)
  let spans := retained.map fun s => (s.first, s.text)
  ((residue ++ spans).mergeSort fun x y => decide (x.1 ≤ y.1)).map Prod.snd

/-- Renders one group. -/
def planGroup (e : Engine) (source : Text) (g : DomainGroup) : GroupPlan :=
  let imports := e.catalog.infer g.body
  { key := g.key, declarations := g.names, imports, file := e.renderer.group g.key g.spans imports source }

/-- The line of the root that brings in a group. -/
def rootImport (e : Engine) (layout : Layout) (g : DomainGroup) : RootImport :=
  { names := e.renderer.publicNames g.key g.spans
    module := Specifier.relative layout.rootDir (layout.outDir.join (e.renderer.fileName g.key)) }

/-- The content of the root: the document itself if nothing is extracted. -/
def rootContent (e : Engine) (d : Document) (layout : Layout) (o : ScanOutcome) (g : Grouped) : Text :=
  if g.groups = [] then d.text
  else
    e.renderer.root
      { preamble := o.preamble
        imports := g.groups.map (e.rootImport layout)
        retained := retainedChunks o g.retained
        aggregator := o.aggregator.map Span.text
        trailing := o.trailing }

/-- Plans a run for a document. -/
def plan (e : Engine) (d : Document) (layout : Layout) : Plan :=
  let o := e.patterns.scan d
  let g := e.group o
  { groups := g.groups.map (e.planGroup d.fileName)
    root := { path := ⟨d.fileName⟩, content := e.rootContent d layout o g }
    retained := g.retained.map Span.name
    unmatched := g.unmatched
    failures := o.failures
    aggregator := o.aggregator.map Span.name }

end Engine

end Cleave
