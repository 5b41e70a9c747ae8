import Cleave.Imports.Set
import Cleave.Pattern.Basic

/-!
# The import catalog

There is no symbol table. A group imports every base symbol, each optional symbol whose marker occurs in its
text, and each entity that a pattern captures in its text and that has a module.
-/

namespace Cleave

/-- A symbol that groups may import. -/
structure Symbol where
  name : Text
  module : Text
  /-- Text whose occurrence means that the symbol is used. -/
  marker : Text
  kind : ImportKind
  deriving DecidableEq, Repr

/-- Why entity patterns are not accepted. -/
inductive EntityError
  | missingCapture (pattern : Text)
  | invalidPattern (pattern : Text) (why : Text)
  deriving Repr

/-- The wording of an entity error. -/
def EntityError.message : EntityError → Text
  | missingCapture pattern =>
    "Entity pattern '".toList ++ pattern ++ "' needs a capture group for the entity name".toList
  | invalidPattern pattern why => "Invalid entity pattern '".toList ++ pattern ++ "': ".toList ++ why

/-- Entities are names that patterns capture in the text of a group. -/
structure EntityCatalog where
  patterns : List Pattern := []
  /-- Module of the entities that have no entry of their own. -/
  defaultModule : Option Text := none
  /-- Modules of single entities. -/
  modules : List (Text × Text) := []

namespace EntityCatalog

/-- Reads one entity pattern, which must capture something. -/
def compilePattern (read : Pattern.Reader) (source : Text) : Except EntityError Pattern :=
  match read false source with
  | .error why => .error (.invalidPattern source why)
  | .ok p => if p.hasCapture then .ok p else .error (.missingCapture source)

/-- Reads entity patterns in order and stops at the first one that is not accepted. -/
def compilePatternsWith (read : Pattern.Reader) (sources : List Text) : Except EntityError (List Pattern) :=
  sources.mapM (compilePattern read)

/-- Reads entity patterns with the reader of patterns. -/
def compilePatterns (sources : List Text) : Except EntityError (List Pattern) :=
  compilePatternsWith Pattern.read sources

/-- The module of an entity. -/
def moduleOf? (catalog : EntityCatalog) (entity : Text) : Option Text :=
  (catalog.modules.lookup entity).or catalog.defaultModule

/-- The entities captured in a text, in the order they are found. -/
def captured (catalog : EntityCatalog) (text : Text) : List Text :=
  catalog.patterns.flatMap fun p => (p.findAll text).filterMap fun m => m.group? text 1

/-- The entities captured in a text, in ascending order. -/
def scan (catalog : EntityCatalog) (text : Text) : List Text :=
  (catalog.captured text).foldl (fun names name => insertName name names) []

end EntityCatalog

/-- Everything that is known about symbols outside the source. -/
structure Catalog where
  /-- Imported by every group. -/
  base : List Symbol := []
  /-- Imported where their marker occurs. -/
  optional : List Symbol := []
  entities : EntityCatalog := {}

namespace Catalog

/-- Adds a symbol to an import set. -/
def addSymbol (s : ImportSet) (symbol : Symbol) : ImportSet :=
  s.insert symbol.module symbol.name symbol.kind

/-- Adds an entity to an import set, if it has a module. -/
def addEntity (entities : EntityCatalog) (s : ImportSet) (entity : Text) : ImportSet :=
  match entities.moduleOf? entity with
  | some module => s.insert module entity .named
  | none => s

/-- The imports that a text needs. -/
def infer (catalog : Catalog) (body : Text) : ImportSet :=
  let s := catalog.base.foldl addSymbol {}
  let s := (catalog.optional.filter fun symbol => Text.occursIn symbol.marker body).foldl addSymbol s
  (catalog.entities.scan body).foldl (addEntity catalog.entities) s

end Catalog

end Cleave
