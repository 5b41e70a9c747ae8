import Cleave.Check.Command
import Cleave.Plan
import Cleave.Profile.Basic

/-!
# Compiling profiles

A profile is checked once and turned into an engine. The first setting that is not accepted is reported: scan
settings first, then rules in order, entity patterns in order, the extension, and the substitution. What a pattern
is, and how a text that is none is refused, is left to the reader of patterns that a profile is compiled with.
-/

namespace Cleave

/-- Why a profile is not accepted. -/
inductive ProfileFault
  | sameDelimiters
  | emptyMarker
  | introducer (why : Text)
  | introducerCapture (pattern : Text)
  | aggregator (why : Text)
  | rule (e : RuleError)
  | entity (e : EntityError)
  | emptyExtension
  | substitution (e : SubstitutionError)
  | check (e : CheckError)
  deriving Repr

/-- The wording of a profile fault. -/
def ProfileFault.message : ProfileFault → Text
  | sameDelimiters => "open and close delimiters must differ".toList
  | emptyMarker => "closing marker must not be empty".toList
  | introducer why => "invalid introducer pattern: ".toList ++ why
  | introducerCapture pattern =>
    "introducer '".toList ++ pattern ++ "' needs a capture group for the name".toList
  | aggregator why => "invalid aggregator pattern: ".toList ++ why
  | rule e => e.message
  | entity e => e.message
  | emptyExtension => "extension must not be empty".toList
  | substitution e => e.message
  | check e => e.message

/-- A profile that is not accepted, with its name. -/
structure InvalidProfile where
  name : Text
  fault : ProfileFault
  deriving Repr

/-- The wording, with the name of the profile. -/
def InvalidProfile.message (e : InvalidProfile) : Text :=
  "Invalid profile '".toList ++ e.name ++ "': ".toList ++ e.fault.message

namespace ScanSettings

/-- Reads the aggregator pattern, if there is one. -/
def compileAggregator (read : Pattern.Reader) (s : ScanSettings) : Except ProfileFault (Option Pattern) :=
  match s.aggregator with
  | none => .ok none
  | some source => ((read false source.toList).mapError .aggregator).map some

/-- Checks scan settings. -/
def compile (read : Pattern.Reader) (s : ScanSettings) : Except ProfileFault ScanPatterns := do
  if s.openDelimiter = s.closeDelimiter then throw .sameDelimiters
  if s.closingMarker.toList = [] then throw .emptyMarker
  let introducer ← (read false s.introducer.toList).mapError .introducer
  if !introducer.hasCapture then throw (.introducerCapture s.introducer.toList)
  let aggregator ← s.compileAggregator read
  return {
    introducer, aggregator
    openChar := s.openDelimiter
    closeChar := s.closeDelimiter
    closingMarker := s.closingMarker.toList }

end ScanSettings

/-- Checks the rules. -/
def ClassifySettings.compile (read : Pattern.Reader) (s : ClassifySettings) : Except ProfileFault RuleTable := do
  let pairs := s.rules.map fun r => (r.key.toList, r.pattern.toList)
  let rules ← (RuleTable.compileRulesWith read pairs).mapError .rule
  return {
    rules
    retained := s.retain.map String.toList
    grouping := s.grouping
    extractMisc := s.extractMisc }

/-- The symbol that settings describe. -/
def SymbolSettings.symbol (s : SymbolSettings) : Symbol :=
  { name := s.name.toList
    module := s.module.toList
    marker := (s.marker.getD s.name).toList
    kind := if s.wholeModule then .wholeModule else .named }

/-- Checks the entity patterns. -/
def ImportSettings.compile (read : Pattern.Reader) (s : ImportSettings) : Except ProfileFault Catalog := do
  let patterns ← (EntityCatalog.compilePatternsWith read (s.entityPatterns.map String.toList)).mapError .entity
  return {
    base := s.base.map SymbolSettings.symbol
    optional := s.symbols.map SymbolSettings.symbol
    entities := {
      patterns
      defaultModule := s.entityModule.map String.toList
      modules := s.entities.entries.map fun e => (e.1.toList, e.2.toList) } }

/-- The wrapper that settings describe. -/
def WrapSettings.wrapper (s : WrapSettings) : Wrapper :=
  { opening := s.opening.toList
    closing := s.closing.toList
    memberFrom := s.memberFrom.map String.toList
    memberTo := s.memberTo.toList
    indent := s.indent.toList }

namespace RenderSettings

/-- Reads the substitution, if there is one. -/
def compileSubstitution (read : Pattern.Reader) (s : RenderSettings) : Except ProfileFault (Option Substitution) :=
  match s.substitution with
  | none => .ok none
  | some t =>
    ((Substitution.compileWith read t.pattern.toList t.replacement.toList).mapError .substitution).map some

/-- Checks the extension and the substitution. -/
def compile (read : Pattern.Reader) (s : RenderSettings) (extension : Text) : Except ProfileFault Renderer := do
  if Text.isBlank extension then throw .emptyExtension
  let substitution ← s.compileSubstitution read
  let fallback : Renderer := {}
  let given (setting : Option String) (fallback : Text) : Text := (setting.map String.toList).getD fallback
  return {
    extension := Text.trimStartOf (· == '.') extension
    header := given s.header fallback.header
    exportMark := s.exportMark.map String.toList
    substitution
    wrapper := s.wrap.map WrapSettings.wrapper
    handle := given s.handle fallback.handle
    imports := {
      named := given s.importNamed fallback.imports.named
      namespaced := given s.importNamespace fallback.imports.namespaced
      root := s.rootImport.map String.toList }
    rootBanner := s.rootBanner.map String.toList }

end RenderSettings

namespace Profile

/-- Checks a profile and builds its engine. -/
def engine (read : Pattern.Reader) (p : Profile) : Except ProfileFault Engine := do
  let patterns ← p.scan.compile read
  let table ← p.classify.compile read
  let catalog ← p.imports.compile read
  let renderer ← p.render.compile read p.extension.toList
  return { patterns, table, catalog, renderer }

/-- Checks the profile of a name and builds its engine. -/
def compileWith (read : Pattern.Reader) (p : Profile) (name : Text) : Except InvalidProfile Engine :=
  (p.engine read).mapError fun fault => { name, fault }

/-- Checks the profile of a name with the reader of patterns. -/
def compile (p : Profile) (name : Text) : Except InvalidProfile Engine :=
  p.compileWith Pattern.read name

/-- Where a check runs: a relative directory is taken below the base directory. -/
def checkDir (s : CheckSettings) (baseDir : Option Path) : Option Path :=
  match s.workingDir, baseDir with
  | some dir, some base => some (base.join (.ofString dir))
  | some dir, none => some (.ofString dir)
  | none, base => base

/-- The check command of a profile, if it has one. -/
def checkCommand (p : Profile) (name : Text) (baseDir : Option Path) :
    Except InvalidProfile (Option CheckCommand) :=
  match p.check with
  | none => .ok none
  | some s =>
    let command := CheckCommand.compile (s.command.map String.toList) (s.timeoutSeconds * 1000)
      (s.diagnosticPattern.map String.toList) (checkDir s baseDir)
    (command.mapError fun e => { name, fault := .check e }).map some

end Profile

end Cleave
