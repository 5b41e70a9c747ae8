import Cleave.Data.Shape
import Cleave.Profile.Basic

/-!
# Settings as values

Each kind of settings is written as a table and read from one. Writing leaves out optional fields that are
absent; reading gives fields that are left out their defaults and passes over fields it does not know.
-/

namespace Cleave

namespace Value

/-- A list of strings. -/
def ofStrings (ss : List String) : Value :=
  list (ss.map string)

/-- The entry of an optional field, if it has a value. -/
def entry? {α : Type} (name : String) (write : α → Value) : Option α → List (String × Value)
  | some a => [(name, write a)]
  | none => []

/-- Reads a list of strings. -/
def strings? : Value → Option (List String) :=
  listOf? string?

end Value

namespace Grouping

/-- The written form. -/
def text : Grouping → String
  | rules => "rules"
  | declaration => "declaration"

/-- Reads the written form. -/
def ofText? (s : String) : Option Grouping :=
  if s = "rules" then some rules
  else if s = "declaration" then some declaration
  else none

end Grouping

namespace OutputFormat

/-- The written form. -/
def name : OutputFormat → String
  | text => "text"
  | json => "json"

/-- Reads the written form. -/
def ofName? (s : String) : Option OutputFormat :=
  if s = "text" then some text
  else if s = "json" then some json
  else none

end OutputFormat

open Value

namespace ScanSettings

/-- The fields with their shapes. -/
def fields : List (String × Shape) :=
  [("introducer", .string), ("aggregator", .optional .string), ("open_delimiter", .string),
   ("close_delimiter", .string), ("closing_marker", .string)]

/-- The shape of the whole. -/
def shape : Shape := .record fields

/-- Writes scan settings. -/
def encode (s : ScanSettings) : Value :=
  table <|
    [("introducer", string s.introducer)] ++ entry? "aggregator" string s.aggregator ++
      [("open_delimiter", string s.openDelimiter.toString),
       ("close_delimiter", string s.closeDelimiter.toString),
       ("closing_marker", string s.closingMarker)]

/-- Reads scan settings. -/
def decode? (d : Dialect) (v : Value) : Option ScanSettings := do
  let fields ← v.record? d (fields.map Prod.fst)
  let fallback : ScanSettings := {}
  return {
    introducer := ← Fields.get fields "introducer" string? fallback.introducer
    aggregator := ← Fields.getOptional fields "aggregator" string?
    openDelimiter := ← Fields.get fields "open_delimiter" char? fallback.openDelimiter
    closeDelimiter := ← Fields.get fields "close_delimiter" char? fallback.closeDelimiter
    closingMarker := ← Fields.get fields "closing_marker" string? fallback.closingMarker }

end ScanSettings

namespace RuleSettings

/-- The fields with their shapes. -/
def fields : List (String × Shape) :=
  [("key", .string), ("pattern", .string)]

/-- The shape of the whole. -/
def shape : Shape := .record fields

/-- Writes a rule. -/
def encode (s : RuleSettings) : Value :=
  table [("key", string s.key), ("pattern", string s.pattern)]

/-- Reads a rule. -/
def decode? (d : Dialect) (v : Value) : Option RuleSettings := do
  let fields ← v.record? d (fields.map Prod.fst)
  return {
    key := ← Fields.require fields "key" string?
    pattern := ← Fields.require fields "pattern" string? }

end RuleSettings

namespace ClassifySettings

/-- The fields with their shapes. -/
def fields : List (String × Shape) :=
  [("grouping", .choice), ("rules", .list RuleSettings.shape), ("retain", .list .string),
   ("extract_misc", .bool)]

/-- The shape of the whole. -/
def shape : Shape := .record fields

/-- Writes the settings of grouping. -/
def encode (s : ClassifySettings) : Value :=
  table
    [("grouping", string s.grouping.text),
     ("rules", list (s.rules.map RuleSettings.encode)),
     ("retain", ofStrings s.retain),
     ("extract_misc", bool s.extractMisc)]

/-- Reads the settings of grouping. -/
def decode? (d : Dialect) (v : Value) : Option ClassifySettings := do
  let fields ← v.record? d (fields.map Prod.fst)
  return {
    grouping := ← Fields.get fields "grouping" (fun v => (choice? d v).bind Grouping.ofText?) .rules
    rules := ← Fields.get fields "rules" (listOf? (RuleSettings.decode? d)) []
    retain := ← Fields.get fields "retain" strings? []
    extractMisc := ← Fields.get fields "extract_misc" bool? true }

end ClassifySettings

namespace SymbolSettings

/-- The fields with their shapes. -/
def fields : List (String × Shape) :=
  [("name", .string), ("module", .string), ("marker", .optional .string), ("namespace", .bool)]

/-- The shape of the whole. -/
def shape : Shape := .record fields

/-- Writes a symbol. -/
def encode (s : SymbolSettings) : Value :=
  table <|
    [("name", string s.name), ("module", string s.module)] ++ entry? "marker" string s.marker ++
      if s.wholeModule then [("namespace", bool true)] else []

/-- Reads a symbol. -/
def decode? (d : Dialect) (v : Value) : Option SymbolSettings := do
  let fields ← v.record? d (fields.map Prod.fst)
  return {
    name := ← Fields.require fields "name" string?
    module := ← Fields.require fields "module" string?
    marker := ← Fields.getOptional fields "marker" string?
    wholeModule := ← Fields.get fields "namespace" bool? false }

end SymbolSettings

namespace ImportSettings

/-- The fields with their shapes. -/
def fields : List (String × Shape) :=
  [("base", .list SymbolSettings.shape), ("symbols", .list SymbolSettings.shape),
   ("entity_patterns", .list .string), ("entity_module", .optional .string),
   ("entities", .dictionary .string)]

/-- The shape of the whole. -/
def shape : Shape := .record fields

/-- Writes the settings of imports. -/
def encode (s : ImportSettings) : Value :=
  table <|
    [("base", list (s.base.map SymbolSettings.encode)),
     ("symbols", list (s.symbols.map SymbolSettings.encode)),
     ("entity_patterns", ofStrings s.entityPatterns)] ++
      entry? "entity_module" string s.entityModule ++
      if s.entities.entries = [] then []
      else [("entities", table (s.entities.entries.map fun e => (e.1, string e.2)))]

/-- Reads the settings of imports. -/
def decode? (d : Dialect) (v : Value) : Option ImportSettings := do
  let fields ← v.record? d (fields.map Prod.fst)
  return {
    base := ← Fields.get fields "base" (listOf? (SymbolSettings.decode? d)) []
    symbols := ← Fields.get fields "symbols" (listOf? (SymbolSettings.decode? d)) []
    entityPatterns := ← Fields.get fields "entity_patterns" strings? []
    entityModule := ← Fields.getOptional fields "entity_module" string?
    entities := ← Fields.get fields "entities" (dictionaryOf? string?) .empty }

end ImportSettings

namespace SubstitutionSettings

/-- The fields with their shapes. -/
def fields : List (String × Shape) :=
  [("pattern", .string), ("replacement", .string)]

/-- The shape of the whole. -/
def shape : Shape := .record fields

/-- Writes a substitution. -/
def encode (s : SubstitutionSettings) : Value :=
  table [("pattern", string s.pattern), ("replacement", string s.replacement)]

/-- Reads a substitution. -/
def decode? (d : Dialect) (v : Value) : Option SubstitutionSettings := do
  let fields ← v.record? d (fields.map Prod.fst)
  return {
    pattern := ← Fields.require fields "pattern" string?
    replacement := ← Fields.require fields "replacement" string? }

end SubstitutionSettings

namespace WrapSettings

/-- The fields with their shapes. -/
def fields : List (String × Shape) :=
  [("open", .string), ("close", .string), ("member_from", .optional .string), ("member_to", .string),
   ("indent", .string)]

/-- The shape of the whole. -/
def shape : Shape := .record fields

/-- Writes the settings of wrapping. -/
def encode (s : WrapSettings) : Value :=
  table <|
    [("open", string s.opening), ("close", string s.closing)] ++
      entry? "member_from" string s.memberFrom ++
      [("member_to", string s.memberTo), ("indent", string s.indent)]

/-- Reads the settings of wrapping. -/
def decode? (d : Dialect) (v : Value) : Option WrapSettings := do
  let fields ← v.record? d (fields.map Prod.fst)
  return {
    opening := ← Fields.require fields "open" string?
    closing := ← Fields.require fields "close" string?
    memberFrom := ← Fields.getOptional fields "member_from" string?
    memberTo := ← Fields.get fields "member_to" string? ""
    indent := ← Fields.get fields "indent" string? "  " }

end WrapSettings

namespace RenderSettings

/-- The fields with their shapes. -/
def fields : List (String × Shape) :=
  [("header", .optional .string), ("export_prefix", .optional .string),
   ("substitution", .optional SubstitutionSettings.shape), ("wrap", .optional WrapSettings.shape),
   ("handle", .optional .string), ("import_named", .optional .string),
   ("import_namespace", .optional .string), ("root_import", .optional .string),
   ("root_banner", .optional .string)]

/-- The shape of the whole. -/
def shape : Shape := .record fields

/-- Writes the settings of rendering. -/
def encode (s : RenderSettings) : Value :=
  table <|
    entry? "header" string s.header ++
      entry? "export_prefix" string s.exportMark ++
      entry? "substitution" SubstitutionSettings.encode s.substitution ++
      entry? "wrap" WrapSettings.encode s.wrap ++
      entry? "handle" string s.handle ++
      entry? "import_named" string s.importNamed ++
      entry? "import_namespace" string s.importNamespace ++
      entry? "root_import" string s.rootImport ++
      entry? "root_banner" string s.rootBanner

/-- Reads the settings of rendering. -/
def decode? (d : Dialect) (v : Value) : Option RenderSettings := do
  let fields ← v.record? d (fields.map Prod.fst)
  return {
    header := ← Fields.getOptional fields "header" string?
    exportMark := ← Fields.getOptional fields "export_prefix" string?
    substitution := ← Fields.getOptional fields "substitution" (SubstitutionSettings.decode? d)
    wrap := ← Fields.getOptional fields "wrap" (WrapSettings.decode? d)
    handle := ← Fields.getOptional fields "handle" string?
    importNamed := ← Fields.getOptional fields "import_named" string?
    importNamespace := ← Fields.getOptional fields "import_namespace" string?
    rootImport := ← Fields.getOptional fields "root_import" string?
    rootBanner := ← Fields.getOptional fields "root_banner" string? }

end RenderSettings

namespace CheckSettings

/-- The fields with their shapes. -/
def fields : List (String × Shape) :=
  [("command", .list .string), ("timeout_secs", .nat), ("diagnostic_pattern", .optional .string),
   ("working_dir", .optional .string)]

/-- The shape of the whole. -/
def shape : Shape := .record fields

/-- Writes the settings of the check. -/
def encode (s : CheckSettings) : Value :=
  table <|
    [("command", ofStrings s.command), ("timeout_secs", int s.timeoutSeconds)] ++
      entry? "diagnostic_pattern" string s.diagnosticPattern ++
      entry? "working_dir" string s.workingDir

/-- Reads the settings of the check. -/
def decode? (d : Dialect) (v : Value) : Option CheckSettings := do
  let fields ← v.record? d (fields.map Prod.fst)
  let command ← Fields.require fields "command" strings?
  let timeoutSeconds ← Fields.get fields "timeout_secs" nat? 300
  let diagnosticPattern ← Fields.getOptional fields "diagnostic_pattern" string?
  let workingDir ← Fields.getOptional fields "working_dir" string?
  if h : timeoutSeconds ≤ Value.maxNat then
    return { command, timeoutSeconds, diagnosticPattern, workingDir, timeout_le := h }
  else none

end CheckSettings

namespace Profile

/-- The fields with their shapes. -/
def fields : List (String × Shape) :=
  [("description", .optional .string), ("extension", .string), ("scan", ScanSettings.shape),
   ("classify", ClassifySettings.shape), ("references", ImportSettings.shape),
   ("render", RenderSettings.shape), ("check", .optional CheckSettings.shape)]

/-- The shape of the whole. -/
def shape : Shape := .record fields

/-- Writes a profile. -/
def encode (p : Profile) : Value :=
  table <|
    entry? "description" string p.description ++
      [("extension", string p.extension), ("scan", p.scan.encode), ("classify", p.classify.encode),
       ("references", p.imports.encode), ("render", p.render.encode)] ++
      entry? "check" CheckSettings.encode p.check

/-- Reads a profile. -/
def decode? (d : Dialect) (v : Value) : Option Profile := do
  let fields ← v.record? d (fields.map Prod.fst)
  return {
    description := ← Fields.getOptional fields "description" string?
    extension := ← Fields.get fields "extension" string? "ts"
    scan := ← Fields.get fields "scan" (ScanSettings.decode? d) {}
    classify := ← Fields.get fields "classify" (ClassifySettings.decode? d) {}
    imports := ← Fields.get fields "references" (ImportSettings.decode? d) {}
    render := ← Fields.get fields "render" (RenderSettings.decode? d) {}
    check := ← Fields.getOptional fields "check" (CheckSettings.decode? d) }

end Profile

namespace Project

/-- The fields with their shapes. -/
def fields : List (String × Shape) :=
  [("default_profile", .optional .string), ("profiles", .dictionary Profile.shape)]

/-- The shape of the whole. -/
def shape : Shape := .record fields

/-- Writes the settings of a project. -/
def encode (p : Project) : Value :=
  table <|
    entry? "default_profile" string p.defaultProfile ++
      [("profiles", table (p.profiles.entries.map fun e => (e.1, e.2.encode)))]

/-- Reads the settings of a project. -/
def decode? (d : Dialect) (v : Value) : Option Project := do
  let fields ← v.record? d (fields.map Prod.fst)
  return {
    defaultProfile := ← Fields.getOptional fields "default_profile" string?
    profiles := ← Fields.get fields "profiles" (dictionaryOf? (Profile.decode? d)) .empty }

end Project

namespace UserSettings

/-- Reads the settings of a user. -/
def decode? (d : Dialect) (v : Value) : Option UserSettings := do
  let fields ← v.record? d ["default_format"]
  return {
    defaultFormat :=
      ← Fields.get fields "default_format" (fun v => (choice? d v).bind OutputFormat.ofName?) .text }

end UserSettings

end Cleave
