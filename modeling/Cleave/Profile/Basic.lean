import Cleave.Data.Dictionary
import Cleave.Domain.Rules

/-!
# Profiles

A profile is a complete set of settings for one kind of source file, as a user writes it. Every field that may
be left out has a default here.
-/

namespace Cleave

/-- How declarations are found. -/
structure ScanSettings where
  /-- Pattern of the first line of a declaration, with a group for the name. -/
  introducer : String := "^export (?:async )?function (\\w+)"
  /-- Pattern of the first line of the aggregator. -/
  aggregator : Option String := none
  openDelimiter : Char := '\x7b'
  closeDelimiter : Char := '\x7d'
  /-- Text that the last line of a declaration holds. -/
  closingMarker : String := "\x7d"
  deriving DecidableEq, Repr

/-- Names that match the pattern belong to the key. -/
structure RuleSettings where
  key : String
  pattern : String
  deriving DecidableEq, Repr

/-- How declarations are put into groups. -/
structure ClassifySettings where
  grouping : Grouping := .rules
  /-- Rules in order; the first that matches decides. -/
  rules : List RuleSettings := []
  /-- Names that always stay in the root. -/
  retain : List String := []
  /-- Whether declarations that no rule covers move to `misc`. -/
  extractMisc : Bool := true
  deriving DecidableEq, Repr

/-- A symbol that groups may import. -/
structure SymbolSettings where
  name : String
  module : String
  /-- Text that means use; the name itself if it is left out. -/
  marker : Option String := none
  /-- Whether the whole module is imported under the name. -/
  wholeModule : Bool := false
  deriving DecidableEq, Repr

/-- What groups may import. -/
structure ImportSettings where
  /-- Symbols that every group imports. -/
  base : List SymbolSettings := []
  /-- Symbols that a group imports if their marker occurs in it. -/
  symbols : List SymbolSettings := []
  /-- Patterns whose first group is the name of an entity. -/
  entityPatterns : List String := []
  /-- Module of the entities that have no entry of their own. -/
  entityModule : Option String := none
  /-- Modules of single entities. -/
  entities : Dictionary String := .empty
  deriving DecidableEq, Repr

/-- A substitution in the text of declarations. -/
structure SubstitutionSettings where
  pattern : String
  replacement : String
  deriving DecidableEq, Repr

/-- A declaration around all declarations of a group. -/
structure WrapSettings where
  opening : String
  closing : String
  memberFrom : Option String := none
  memberTo : String := ""
  indent : String := "  "
  deriving DecidableEq, Repr

/-- The shape of generated files and of the root. -/
structure RenderSettings where
  header : Option String := none
  /-- Put before declarations that do not start with it. -/
  exportMark : Option String := none
  substitution : Option SubstitutionSettings := none
  wrap : Option WrapSettings := none
  /-- The public name of a wrapped group. -/
  handle : Option String := none
  importNamed : Option String := none
  importNamespace : Option String := none
  /-- The line of the root for one group. -/
  rootImport : Option String := none
  rootBanner : Option String := none
  deriving DecidableEq, Repr

/-- A command that checks the source tree before and after a run. -/
structure CheckSettings where
  command : List String
  timeoutSeconds : Nat := 300
  /-- Pattern of the output lines that count as diagnostics. -/
  diagnosticPattern : Option String := none
  /-- Where the command runs; the directory of the project file if it is left out. -/
  workingDir : Option String := none
  /-- The timeout is a 64-bit number. -/
  timeout_le : timeoutSeconds ≤ 18446744073709551615 := by decide
  deriving DecidableEq, Repr

/-- All settings for one kind of source file. -/
structure Profile where
  description : Option String := none
  /-- Extension of generated files. -/
  extension : String := "ts"
  scan : ScanSettings := {}
  classify : ClassifySettings := {}
  imports : ImportSettings := {}
  render : RenderSettings := {}
  check : Option CheckSettings := none
  deriving DecidableEq, Repr

/-- The settings of a project: its own profiles, and the one that is used if none is asked for. -/
structure Project where
  defaultProfile : Option String := none
  profiles : Dictionary Profile := .empty
  deriving DecidableEq, Repr

/-- How results are printed. -/
inductive OutputFormat
  | text
  | json
  deriving DecidableEq, Repr

/-- The settings of a user. -/
structure UserSettings where
  defaultFormat : OutputFormat := .text
  deriving DecidableEq, Repr

end Cleave
