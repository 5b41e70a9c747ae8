import Cleave.Domain.Key
import Cleave.Pattern.Basic

/-!
# Rules

Declarations are assigned to domains by name: names that are kept stay in the root, and otherwise the first
rule whose pattern occurs in the name decides, without regard to case.
-/

namespace Cleave

/-- Why a rule is not accepted. -/
inductive RuleError
  | invalidKey (key : Text)
  | invalidPattern (key : DomainKey) (why : Text)
  deriving Repr

/-- The wording of a rule error. -/
def RuleError.message : RuleError → Text
  | invalidKey key => "Invalid domain key '".toList ++ key ++ "': use letters, digits, '_' or '-'".toList
  | invalidPattern key why => "Invalid pattern for domain '".toList ++ key.text ++ "': ".toList ++ why

/-- Names that match the pattern belong to the key. -/
structure DomainRule where
  key : DomainKey
  pattern : Pattern

namespace DomainRule

/-- Reads a rule; the key is checked before the pattern. -/
def compile (read : Pattern.Reader) (key pattern : Text) : Except RuleError DomainRule := do
  match DomainKey.parse key with
  | .error key => .error (.invalidKey key)
  | .ok key =>
    match read true pattern with
    | .error why => .error (.invalidPattern key why)
    | .ok pattern => .ok { key, pattern }

/-- Whether the rule covers a name. -/
def covers (rule : DomainRule) (name : Text) : Bool :=
  rule.pattern.occursIn name

end DomainRule

/-- How declarations are put into groups. -/
inductive Grouping
  /-- By the first rule that covers the name. -/
  | rules
  /-- Every declaration is its own group. -/
  | declaration
  deriving DecidableEq, Repr

/-- Where a declaration goes. -/
inductive Assignment
  /-- It stays in the root. -/
  | retained
  /-- It moves to a group; `matched` is false if it only fell back to `misc`. -/
  | domain (key : DomainKey) (matched : Bool)
  deriving DecidableEq, Repr

/-- Ordered rules, with the names that never leave the root. -/
structure RuleTable where
  rules : List DomainRule
  retained : List Text := []
  grouping : Grouping := .rules
  /-- Whether declarations that no rule covers move to `misc`. -/
  extractMisc : Bool := true

namespace RuleTable

/-- Reads rules in order and stops at the first one that is not accepted. -/
def compileRulesWith (read : Pattern.Reader) (pairs : List (Text × Text)) : Except RuleError (List DomainRule) :=
  pairs.mapM fun (key, pattern) => DomainRule.compile read key pattern

/-- Reads rules with the reader of patterns. -/
def compileRules (pairs : List (Text × Text)) : Except RuleError (List DomainRule) :=
  compileRulesWith Pattern.read pairs

/-- Whether a name is on the list of names that stay. -/
def keeps (table : RuleTable) (name : Text) : Bool :=
  table.retained.contains name

/-- The key of the first rule that covers a name. -/
def find? (table : RuleTable) (name : Text) : Option DomainKey :=
  (table.rules.find? (·.covers name)).map DomainRule.key

/-- The domain of a name by the rules alone. -/
def classify (table : RuleTable) (name : Text) : DomainKey :=
  (table.find? name).getD .misc

/-- Where the declaration of a name goes. -/
def assign (table : RuleTable) (name : Text) : Assignment :=
  if table.keeps name then .retained
  else
    match table.grouping with
    | .declaration => .domain (.ofDeclaration name) true
    | .rules =>
      match table.find? name with
      | some key => .domain key true
      | none => if table.extractMisc then .domain .misc false else .retained

end RuleTable

end Cleave
