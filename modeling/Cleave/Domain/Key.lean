import Cleave.Text.Case

/-!
# Domain keys

A domain key names the group that a declaration belongs to. A key is either a name or the reserved key
`misc`, which collects what no rule covers.
-/

namespace Cleave

/-- The group that a declaration belongs to. -/
inductive DomainKey
  | named (name : Text)
  | misc
  deriving DecidableEq, Repr

namespace DomainKey

/-- The printed form of the reserved key. -/
def miscText : Text := "misc".toList

/-- Characters of a key. -/
def isKeyChar (c : Char) : Bool :=
  c.isAlphanum || c == '_' || c == '-'

/-- Reads a key without regard to white space around it. In case of failure the trimmed text is returned.
`misc` in any ASCII case is the reserved key. -/
def parse (text : Text) : Except Text DomainKey :=
  let t := Text.trim text
  if t.map Char.toLower = miscText then .ok misc
  else if t.isEmpty || !t.all isKeyChar then .error t
  else .ok (named t)

/-- The key of a declaration that forms its own group: its name with the first letter in lower case. -/
def ofDeclaration (name : Text) : DomainKey :=
  if name.isEmpty then misc else named (Text.lowerFirst name)

/-- The printed form. -/
def text : DomainKey → Text
  | named name => name
  | misc => miscText

/-- The printed form with its first letter in upper case. -/
def title (k : DomainKey) : Text :=
  Text.upperFirst k.text

/-- Whether this is the reserved key. -/
def isMisc : DomainKey → Bool
  | misc => true
  | named _ => false

end DomainKey

end Cleave
