import Cleave.Text.Basic

/-!
# Import sets

The names that a group imports, by module. Modules and names are kept in ascending order without repetition,
so two sets with the same imports are equal.
-/

namespace Cleave

/-- How a name is brought into scope. -/
inductive ImportKind
  /-- One name of the module. -/
  | named
  /-- The whole module under a name. -/
  | wholeModule
  deriving DecidableEq, Repr

/-- Inserts a text into an ascending list unless it is there. -/
def insertName (name : Text) : List Text → List Text
  | [] => [name]
  | n :: ns =>
    if name < n then name :: n :: ns
    else if name = n then n :: ns
    else n :: insertName name ns

/-- The names imported from one module. -/
structure ModuleImports where
  module : Text
  named : List Text := []
  namespaces : List Text := []
  deriving DecidableEq, Repr

/-- Adds a name to the imports of a module. -/
def ModuleImports.insert (m : ModuleImports) (name : Text) : ImportKind → ModuleImports
  | .named => { m with named := insertName name m.named }
  | .wholeModule => { m with namespaces := insertName name m.namespaces }

/-- Imports by module, in ascending order of modules. -/
structure ImportSet where
  modules : List ModuleImports := []
  deriving DecidableEq, Repr

namespace ImportSet

/-- Adds a name to the imports of `module` in an ascending list of modules. -/
def insertInto (module name : Text) (kind : ImportKind) : List ModuleImports → List ModuleImports
  | [] => [ModuleImports.insert { module } name kind]
  | m :: ms =>
    if module < m.module then ModuleImports.insert { module } name kind :: m :: ms
    else if module = m.module then m.insert name kind :: ms
    else m :: insertInto module name kind ms

/-- Adds an import. -/
def insert (s : ImportSet) (module name : Text) (kind : ImportKind) : ImportSet :=
  ⟨insertInto module name kind s.modules⟩

/-- Whether some module provides a name. -/
def contains (s : ImportSet) (name : Text) : Bool :=
  s.modules.any fun m => m.named.contains name || m.namespaces.contains name

/-- The number of imported names. -/
def size (s : ImportSet) : Nat :=
  total (s.modules.map fun m => m.named.length + m.namespaces.length)

/-- Whether there is no import. -/
def isEmpty (s : ImportSet) : Bool :=
  s.modules.isEmpty

end ImportSet

end Cleave
