import Cleave.Data.Value

/-!
# YAML documents

A document is a tree of nodes. A node may have an anchor, by which other places of the document refer to it, and
a tag, which names its type. A reference stands for the node that has its anchor; the node itself is found only
when somebody asks for it.
-/

namespace Cleave.Yaml

/-- How a scalar is written. -/
inductive Style
  | plain
  | quoted
  /-- A block that keeps its line ends. -/
  | literal
  | folded
  deriving DecidableEq, Repr

/-- What may stand before a node. -/
structure Properties where
  anchor : Option Nat := none
  tag : Option String := none
  deriving Repr

/-- A node of a document. -/
inductive Node
  /-- A reference to an anchor. -/
  | reference (anchor : Nat)
  | scalar (properties : Properties) (style : Style) (text : String)
  | list (properties : Properties) (items : List Node)
  | table (properties : Properties) (entries : List (Node × Node))
  deriving Inhabited

namespace Node

/-- A node that is left empty. -/
def empty : Node := .scalar {} .plain ""

/-- What stands before the node. -/
def properties : Node → Properties
  | reference _ => {}
  | scalar p _ _ => p
  | list p _ => p
  | table p _ => p

/-- An anchor with its node, if the node has one. -/
def ownAnchor (n : Node) : List (Nat × Node) :=
  match n.properties.anchor with
  | some a => [(a, n)]
  | none => []

mutual

/-- The anchors of a node and of the nodes in it, in the order in which they begin. -/
def anchors : Node → List (Nat × Node)
  | .list p items => ownAnchor (.list p items) ++ anchorsOfItems items
  | .table p entries => ownAnchor (.table p entries) ++ anchorsOfEntries entries
  | n => ownAnchor n

/-- The anchors in a list. -/
def anchorsOfItems : List Node → List (Nat × Node)
  | [] => []
  | n :: r => anchors n ++ anchorsOfItems r

/-- The anchors in a table. -/
def anchorsOfEntries : List (Node × Node) → List (Nat × Node)
  | [] => []
  | (k, v) :: r => anchors k ++ anchors v ++ anchorsOfEntries r

end

mutual

/-- The number of parts of a node: a scalar and a reference are one, the ends of a list or table are two. -/
def parts : Node → Nat
  | .list _ items => 2 + partsOfItems items
  | .table _ entries => 2 + partsOfEntries entries
  | _ => 1

/-- The number of parts of the items of a list. -/
def partsOfItems : List Node → Nat
  | [] => 0
  | n :: r => parts n + partsOfItems r

/-- The number of parts of the entries of a table. -/
def partsOfEntries : List (Node × Node) → Nat
  | [] => 0
  | (k, v) :: r => parts k + parts v + partsOfEntries r

end

end Node

/-- A document: its root, and the nodes of its anchors, the last one first. -/
structure Document where
  root : Node
  anchors : List (Nat × Node)

/-- The document of a root. -/
def Document.ofRoot (root : Node) : Document :=
  { root, anchors := root.anchors.reverse }

/-- The node of an anchor. If several nodes have it, the last one counts. -/
def Document.node? (d : Document) (anchor : Nat) : Option Node :=
  d.anchors.lookup anchor

end Cleave.Yaml
