import Cleave.Data.Yaml.Lexer
import Cleave.Data.Yaml.Typing

/-!
# Reading YAML

A text holds at most one document.
-/

namespace Cleave.Yaml

/-- A reader at work. -/
structure Reader where
  /-- The tokens that follow. -/
  tokens : List Token
  /-- What the handles of tags stand for. -/
  handles : List (Text × Text) := []
  /-- The names of anchors with their numbers, the last one first. -/
  names : List (Text × Nat) := []
  /-- How many different names there are. -/
  nameCount : Nat := 0

namespace Reader

/-- The next token. -/
def head (r : Reader) : Option Token :=
  r.tokens.head?

/-- Passes over a token. -/
def skip (r : Reader) : Reader :=
  { r with tokens := r.tokens.drop 1 }

/-- Whether the next token is one of those given. -/
def at? (r : Reader) (ts : List Token) : Bool :=
  r.head.any ts.contains

/-- A tag in full: what its handle stands for comes before the rest of it. -/
def fullTag (r : Reader) (handle : Option Text) (suffix : Text) : Option String :=
  match handle with
  | none => some (String.ofList suffix)
  | some h => (r.handles.lookup h).map fun expansion => String.ofList (expansion ++ suffix)

/-- The number of a new anchor: how many names there are already. A name that is used again gets a new number,
and then a name that comes next may get the same one. -/
def define (r : Reader) (name : Text) : Nat × Reader :=
  let known := r.names.any (·.1 == name)
  let names := (name, r.nameCount) :: r.names
  (r.nameCount, { r with names, nameCount := if known then r.nameCount else r.nameCount + 1 })

/-- Reads an anchor, if there is one. -/
def anchor (r : Reader) : Option Nat × Reader :=
  match r.head with
  | some (.anchor name) => let (number, r) := r.skip.define name; (some number, r)
  | _ => (none, r)

/-- Reads a tag, if there is one. -/
def tag (r : Reader) : Option (Option String × Reader) :=
  match r.head with
  | some (.tag handle suffix) => (r.fullTag handle suffix).map fun t => (some t, r.skip)
  | _ => some (none, r)

/-- Reads what stands before a node: at most one anchor and at most one tag. -/
def properties (r : Reader) : Option (Properties × Reader) := do
  match r.head with
  | some (.tag _ _) =>
    let (tag, r) ← r.tag
    let (anchor, r) := r.anchor
    return ({ anchor, tag }, r)
  | _ =>
    let (anchor, r) := r.anchor
    let (tag, r) ← r.tag
    return ({ anchor, tag }, r)

end Reader

/-- A scalar with what stands before it. The tag without a name says nothing. -/
def scalarNode (p : Properties) (style : Style) (text : Text) : Node :=
  .scalar (if p.tag = some "!" then { p with tag := none } else p) style (String.ofList text)

mutual

/-- A node. A block may only stand where it is allowed, and one without indentation only after a key. -/
def node? : (fuel : Nat) → (allowBlock afterKey : Bool) → Reader → Option (Node × Reader)
  | 0, _, _, _ => none
  | fuel + 1, allowBlock, afterKey, r =>
    match r.head with
    | some (.reference name) => (r.names.lookup name).map fun number => (.reference number, r.skip)
    | _ => do
      let (p, r) ← r.properties
      let unfilled : Option (Node × Reader) :=
        if p.anchor.isSome || p.tag.isSome then some (.scalar p .plain "", r) else none
      match r.head with
      | some (.scalar style text) => return (scalarNode p style text, r.skip)
      | some .listOpen => (flowItems? fuel true r.skip).map fun (ns, r) => (.list p ns, r)
      | some .tableOpen => (flowPairs? fuel true r.skip).map fun (es, r) => (.table p es, r)
      | some .item =>
        if afterKey then (looseItems? fuel r).map fun (ns, r) => (.list p ns, r) else unfilled
      | some .blockSequence =>
        if allowBlock then (blockItems? fuel r.skip).map fun (ns, r) => (.list p ns, r) else unfilled
      | some .blockMapping =>
        if allowBlock then (blockPairs? fuel r.skip).map fun (es, r) => (.table p es, r) else unfilled
      | _ => unfilled

/-- A node, or an empty one before the tokens given. -/
def nodeUnless? : (fuel : Nat) → List Token → (allowBlock afterKey : Bool) → Reader → Option (Node × Reader)
  | 0, _, _, _, _ => none
  | fuel + 1, ends, allowBlock, afterKey, r =>
    if r.at? ends then some (Node.empty, r) else node? fuel allowBlock afterKey r

/-- The items of an indented list. -/
def blockItems? : (fuel : Nat) → Reader → Option (List Node × Reader)
  | 0, _ => none
  | fuel + 1, r =>
    match r.head with
    | some .item => do
      let (v, r) ← nodeUnless? fuel [.item, .blockEnd] true false r.skip
      let (vs, r) ← blockItems? fuel r
      return (v :: vs, r)
    | some .blockEnd => some ([], r.skip)
    | _ => none

/-- The items of a list that is not indented. -/
def looseItems? : (fuel : Nat) → Reader → Option (List Node × Reader)
  | 0, _ => none
  | fuel + 1, r =>
    match r.head with
    | some .item => do
      let (v, r) ← nodeUnless? fuel [.item, .key, .value, .blockEnd] true false r.skip
      let (vs, r) ← looseItems? fuel r
      return (v :: vs, r)
    | _ => some ([], r)

/-- The entries of an indented table. -/
def blockPairs? : (fuel : Nat) → Reader → Option (List (Node × Node) × Reader)
  | 0, _ => none
  | fuel + 1, r =>
    match r.head with
    | some .key => do
      let ends := [Token.key, .value, .blockEnd]
      let (k, r) ← nodeUnless? fuel ends true true r.skip
      let (v, r) ←
        if r.head = some .value then nodeUnless? fuel ends true true r.skip else some (Node.empty, r)
      let (es, r) ← blockPairs? fuel r
      return ((k, v) :: es, r)
    | some .blockEnd => some ([], r.skip)
    | _ => none

/-- The items of a list in brackets. -/
def flowItems? : (fuel : Nat) → (first : Bool) → Reader → Option (List Node × Reader)
  | 0, _, _ => none
  | fuel + 1, first, r =>
    if r.head = some .listClose then some ([], r.skip)
    else if !first && r.head != some .comma then none
    else do
      let r := if first then r else r.skip
      if r.head = some .listClose then return ([], r.skip)
      let (v, r) ←
        if r.head = some .key then (flowPair? fuel .listClose r).map fun (e, r) => (.table {} [e], r)
        else node? fuel false false r
      let (vs, r) ← flowItems? fuel false r
      return (v :: vs, r)

/-- An entry with a key mark in brackets or braces. Where the key is missing in brackets, the token in its place
is passed over. -/
def flowPair? : (fuel : Nat) → (close : Token) → Reader → Option ((Node × Node) × Reader)
  | 0, _, _ => none
  | fuel + 1, close, r => do
    let r := r.skip
    let ends := [Token.value, .comma, close]
    let (k, r) ←
      if close = .listClose && r.at? ends then some (Node.empty, r.skip)
      else nodeUnless? fuel ends false false r
    let (v, r) ←
      if r.head = some .value then nodeUnless? fuel [.comma, close] false false r.skip else some (Node.empty, r)
    return ((k, v), r)

/-- The entries of a table in braces. -/
def flowPairs? : (fuel : Nat) → (first : Bool) → Reader → Option (List (Node × Node) × Reader)
  | 0, _, _ => none
  | fuel + 1, first, r =>
    if r.head = some .tableClose then some ([], r.skip)
    else if !first && r.head != some .comma then none
    else do
      let r := if first then r else r.skip
      if r.head = some .tableClose then return ([], r.skip)
      let (e, r) ←
        if r.head = some .key then flowPair? fuel .tableClose r
        else (node? fuel false false r).map fun (k, r) => ((k, Node.empty), r)
      let (es, r) ← flowPairs? fuel false r
      return (e :: es, r)

end

/-- Whether only marks that end a document are left. -/
def isFinished (r : Reader) : Bool :=
  r.tokens.all (· == .documentEnd)

/-- The handles that are known without a directive. -/
def standardHandles : List (Text × Text) :=
  [(['!'], ['!']), (['!', '!'], "tag:yaml.org,2002:".toList)]

/-- Reads the directives before a document: at most one version, which has to be known, and each handle at most
once. -/
def directives? : (versioned : Bool) → Reader → List Token → Option Reader
  | versioned, r, .version major minor :: rest =>
    if versioned || major != 1 || (minor != 1 && minor != 2) then none else directives? true r rest
  | versioned, r, .handle name expansion :: rest =>
    if r.handles.any (·.1 == name) then none
    else directives? versioned { r with handles := r.handles ++ [(name, expansion)] } rest
  | _, r, rest => some { r with tokens := rest, handles := r.handles ++ standardHandles }

/-- The root of the document of a text. A text without a document gives an empty node. -/
def root? (text : Text) : Option Node := do
  let tokens ← tokens? text
  let r ← directives? false { tokens } tokens
  if r.head = some .documentStart then
    let r := r.skip
    let ends := r.head.all fun
      | .version _ _ | .handle _ _ | .documentStart | .documentEnd => true
      | _ => false
    let (n, r) ← if ends then some (Node.empty, r) else node? (3 * tokens.length + 3) true false r
    if isFinished r then return n else none
  else if r.tokens.length != tokens.length then none
  else if tokens = [] then return .empty
  else
    let (n, r) ← node? (3 * tokens.length + 3) true false r
    if isFinished r then return n else none

/-- Reads a text against a shape. -/
def read (shape : Shape) (text : Text) : Option Value :=
  (root? text).bind fun n => (Document.ofRoot n).value? shape

end Cleave.Yaml
