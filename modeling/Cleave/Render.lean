import Cleave.Document
import Cleave.Domain.Key
import Cleave.Imports.Set
import Cleave.Pattern.Basic

/-!
# Rendering

Group files and the new root are made from templates. The text of a declaration is only touched by the
one substitution and, in a wrapped group, by the change to member form and by indentation.
-/

namespace Cleave

/-- Replaces every match of a pattern. -/
structure Substitution where
  pattern : Pattern
  replacement : Text

/-- Why a substitution is not accepted. -/
structure SubstitutionError where
  pattern : Text
  why : Text
  deriving Repr

/-- The wording of a substitution error. -/
def SubstitutionError.message (e : SubstitutionError) : Text :=
  "Invalid substitution pattern '".toList ++ e.pattern ++ "': ".toList ++ e.why

namespace Substitution

/-- Reads a substitution. -/
def compileWith (read : Pattern.Reader) (pattern replacement : Text) : Except SubstitutionError Substitution :=
  match read false pattern with
  | .error why => .error { pattern, why }
  | .ok p => .ok { pattern := p, replacement }

/-- Reads a substitution with the reader of patterns. -/
def compile (pattern replacement : Text) : Except SubstitutionError Substitution :=
  compileWith Pattern.read pattern replacement

/-- Applies a substitution. -/
def apply (s : Substitution) (text : Text) : Text :=
  s.pattern.replaceAll s.replacement text

end Substitution

/-- Wraps the declarations of a group in one declaration. -/
structure Wrapper where
  /-- The opening line, a template. -/
  opening : Text
  closing : Text
  /-- The start of a declaration that member form replaces. -/
  memberFrom : Option Text
  /-- What replaces it. -/
  memberTo : Text
  indent : Text
  deriving DecidableEq, Repr

/-- Templates of import lines. -/
structure ImportTemplates where
  named : Text := "import \x7b \x7bnames\x7d \x7d from \"\x7bmodule\x7d\";".toList
  namespaced : Text := "import * as \x7bname\x7d from \"\x7bmodule\x7d\";".toList
  /-- Template of the root's lines; without it the one for names is used. -/
  root : Option Text := none
  deriving DecidableEq, Repr

/-- How files are rendered. -/
structure Renderer where
  extension : Text := "ts".toList
  /-- Template of the comment at the top of a group file. -/
  header : Text := "/**\n * \x7bDomain\x7d\n * Auto-generated from \x7bsource\x7d\n */".toList
  /-- Put before declarations that do not start with it. -/
  exportMark : Option Text := none
  substitution : Option Substitution := none
  wrapper : Option Wrapper := none
  /-- Template of the public name of a wrapped group. -/
  handle : Text := "\x7bdomain\x7d".toList
  imports : ImportTemplates := {}
  rootBanner : Option Text := none

/-- Fills a place in a template. -/
def fillPlace (place : String) (value template : Text) : Text :=
  Text.replace ('\x7b' :: place.toList ++ ['\x7d']) value template

/-- Fills the places for a domain. -/
def fillKey (key : DomainKey) (template : Text) : Text :=
  fillPlace "domain" key.text (fillPlace "Domain" key.title template)

/-- A line of the root that brings in a group. -/
structure RootImport where
  names : List Text
  module : Text
  deriving DecidableEq, Repr

/-- What the root is made from. -/
structure RootParts where
  preamble : Text := []
  imports : List RootImport := []
  /-- Text that was not extracted, in source order. -/
  retained : List Text := []
  aggregator : Option Text := none
  trailing : Text := []

namespace Wrapper

/-- Changes a declaration to member form, if it starts as expected. -/
def member (w : Wrapper) (text : Text) : Text :=
  match w.memberFrom.bind (Text.dropStart? · text) with
  | some rest => w.memberTo ++ rest
  | none => text

end Wrapper

namespace Renderer

/-- The file name of a group. -/
def fileName (r : Renderer) (key : DomainKey) : Path :=
  ⟨key.text ++ '.' :: r.extension⟩

/-- The public name of a wrapped group. -/
def handleOf (r : Renderer) (key : DomainKey) : Text :=
  fillKey key r.handle

/-- The names that the root imports from a group with the given declarations. -/
def publicNames (r : Renderer) (key : DomainKey) (spans : List Span) : List Text :=
  match r.wrapper with
  | some _ => [r.handleOf key]
  | none => spans.map Span.name

/-- Fills the places of a group template. -/
def fill (r : Renderer) (key : DomainKey) (source template : Text) : Text :=
  fillPlace "source" source (fillPlace "Handle" (r.handleOf key) (fillKey key template))

/-- Applies the substitution, if there is one. -/
def substitute (r : Renderer) (text : Text) : Text :=
  match r.substitution with
  | some s => s.apply text
  | none => text

/-- The import lines of one module: one per namespace, then one for all names. -/
def moduleLines (r : Renderer) (m : ModuleImports) : List Text :=
  (m.namespaces.map fun name => fillPlace "module" m.module (fillPlace "name" name r.imports.namespaced)) ++
    if m.named = [] then []
    else [fillPlace "module" m.module (fillPlace "names" (Text.join ", ".toList m.named) r.imports.named)]

/-- The import lines of a group, in order of modules. -/
def importLines (r : Renderer) (imports : ImportSet) : List Text :=
  imports.modules.flatMap r.moduleLines

/-- The export mark that a declaration lacks: the configured one, unless the declaration starts with it. -/
def missingMark (r : Renderer) (text : Text) : Text :=
  match r.exportMark with
  | some mark => if mark.isPrefixOf text then [] else mark
  | none => []

/-- The text of one declaration in its group file. -/
def declarationText (r : Renderer) (span : Span) : Text :=
  let text := r.substitute span.text
  match r.wrapper with
  | none => r.missingMark text ++ Text.terminated text
  | some w => Text.terminated (Text.indented w.indent (w.member text))

/-- The declarations of a group with an empty line between neighbours. -/
def body (r : Renderer) (spans : List Span) : Text :=
  Text.join ['\n'] (spans.map r.declarationText)

/-- The import block at the top of a group file, followed by an empty line unless it is empty. -/
def importBlock (r : Renderer) (imports : ImportSet) : Text :=
  let lines := r.importLines imports
  (lines.flatMap fun line => line ++ ['\n']) ++ if lines = [] then [] else ['\n']

/-- The content of a group file. -/
def groupContent (r : Renderer) (key : DomainKey) (spans : List Span) (imports : ImportSet) (source : Text) :
    Text :=
  let top := r.importBlock imports ++ r.fill key source r.header ++ ['\n']
  match r.wrapper with
  | none => top ++ r.body spans
  | some w =>
    top ++ r.fill key source w.opening ++ ['\n'] ++ r.body spans ++ w.closing ++ ['\n']

/-- Renders a group into a file of its own. -/
def group (r : Renderer) (key : DomainKey) (spans : List Span) (imports : ImportSet) (source : Text) :
    GeneratedFile :=
  { path := r.fileName key, content := r.groupContent key spans imports source }

/-- A line of the root that brings in a group. -/
def rootLine (r : Renderer) (i : RootImport) : Text :=
  fillPlace "module" i.module
    (fillPlace "names" (Text.join ", ".toList i.names) (r.imports.root.getD r.imports.named))

/-- The line feed that separates the preamble from what follows, where it is needed. -/
def separator (preamble : Text) : Text :=
  if preamble = [] || ['\n', '\n'].isSuffixOf preamble then [] else ['\n']

/-- The block of the root that brings in the groups: a separator after the preamble, the banner, and a line
for each group. -/
def rootBlock (r : Renderer) (preamble : Text) (imports : List RootImport) : Text :=
  if imports = [] then []
  else
    separator preamble ++ (r.rootBanner.map (· ++ ['\n'])).getD [] ++
      imports.flatMap fun i => r.rootLine i ++ ['\n']

/-- A retained piece of text in the root: after an empty line, without line terminators around it. A blank
piece is left out. -/
def chunk (text : Text) : Text :=
  let text := Text.trimOf Text.isTerminator text
  if Text.isBlank text then [] else '\n' :: text ++ ['\n']

/-- Renders the root. -/
def root (r : Renderer) (parts : RootParts) : Text :=
  let preamble := if parts.preamble = [] then [] else Text.terminated parts.preamble
  preamble ++ r.rootBlock preamble parts.imports ++ parts.retained.flatMap chunk ++
    (parts.aggregator.map ('\n' :: ·)).getD [] ++ parts.trailing

end Renderer

end Cleave
