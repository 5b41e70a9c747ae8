import Cleave.Shell.Filters

/-!
# Programs on files

Programs that make, move, remove, list and compare files.
-/

namespace Cleave.Shell

open Effect

/-- What a path leads to, if anything. -/
def nodeAt? (w : World) (p : Text) : Option Node :=
  (w.disk.stat w.cwd ⟨p⟩).toOption

/-- Whether a path leads to a directory. -/
def isDirectory (w : World) (p : Text) : Bool :=
  nodeAt? w p == some .dir

/-- The place of the last part of a path, where a link is not followed. -/
def placeOf (w : World) (p : Text) : Except DiskError Location := do
  match ← w.disk.holder w.cwd ⟨p⟩ with
  | (dir, .name t _) => return dir ++ [t]
  | (_, .special) => w.disk.place w.cwd ⟨p⟩

/-- What stands in the place of a path, where a link is not followed. -/
def itemAt? (w : World) (p : Text) : Option Node :=
  (placeOf w p).toOption.bind w.disk.get?

/-- The names in a directory, in order. -/
def allNamesIn (w : World) (dir : Text) : List Text :=
  match w.disk.place w.cwd ⟨dir⟩ with
  | .error _ => []
  | .ok l =>
    let names := w.disk.nodes.filterMap fun e => if e.1 != [] && e.1.dropLast = l then e.1.getLast? else none
    names.mergeSort fun a b => !(decide (b < a))

/-- Whether a name starts with a dot, so that it is not shown. -/
def isHidden (name : Text) : Bool :=
  name.head? = some '.'

/-- Makes files that are missing. -/
def touch : Program := fun w args _ =>
  let o := Options.of "drt" args
  if o.rest = [] then .misused w 1 "touch" "missing file operand".toList
  else
    forEach w o.rest fun w arg =>
      if (nodeAt? w arg).isSome || o.has 'c' then { world := w }
      else perform "touch" w ("cannot touch ".toList ++ inQuotes arg) (writeFile ⟨arg⟩ [])

/-- Removes whatever is in a place, with all below it. -/
def removeTree (p : Text) : Effect DiskError Unit :=
  change fun w => do
    let l ← placeOf w p
    match w.disk.get? l with
    | none => throw .notFound
    | some _ => return w.disk.eraseTree l

/-- Removes files, and directories if asked. -/
def rm : Program := fun w args _ =>
  let o := Options.of "" args [("recursive", 'r'), ("force", 'f')]
  if o.rest = [] && !o.has 'f' then .misused w 1 "rm" "missing operand".toList
  else
    forEach w o.rest fun w arg =>
      if o.has 'f' && (itemAt? w arg).isNone then .withStatus w 0
      else
        let remove := if o.has 'r' || o.has 'R' then removeTree arg else removeFile ⟨arg⟩
        perform "rm" w ("cannot remove ".toList ++ inQuotes arg) remove

/-- Removes empty directories. -/
def rmdir : Program := fun w args _ =>
  forEach w (Options.of "" args).rest fun w arg =>
    let what := "failed to remove ".toList ++ inQuotes arg
    if isDirectory w arg && allNamesIn w arg != [] then
      .complained w 1 ("rmdir: ".toList ++ what ++ ": Directory not empty".toList)
    else if (nodeAt? w arg).isSome && !isDirectory w arg then
      .complained w 1 ("rmdir: ".toList ++ what ++ ": Not a directory".toList)
    else perform "rmdir" w what (removeTree arg)

/-- Makes directories. -/
def mkdir : Program := fun w args _ =>
  let o := Options.of "m" args [("parents", 'p'), ("mode", 'm')]
  if o.rest = [] then .misused w 1 "mkdir" "missing operand".toList
  else
    forEach w o.rest fun w arg =>
      let make := if o.has 'p' then ensureDirs (Path.mk arg).ancestors else makeDir ⟨arg⟩
      perform "mkdir" w ("cannot create directory ".toList ++ inQuotes arg) make

/-- Where a file goes that is copied or moved to a path: into it, if it is a directory. -/
def destination (w : World) (source target : Text) : Text :=
  if isDirectory w target then ((Path.mk target).join ⟨baseName source⟩).text else target

/-- The places in a tree under a new root. -/
def relocated (d : Disk) (source target : Location) : List (Location × Node) :=
  d.nodes.filterMap fun (l, n) =>
    if source.isPrefixOf l then some (target ++ l.drop source.length, n) else none

/-- Copies a directory with all below it. -/
def copyTree (source target : Text) : Effect DiskError Unit :=
  change fun w => do
    let l ← w.disk.place w.cwd ⟨source⟩
    let l' ← w.disk.place w.cwd ⟨target⟩
    return (relocated w.disk l l').foldl (fun d (l, n) => d.set l n) w.disk

/-- Moves a file or a directory. -/
def moveTree (source target : Text) : Effect DiskError Unit :=
  change fun w => do
    if isDirectory w source then
      let l ← placeOf w source
      let l' ← placeOf w target
      let moved := (relocated w.disk l l').foldl (fun d (l, n) => d.set l n) (w.disk.eraseTree l)
      let renamed := w.disk.shared.map fun e => if l.isPrefixOf e.1 then (l' ++ e.1.drop l.length, e.2) else e
      return { moved with shared := renamed }
    else w.disk.rename w.cwd ⟨source⟩ ⟨target⟩

/-- Runs an action on sources and a target, which must be a directory if there are several sources. -/
def toTarget (name : String) (w : World) (args : List Text) (act : World → Text → Text → Ended) : Ended :=
  match args with
  | [] => .misused w 1 name "missing file operand".toList
  | [a] => .misused w 1 name ("missing destination file operand after ".toList ++ inQuotes a)
  | args =>
    let target := args.getLast?.getD []
    let sources := args.dropLast
    if 1 < sources.length && !isDirectory w target then
      .complained w 1 (name.toList ++ ": target ".toList ++ inQuotes target ++ ": No such file or directory".toList)
    else forEach w sources fun w source => act w source (destination w source target)

/-- Copies files, and directories if asked. -/
def cp : Program := fun w args _ =>
  let o := Options.of "" args [("recursive", 'r'), ("archive", 'a'), ("no-clobber", 'n')]
  let deep := o.has 'r' || o.has 'R' || o.has 'a'
  toTarget "cp" w o.rest fun w source target =>
    match nodeAt? w source with
    | none => .complained w 1 ("cp: cannot stat ".toList ++ inQuotes source ++ ": No such file or directory".toList)
    | some .dir =>
      if deep then perform "cp" w ("cannot copy ".toList ++ inQuotes source) (copyTree source target)
      else .complained w 1 ("cp: -r not specified; omitting directory ".toList ++ inQuotes source)
    | some .nullDevice =>
      perform "cp" w ("cannot create regular file ".toList ++ inQuotes target) (writeFile ⟨target⟩ [])
    | some _ =>
      if o.has 'n' && (nodeAt? w target).isSome then .withStatus w 0
      else perform "cp" w ("cannot create regular file ".toList ++ inQuotes target) (copyFile ⟨source⟩ ⟨target⟩)

/-- Moves files and directories. -/
def mv : Program := fun w args _ =>
  let o := Options.of "" args [("no-clobber", 'n')]
  toTarget "mv" w o.rest fun w source target =>
    if (itemAt? w source).isNone then
      .complained w 1 ("mv: cannot stat ".toList ++ inQuotes source ++ ": No such file or directory".toList)
    else if o.has 'n' && (nodeAt? w target).isSome then .withStatus w 0
    else perform "mv" w ("cannot move ".toList ++ inQuotes source ++ " to ".toList ++ inQuotes target)
      (moveTree source target)

/-- Makes links. -/
def ln : Program := fun w args _ =>
  let o := Options.of "" args [("symbolic", 's'), ("force", 'f')]
  match o.rest with
  | [source, target] =>
    let target := destination w source target
    let make : Effect DiskError Unit := change fun w => do
      let l ← placeOf w target
      if (w.disk.get? l).isSome && !o.has 'f' then throw .alreadyExists
      if o.has 's' then return w.disk.set l (.link ⟨source⟩)
      let original ← placeOf w source
      match w.disk.get? original with
      | some (.file content) =>
        if w.disk.sameFile original l then throw .alreadyExists
        return w.disk.addName original l (.file content)
      | some .dir => throw .permissionDenied
      | some n => return w.disk.set l n
      | none => throw .notFound
    perform "ln" w ("failed to create symbolic link ".toList ++ inQuotes target) make
  | _ => .misused w 1 "ln" "missing file operand".toList

/-- Prints where a link leads. -/
def readlink : Program := fun w args _ =>
  let o := Options.of "" args
  forEach w o.rest fun w arg =>
    if o.has 'f' || o.has 'e' then
      match w.disk.place w.cwd ⟨arg⟩ with
      | .ok l => .printed w ((Path.ofLocation l).text ++ ['\n'])
      | .error _ => .withStatus w 1
    else
      match itemAt? w arg with
      | some (.link target) => .printed w (target.text ++ ['\n'])
      | _ => .withStatus w 1

/-- Prints the absolute form of paths. -/
def realpath : Program := fun w args _ =>
  forEach w (Options.of "" args).rest fun w arg =>
    match w.disk.place w.cwd ⟨arg⟩ with
    | .ok l => .printed w ((Path.ofLocation l).text ++ ['\n'])
    | .error e => .complained w 1 ("realpath: ".toList ++ arg ++ ": ".toList ++ shortMessage e)

/-- Prints the names in directories. -/
def ls : Program := fun w args _ =>
  let o := Options.of "" args [("all", 'a'), ("almost-all", 'A'), ("directory", 'd'), ("reverse", 'r')]
  let files := if o.rest = [] then [['.']] else o.rest
  let listed (dir : Text) : List Text :=
    let names := allNamesIn w dir
    let names := if o.has 'a' then ['.'] :: "..".toList :: names
      else if o.has 'A' then names else names.filter (!isHidden ·)
    if o.has 'r' then names.reverse else names
  let missing := files.filter fun p => (itemAt? w p).isNone
  let plain := files.filter fun p => (itemAt? w p).isSome && (o.has 'd' || !isDirectory w p)
  let dirs := files.filter fun p => !o.has 'd' && isDirectory w p
  let sorted (ps : List Text) : List Text := ps.mergeSort fun a b => !(decide (b < a))
  let headed := 1 < files.length
  let blocks := (if plain = [] then [] else [(sorted plain).flatMap (· ++ ['\n'])]) ++
    (sorted dirs).map fun dir =>
      (if headed then dir ++ ":\n".toList else []) ++ (listed dir).flatMap (· ++ ['\n'])
  let complaints := missing.flatMap fun p =>
    "ls: cannot access ".toList ++ inQuotes p ++ ": No such file or directory\n".toList
  { world := w, status := if missing = [] then 0 else 2
    output := Utf8.encode (Text.join ['\n'] blocks), errors := Utf8.encode complaints }

/-- A condition of `find`. -/
inductive Criterion
  | name (pattern : List Mark)
  | path (pattern : List Mark)
  | kind (c : Char)
  | empty
  | negated (c : Criterion)

/-- Whether a path satisfies a condition. -/
def Criterion.holds (w : World) (p : Text) : Criterion → Bool
  | name pattern => matchesPattern pattern (baseName p)
  | path pattern => matchesPattern pattern p
  | kind c =>
    match itemAt? w p, c with
    | some (.file _), 'f' => true
    | some .dir, 'd' => true
    | some (.link _), 'l' => true
    | _, _ => false
  | empty =>
    match itemAt? w p with
    | some (.file content) => content = []
    | some .dir => allNamesIn w p = []
    | _ => false
  | negated c => !c.holds w p

/-- What `find` looks for, and how deep. -/
structure Quest where
  criteria : List Criterion := []
  least : Nat := 0
  most : Option Nat := none
  delete : Bool := false

/-- Reads the conditions of `find`. -/
def quest? : (fuel : Nat) → Quest → List Text → Option Quest
  | 0, _, _ => none
  | _, q, [] => some q
  | fuel + 1, q, arg :: args =>
    let active (t : Text) : List Mark := t.map (·, true)
    let more (c : Criterion) (args : List Text) : Option Quest :=
      quest? fuel { q with criteria := q.criteria ++ [c] } args
    match String.ofList arg, args with
    | "-name", t :: args => more (.name (active t)) args
    | "-path", t :: args => more (.path (active t)) args
    | "-type", [c] :: args => more (.kind c) args
    | "-empty", args => more .empty args
    | "-maxdepth", n :: args => (Pattern.number? n).bind fun n => quest? fuel { q with most := some n } args
    | "-mindepth", n :: args => (Pattern.number? n).bind fun n => quest? fuel { q with least := n } args
    | "-print", args => quest? fuel q args
    | "-delete", args => quest? fuel { q with delete := true } args
    | "!", args => (quest? fuel {} (args.take 2)).bind fun inner =>
        inner.criteria.head?.bind fun c => more (.negated c) (args.drop 2)
    | _, _ => none

/-- The paths below a path and itself, down to a depth. -/
def treeBelow (w : World) : (depth : Nat) → Text → List (Text × Nat)
  | 0, p => [(p, 0)]
  | depth + 1, p =>
    let below := if itemAt? w p == some .dir then
        (allNamesIn w p).flatMap fun name =>
          treeBelow w depth (if p.getLast? = some '/' then p ++ name else p ++ '/' :: name)
      else []
    (p, 0) :: below.map fun (q, n) => (q, n + 1)

/-- The deepest level that `find` looks at. -/
def maxLevels : Nat := 64

/-- Prints the paths of files that satisfy conditions. -/
def findFiles : Program := fun w args _ =>
  let roots := args.takeWhile fun a => a.head? != some '-' && a != ['!'] && a != ['(']
  match quest? (args.length + 1) {} (args.drop roots.length) with
  | none => .complained w 1 "find: unknown predicate".toList
  | some q =>
    forEach w (if roots = [] then [['.']] else roots) fun w root =>
      if (itemAt? w root).isNone then
        .complained w 1 ("find: ".toList ++ inQuotes root ++ ": No such file or directory".toList)
      else
        let found := (treeBelow w (q.most.getD maxLevels) root).filter fun (p, n) =>
          q.least ≤ n && q.criteria.all fun c => c.holds w p
        if q.delete then
          forEach w (found.reverse.map Prod.fst) fun w p => perform "find" w (inQuotes p) (removeTree p)
        else .printed w (found.flatMap fun (p, _) => p ++ ['\n'])

/-- Compares two files byte by byte. -/
def cmp : Program := fun w args input =>
  let o := Options.of "" args [("quiet", 's'), ("silent", 's')]
  let read (file : Text) : Except Text Bytes := if isInput file then .ok input else contentOf "cmp" w file
  match o.rest with
  | [a, b] =>
    match read a, read b with
    | .ok x, .ok y =>
      let same := ((x.zip y).takeWhile fun (p, q) => p == q).length
      let lines := (x.take same).count 10
      if x = y then .withStatus w 0
      else if o.has 's' then .withStatus w 1
      else if same = x.length || same = y.length then
        let shorter := if same = x.length then a else b
        .complained w 1 ("cmp: EOF on ".toList ++ shorter ++
          (if same = 0 then " which is empty".toList
           else " after byte ".toList ++ Text.ofNat same ++
             if x[same - 1]? = some 10 then ", line ".toList ++ Text.ofNat lines
             else ", in line ".toList ++ Text.ofNat (lines + 1)))
      else
        { Ended.printed w (a ++ ' ' :: b ++ " differ: char ".toList ++ Text.ofNat (same + 1) ++ ", line ".toList ++
            Text.ofNat (lines + 1) ++ ['\n']) with status := 1 }
    | .error t, _ => .complained w 2 t
    | _, .error t => .complained w 2 t
  | _ => .complained w 2 "cmp: missing operand".toList

/-- The row of lengths of longest common parts of `a :: r` and the ends of `ys`, from the row of `r`. -/
def commonRow (a : Text) : List Text → List Nat → List Nat
  | [], row => row
  | y :: ys, row =>
    let rest := commonRow a ys (row.drop 1)
    (if a = y then (row.drop 1).head?.getD 0 + 1 else max (row.head?.getD 0) (rest.head?.getD 0)) :: rest

/-- The rows of lengths for all ends of `xs`. -/
def commonRows (ys : List Text) : List Text → List (List Nat)
  | [] => [List.replicate (ys.length + 1) 0]
  | x :: xs =>
    let rows := commonRows ys xs
    commonRow x ys (rows.head?.getD []) :: rows

/-- A change from one list of lines to another: where it starts in both, the lines that go and those that come. -/
structure Hunk where
  before : Nat
  after : Nat
  gone : List Text := []
  fresh : List Text := []

/-- The changes between two lists of lines. -/
def hunks : (fuel : Nat) → (i j : Nat) → (xs ys : List Text) → (rows : List (List Nat)) → Hunk → List Hunk
  | 0, _, _, _, _, _, h => [h]
  | fuel + 1, i, j, xs, ys, rows, h =>
    let length (rows : List (List Nat)) (j : Nat) : Nat := ((rows.head?.getD [])[j]?).getD 0
    match xs, ys with
    | [], [] => [h]
    | x :: xs, [] => hunks fuel (i + 1) j xs [] (rows.drop 1) { h with gone := h.gone ++ [x] }
    | [], y :: ys => hunks fuel i (j + 1) [] ys rows { h with fresh := h.fresh ++ [y] }
    | x :: xs, y :: ys =>
      if x = y then h :: hunks fuel (i + 1) (j + 1) xs ys (rows.drop 1) ⟨i + 1, j + 1, [], []⟩
      else if length (rows.drop 1) j ≥ length rows (j + 1) then
        hunks fuel (i + 1) j xs (y :: ys) (rows.drop 1) { h with gone := h.gone ++ [x] }
      else hunks fuel i (j + 1) (x :: xs) ys rows { h with fresh := h.fresh ++ [y] }

/-- The wording of a change. -/
def Hunk.render (h : Hunk) : Text :=
  let span (start : Nat) (lines : List Text) : Text :=
    if lines.length ≤ 1 then Text.ofNat (start + lines.length)
    else Text.ofNat (start + 1) ++ ',' :: Text.ofNat (start + lines.length)
  let mark := if h.fresh = [] then 'd' else if h.gone = [] then 'a' else 'c'
  if h.gone = [] && h.fresh = [] then []
  else
    span h.before h.gone ++ mark :: span h.after h.fresh ++ ['\n'] ++
      h.gone.flatMap (fun l => "< ".toList ++ l ++ ['\n']) ++
      (if mark = 'c' then "---\n".toList else []) ++
      h.fresh.flatMap fun l => "> ".toList ++ l ++ ['\n']

/-- Compares two files line by line. -/
def diff : Program := fun w args input =>
  let o := Options.of "" args [("brief", 'q')]
  let read (file : Text) : Except Text Bytes := if isInput file then .ok input else contentOf "diff" w file
  match o.rest with
  | [a, b] =>
    match read a, read b with
    | .ok x, .ok y =>
      if x = y then .withStatus w 0
      else if o.has 'q' then
        { Ended.printed w ("Files ".toList ++ a ++ " and ".toList ++ b ++ " differ\n".toList) with status := 1 }
      else
        let xs := textLines x
        let ys := textLines y
        let found := hunks (xs.length + ys.length + 1) 0 0 xs ys (commonRows ys xs) ⟨0, 0, [], []⟩
        { Ended.printed w (found.flatMap Hunk.render) with status := 1 }
    | .error t, _ => .complained w 2 t
    | _, .error t => .complained w 2 t
  | _ => .complained w 2 "diff: missing operand".toList

end Cleave.Shell
