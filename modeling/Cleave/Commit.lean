import Cleave.Disk.World
import Cleave.Document

/-!
# Commits

A commit writes the files of a plan. The source is backed up and the backup is compared with it; then the
files of the groups are written, and the source is replaced last. Every file is written beside its place and
then moved there, so a failure never leaves half of a file in its place.
-/

namespace Cleave

/-- Why files cannot be written. -/
inductive WriteError
  | backup (path : Path) (cause : DiskError)
  | backupMismatch (path : Path)
  | backupExists (path : Path)
  | missingBackup (path : Path)
  | createDir (path : Path) (cause : DiskError)
  | write (path : Path) (cause : DiskError)
  | collision (path target : Path)
  | resolve (path : Path) (cause : DiskError)
  deriving DecidableEq, Repr

namespace WriteError

/-- The wording of a write error. -/
def message : WriteError → Text
  | backup path cause => "Failed to back up ".toList ++ path.text ++ ": ".toList ++ cause.message
  | backupMismatch path => "Backup ".toList ++ path.text ++ " does not match the original".toList
  | backupExists path =>
    "Backup ".toList ++ path.text ++
      " already exists and differs from the original (use --force to replace it)".toList
  | missingBackup path => "No backup found at ".toList ++ path.text
  | createDir path cause =>
    "Failed to create directory ".toList ++ path.text ++ ": ".toList ++ cause.message
  | write path cause => "Failed to write ".toList ++ path.text ++ ": ".toList ++ cause.message
  | collision path target =>
    "Generated file ".toList ++ path.text ++ " would overwrite ".toList ++ target.text
  | resolve path cause => "Failed to resolve ".toList ++ path.text ++ ": ".toList ++ cause.message

/-- The disk error behind a write error. -/
def cause? : WriteError → Option DiskError
  | backup _ cause => some cause
  | createDir _ cause => some cause
  | write _ cause => some cause
  | resolve _ cause => some cause
  | _ => none

/-- The wordings of the error and of what caused it. -/
def chain (e : WriteError) : List Text :=
  e.message :: (e.cause?.map DiskError.message).toList

end WriteError

/-- A commit that failed, with the files that had been written. -/
structure CommitError where
  error : WriteError
  written : List Path
  deriving DecidableEq, Repr

namespace CommitError

/-- The wording of a commit error. -/
def message (e : CommitError) : Text :=
  "Partition aborted; already written: [".toList ++ Text.join ", ".toList (e.written.map Path.text) ++
    "]".toList

/-- The wordings of the error and of what caused it. -/
def chain (e : CommitError) : List Text :=
  e.message :: e.error.chain

end CommitError

/-- What a commit has written. -/
structure CommitReport where
  backup : Path
  /-- The files of the groups, in order. -/
  written : List Path
  root : Path
  deriving DecidableEq, Repr

namespace Commit

/-- Where the backup of a file is kept. -/
def backupPath (source : Path) : Path :=
  source.append ".backup"

/-- Where a file is written before it is moved to its place. -/
def tempPath (p : Path) : Path :=
  p.append ".tmp"

/-- Where a generated file goes. -/
def target (outDir : Path) (f : GeneratedFile) : Path :=
  outDir.join f.path

/-- The location that a path denotes. -/
def resolve (cwd : Location) (p : Path) : Except WriteError Location :=
  match p.resolve? cwd with
  | some l => .ok l
  | none => .error (.resolve p .emptyPath)

/-- Checks files one after the other against the source, its backup, and the targets before. -/
def checkFrom (cwd : Location) (source outDir : Path) (sourceAt backupAt : Location) :
    (seen : List Location) → List GeneratedFile → Except WriteError Unit
  | _, [] => .ok ()
  | seen, f :: fs => do
    let path := target outDir f
    let place ← resolve cwd path
    if place = sourceAt then throw (.collision path source)
    else if place = backupAt then throw (.collision path (backupPath source))
    else if place ∈ seen then throw (.collision path (.ofLocation place))
    else checkFrom cwd source outDir sourceAt backupAt (seen ++ [place]) fs

/-- Refuses files that would land on the source, on its backup, or on each other. -/
def checkDistinct (cwd : Location) (source outDir : Path) (files : List GeneratedFile) :
    Except WriteError Unit := do
  let sourceAt ← resolve cwd source
  let backupAt ← resolve cwd (backupPath source)
  checkFrom cwd source outDir sourceAt backupAt [] files

open Effect

/-- Makes the directory that a file goes into. -/
def ensureParent (p : Path) : Effect WriteError Unit :=
  match p.parent? with
  | none => pure ()
  | some parent =>
    if parent.text = [] then pure () else adapt (.createDir parent) (ensureDirs parent.ancestors)

/-- Writes a file beside its place and moves it there. If that fails, what was written is removed. -/
def replaceFile (p : Path) (content : Bytes) : Effect WriteError Unit := do
  ensureParent p
  match ← result (writeFile (tempPath p) content) with
  | .error e =>
    let _ ← result (removeFile (tempPath p))
    throw (.write (tempPath p) e)
  | .ok _ =>
    match ← result (rename (tempPath p) p) with
    | .error e =>
      let _ ← result (removeFile (tempPath p))
      throw (.write p e)
    | .ok _ => return

/-- Copies the source to its backup and compares the copy. A backup that is there already is kept if it has
the same content, and else only replaced if `force` says so. -/
def saveBackup (force : Bool) (source : Path) : Effect WriteError Path := do
  let path := backupPath source
  let bytes ← adapt (.backup source) (readFile source)
  if ← present path then
    let old ← adapt (.backup path) (readFile path)
    if old = bytes then return path
    if !force then throw (.backupExists path)
  adapt (.backup path) (copyFile source path)
  let copied ← adapt (.backup path) (readFile path)
  if copied = bytes then return path else throw (.backupMismatch path)

/-- Writes files one after the other. -/
def writeAll (outDir : Path) : (written : List Path) → List GeneratedFile → Effect CommitError (List Path)
  | written, [] => pure written
  | written, f :: fs => do
    adapt (CommitError.mk · written) (replaceFile (target outDir f) (Utf8.encode f.content))
    writeAll outDir (written ++ [target outDir f]) fs

/-- Backs up the source, writes the files, and replaces the source. -/
def perform (force : Bool) (source outDir : Path) (files : List GeneratedFile) (root : Text) :
    Effect CommitError CommitReport := do
  adapt (CommitError.mk · []) (inspect fun w => checkDistinct w.cwd source outDir files)
  let backup ← adapt (CommitError.mk · []) (saveBackup force source)
  let written ← writeAll outDir [] files
  adapt (CommitError.mk · written) (replaceFile source (Utf8.encode root))
  return { backup, written, root := source }

/-- Puts the backup in the place of the source. The backup stays. -/
def restore (source : Path) : Effect WriteError Path := do
  let path := backupPath source
  if !(← isFile path) then throw (.missingBackup path)
  let bytes ← adapt (.backup path) (readFile path)
  replaceFile source bytes
  return path

end Commit

end Cleave
