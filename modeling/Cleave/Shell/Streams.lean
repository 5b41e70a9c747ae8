import Cleave.Shell.Expansion

/-!
# Redirections

A redirection makes a stream of a command lead to a file, to a text, to where another stream leads, or nowhere.
-/

namespace Cleave.Shell

/-- The wording of a file that cannot be opened. -/
def cannot (what : String) (file : Text) (e : DiskError) : Text :=
  "cannot ".toList ++ what.toList ++ " ".toList ++ file ++ ": ".toList ++
    if e = .notFound then (if what = "open" then "No such file" else "Directory nonexistent").toList
    else shortMessage e

/-- The stream that a path names. -/
def namedStream? (p : Text) : Option Nat :=
  match String.ofList p with
  | "/dev/stdin" => some 0
  | "/dev/stdout" => some 1
  | "/dev/stderr" => some 2
  | _ => (Text.dropStart? "/dev/fd/".toList p).bind Pattern.number?

/-- Makes a stream lead to where another one does. The result tells whether that one is open. -/
def duplicate (s : State) (stream other : Nat) : State × Bool :=
  match s.streams.lookup other with
  | some target => (s.connect stream target, true)
  | none => (s.complain 2 (Text.ofNat other ++ ": Bad file descriptor".toList), false)

/-- Makes a stream lead to a file, which is made if it is missing. -/
def openFile (s : State) (stream : Nat) (name : Text) (truncate : Bool) : State × Bool :=
  match namedStream? name with
  | some other => duplicate s stream other
  | none =>
    let p : Path := ⟨name⟩
    match s.world.disk.filePlace Disk.maxLinks s.world.cwd p with
    | .error e => (s.complain 2 (cannot "create" name e), false)
    | .ok l =>
      let old := if truncate then [] else (s.world.disk.read s.world.cwd p).toOption.getD []
      match (Effect.writeFile p old).run s.world with
      | (.ok _, world) => ({ s with world }.connect stream (.file l), true)
      | (.error e, world) => ({ s with world }.complain 2 (cannot "create" name e), false)

/-- Sets up one redirection. The result tells whether that succeeded. -/
def openStream (g : Setting) (s : State) : Redirection → State × Bool
  | .input stream w =>
    let (s, name) := s.textOf g w
    match namedStream? name with
    | some other => duplicate s stream other
    | none =>
      match s.world.disk.read s.world.cwd ⟨name⟩ with
      | .ok bytes => (s.feed stream bytes, true)
      | .error .isDirectory => (s.feed stream [], true)
      | .error e => (s.complain 2 (cannot "open" name e), false)
  | .here stream w =>
    let (s, t) := s.textOf g w
    (s.feed stream (Utf8.encode t), true)
  | .write stream w =>
    let (s, name) := s.textOf g w
    openFile s stream name true
  | .append stream w =>
    let (s, name) := s.textOf g w
    openFile s stream name false
  | .same stream (some other) => duplicate s stream other
  | .same stream none => (s.disconnect stream, true)

/-- Sets up redirections one after the other, until one fails. -/
def openStreams (g : Setting) (s : State) : List Redirection → State × Bool
  | [] => (s, true)
  | r :: rs =>
    match openStream g s r with
    | (s, true) => if s.ended then (s, false) else openStreams g s rs
    | (s, false) => (s, false)

/-- Runs something with redirections. -/
def redirected (g : Setting) (s : State) (rs : List Redirection) (body : State → State) : State :=
  let (opened, ready) := openStreams g s rs
  { (if ready then body opened else opened) with streams := s.streams }

end Cleave.Shell
