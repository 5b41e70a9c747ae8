import Cleave.Profile.Builtin

/-!
# Choosing a profile

The profile of a run is the one asked for, else the default of the project, else the built-in default. A profile
of the project takes the place of a built-in one with its name.
-/

namespace Cleave

/-- A profile name that nothing provides. -/
structure UnknownProfile where
  name : String
  available : List String
  deriving DecidableEq, Repr

/-- The wording, with the names that can be asked for. -/
def UnknownProfile.message (e : UnknownProfile) : Text :=
  "Unknown profile '".toList ++ e.name.toList ++ "' (available: ".toList ++
    Text.join ", ".toList (e.available.map String.toList) ++ ")".toList

namespace Project

/-- Every profile that can be asked for. -/
def available (p : Project) : Dictionary Profile :=
  p.profiles.entries.foldl (fun d e => d.insert e.1 e.2) Profile.builtins

/-- The names of all profiles, in ascending order. -/
def profileNames (p : Project) : List String :=
  p.available.keys

/-- The name of the profile that is used for a request. -/
def selectedName (p : Project) (requested : Option String) : String :=
  (requested.or p.defaultProfile).getD Profile.defaultName

/-- The profile that is used for a request, with its name. -/
def select (p : Project) (requested : Option String) : Except UnknownProfile (String × Profile) :=
  let name := p.selectedName requested
  match (p.profiles.get? name).or (Profile.builtins.get? name) with
  | some profile => .ok (name, profile)
  | none => .error { name, available := p.profileNames }

/-- The project that a starter file describes: every built-in profile. -/
def starter : Project where
  defaultProfile := some Profile.defaultName
  profiles := Profile.builtins

end Project

end Cleave
