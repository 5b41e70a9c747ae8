import Cleave.Proofs.Command.Work

/-!
# Listing profiles and looking them up

The names that are listed and the profile that is looked up come from the same two dictionaries by different ways: the
listing inserts the profiles of the project among the built-in ones, the look-up falls back from the first to the
second. Both are told by what each dictionary gives for a name (`get?_available`), so a name is listed exactly if it can
be looked up, and the listing of a session marks the profile of the session and no other
(`listing_agrees_with_lookup`).
-/

namespace Cleave

/-! ## Dictionaries -/

namespace Dictionary

variable {α : Type}

theorem lookup_cons_eq (e : String × α) (es : List (String × α)) (k : String) :
    (e :: es).lookup k = if k = e.1 then some e.2 else es.lookup k := by
  rw [List.lookup_cons]
  by_cases asked : k = e.1
  · simp [asked]
  · rw [beq_false_of_ne asked, if_neg asked]

theorem lookup_insertEntry (key : String) (value : α) (es : List (String × α)) (k : String) :
    (insertEntry key value es).lookup k = if k = key then some value else es.lookup k := by
  induction es with
  | nil => exact lookup_cons_eq (key, value) [] k
  | cons e es ih =>
    rw [insertEntry]
    split
    · exact lookup_cons_eq (key, value) (e :: es) k
    · rw [lookup_cons_eq e es]
      split
      · rename_i same
        rw [lookup_cons_eq, ← same]
        split <;> rfl
      · rename_i other
        rw [lookup_cons_eq, ih]
        by_cases asked : k = key
        · rw [if_pos asked, if_neg (asked ▸ other), if_pos asked]
        · rw [if_neg asked, if_neg asked]

@[simp] theorem get?_insert (d : Dictionary α) (key : String) (value : α) (k : String) :
    (d.insert key value).get? k = if k = key then some value else d.get? k :=
  lookup_insertEntry key value d.entries k

/-- Entries that are inserted one after the other are found before those that were there. -/
theorem get?_foldl_insert (es : List (String × α)) (ascending : es.Pairwise fun x y => x.1 < y.1) (d : Dictionary α)
    (k : String) : (es.foldl (fun d e => d.insert e.1 e.2) d).get? k = (es.lookup k).or (d.get? k) := by
  induction es generalizing d with
  | nil => rfl
  | cons e es ih =>
    obtain ⟨first, rest⟩ := List.pairwise_cons.mp ascending
    rw [List.foldl_cons, ih rest, get?_insert, lookup_cons_eq]
    split
    · rename_i asked
      -- keys ascend, so the key is not inserted once more
      have absent : es.lookup k = none := by
        refine List.lookup_eq_none_iff.mpr fun x member => ?_
        simpa [asked] using String.ne_of_lt (first x member)
      rw [absent]
      rfl
    · rfl

theorem mem_keys_iff (d : Dictionary α) (k : String) : k ∈ d.keys ↔ ∃ value, d.get? k = some value := by
  constructor
  · intro member
    cases found : d.get? k with
    | some value => exact ⟨value, rfl⟩
    | none =>
      obtain ⟨e, inside, same⟩ := List.mem_map.mp member
      have other := List.lookup_eq_none_iff.mp found e inside
      simp [same] at other
  · rintro ⟨value, found⟩
    obtain ⟨before, after, cut, -⟩ := List.lookup_eq_some_iff.mp found
    exact List.mem_map.mpr ⟨(k, value), by simp [cut], rfl⟩

theorem keys_ascending (d : Dictionary α) : d.keys.Pairwise (· < ·) :=
  List.pairwise_map.mpr d.ascending

end Dictionary

/-! ## Profiles -/

namespace Project

variable {p : Project} {requested : Option String} {name : String} {profile : Profile}

/-- A profile of the project takes the place of the built-in one with its name. -/
theorem get?_available (p : Project) (name : String) :
    p.available.get? name = (p.profiles.get? name).or (Profile.builtins.get? name) :=
  Dictionary.get?_foldl_insert p.profiles.entries p.profiles.ascending Profile.builtins name

theorem mem_profileNames_iff :
    name ∈ p.profileNames ↔ name ∈ Profile.builtins.keys ∨ name ∈ p.profiles.keys := by
  rw [profileNames, Dictionary.mem_keys_iff, Dictionary.mem_keys_iff, Dictionary.mem_keys_iff, get?_available]
  cases p.profiles.get? name with
  | none => simp
  | some profile => simp

theorem select_of_available (found : p.available.get? (p.selectedName requested) = some profile) :
    p.select requested = .ok (p.selectedName requested, profile) := by
  rw [get?_available] at found
  rw [select, found]

theorem select_of_unavailable (missing : p.available.get? (p.selectedName requested) = none) :
    p.select requested = .error { name := p.selectedName requested, available := p.profileNames } := by
  rw [get?_available] at missing
  rw [select, missing]

theorem select_eq_ok (found : p.select requested = .ok (name, profile)) :
    name = p.selectedName requested ∧ p.available.get? name = some profile := by
  cases look : p.available.get? (p.selectedName requested) with
  | none => cases (select_of_unavailable look).symm.trans found
  | some other =>
    cases (select_of_available look).symm.trans found
    exact ⟨rfl, look⟩

theorem exists_select_iff :
    (∃ found, p.select requested = .ok found) ↔ p.selectedName requested ∈ p.profileNames := by
  rw [profileNames, Dictionary.mem_keys_iff]
  constructor
  · rintro ⟨⟨name, profile⟩, found⟩
    obtain ⟨rfl, available⟩ := select_eq_ok found
    exact ⟨profile, available⟩
  · rintro ⟨profile, available⟩
    exact ⟨_, select_of_available available⟩

theorem select_eq_error {e : UnknownProfile} (failed : p.select requested = .error e) :
    e = { name := p.selectedName requested, available := p.profileNames } := by
  cases look : p.available.get? (p.selectedName requested) with
  | none =>
    cases (select_of_unavailable look).symm.trans failed
    rfl
  | some profile => cases (select_of_available look).symm.trans failed

theorem select_of_own (found : p.profiles.get? (p.selectedName requested) = some profile) :
    p.select requested = .ok (p.selectedName requested, profile) :=
  select_of_available (by rw [get?_available, found, Option.some_or])

theorem select_of_builtin (missing : p.profiles.get? (p.selectedName requested) = none)
    (found : Profile.builtins.get? (p.selectedName requested) = some profile) :
    p.select requested = .ok (p.selectedName requested, profile) :=
  select_of_available (by rw [get?_available, missing, Option.none_or, found])

end Project

/-! ## The listing -/

namespace Command

open Effect Work

/-- A profile as it is listed. -/
structure ListedProfile where
  name : String
  description : String
  selected : Bool
  deriving DecidableEq, Repr

/-- A listed profile as a value. -/
def ListedProfile.value (l : ListedProfile) : Value :=
  .table [("description", .string l.description), ("name", .string l.name), ("selected", .bool l.selected)]

/-- A listed profile as a line. -/
def ListedProfile.line (l : ListedProfile) : Text :=
  [if l.selected then '*' else ' ', ' '] ++ Text.padRight 14 l.name.toList ++ [' '] ++ l.description.toList

/-- The description of the profile that is looked up by a name. -/
def describe (p : Project) (name : String) : String :=
  ((p.select (some name)).toOption.bind fun found => found.2.description).getD ""

/-- The profiles that a session lists. -/
def Session.listing (s : Session) : List ListedProfile :=
  s.settings.project.profileNames.map fun name =>
    { name, description := describe s.settings.project name, selected := name == s.name }

/-- The listing as it is printed. -/
def Session.listingText (s : Session) : OutputFormat → Text
  | .json => Json.write (.list (s.listing.map ListedProfile.value)) ++ ['\n']
  | .text => s.listing.flatMap fun l => l.line ++ ['\n']

variable {s : Session} {c c' : Console} {home : Path} {common : Common}

theorem describe_eq (p : Project) (name : String) :
    describe p name = ((p.available.get? name).bind Profile.description).getD "" := by
  cases found : p.available.get? name with
  | none =>
    have missing : p.select (some name) = .error { name, available := p.profileNames } :=
      Project.select_of_unavailable found
    simp [describe, missing, Except.toOption]
  | some profile =>
    have selected : p.select (some name) = .ok (name, profile) := Project.select_of_available found
    simp [describe, selected, Except.toOption]

theorem run_say_each {α : Type} (line : α → Text) (xs : List α) (c : Console) :
    (ForIn.forIn xs PUnit.unit fun x _ => do say (line x); pure (ForInStep.yield PUnit.unit) : Work PUnit).run c =
      (.ok PUnit.unit, { c with out := c.out ++ xs.flatMap fun x => line x ++ ['\n'] }) := by
  induction xs generalizing c with
  | nil => simp; rfl
  | cons x xs ih =>
    have printed : (say (line x)).run c = (.ok (), { c with out := c.out ++ line x ++ ['\n'] }) := rfl
    rw [List.forIn_cons, bind_assoc, run_bind_of_ok printed, pure_bind, ih]
    simp

/-- What is listed about a profile is what its look-up gives. -/
theorem profiles_eq (s : Session) :
    profiles s = (do
      if ← inJson then data (.list (s.listing.map ListedProfile.value))
      else for l in s.listing do say l.line) := by
  simp only [profiles, Session.listing, List.map_map, Function.comp_def, ListedProfile.value, List.forIn_map,
    ListedProfile.line, describe_eq]

theorem run_profiles (s : Session) (c : Console) :
    (profiles s).run c = (.ok (), { c with out := c.out ++ s.listingText c.format }) := by
  have asked : inJson.run c = (.ok (c.format == .json), c) := rfl
  rw [profiles_eq, run_bind_of_ok asked]
  cases format : c.format with
  | json =>
    have printed : s.listingText c.format = Json.write (.list (s.listing.map ListedProfile.value)) ++ ['\n'] := by
      rw [format]
      rfl
    rw [if_pos (by decide), ← format, printed, ← List.append_assoc]
    rfl
  | text =>
    have printed : s.listingText c.format = s.listing.flatMap fun l => l.line ++ ['\n'] := by
      rw [format]
      rfl
    rw [if_neg (by decide), run_bind_of_ok (run_say_each _ _ c), ← format, printed]
    rfl

theorem select_of_start (run : (Session.start home common).run c = (.ok s, c')) :
    s.settings.project.select common.profile = .ok (s.name, s.profile) := by
  obtain ⟨settings, m, -, run⟩ := exists_of_run_bind run
  obtain ⟨_, m, -, run⟩ := exists_of_run_bind run
  obtain ⟨⟨name, profile⟩, m, found, run⟩ := exists_of_run_bind run
  obtain ⟨_, m, -, run⟩ := exists_of_run_bind run
  cases run
  change settings.project.select common.profile = .ok (name, profile)
  cases look : settings.project.select common.profile with
  | error e =>
    rw [look] at found
    cases found
  | ok pair =>
    rw [look] at found
    cases found
    rfl

theorem selectedName_mem_of_start (run : (Session.start home common).run c = (.ok s, c')) :
    s.name ∈ s.settings.project.profileNames := by
  obtain ⟨-, found⟩ := Project.select_eq_ok (select_of_start run)
  exact (Dictionary.mem_keys_iff _ _).mpr ⟨_, found⟩

/-- The names of a listing are distinct, so at most one of them is the name of the session. -/
theorem listing_marks_one (listed : s.name ∈ s.settings.project.profileNames) :
    ∃ before l after, s.listing = before ++ l :: after ∧ l.name = s.name ∧ l.selected = true ∧
      ∀ other ∈ before ++ after, other.selected = false := by
  have ascending := Dictionary.keys_ascending s.settings.project.available
  obtain ⟨front, back, cut⟩ := List.append_of_mem listed
  have apart : ∀ name ∈ front ++ back, name ≠ s.name := by
    rw [← Project.profileNames, cut, List.pairwise_append, List.pairwise_cons] at ascending
    obtain ⟨-, ⟨later, -⟩, earlier⟩ := ascending
    intro name member
    rcases List.mem_append.mp member with inside | inside
    · exact String.ne_of_lt (earlier name inside s.name List.mem_cons_self)
    · exact (String.ne_of_lt (later name inside)).symm
  rw [Session.listing, cut, List.map_append, List.map_cons]
  refine ⟨_, _, _, rfl, rfl, beq_self_eq_true _, fun other member => ?_⟩
  rw [← List.map_append] at member
  obtain ⟨name, inside, rfl⟩ := List.mem_map.mp member
  exact beq_false_of_ne (apart name inside)

/-- Listing and look-up agree. The listed names ascend strictly and are the built-in names and those of the project. What
is looked up is the name that is requested, else the default of the project, else `repository`: the look-up succeeds
exactly if that name is listed, and gives the profile of the project with that name if there is one, and the built-in
one otherwise; it fails with the names that are listed. So a session that opens lists each profile with the description
that its look-up gives, and marks exactly one, its own. -/
theorem listing_agrees_with_lookup :
    (∀ p : Project, p.profileNames.Pairwise (· < ·) ∧
      (∀ name, name ∈ p.profileNames ↔ name ∈ Profile.builtins.keys ∨ name ∈ p.profiles.keys) ∧
      ∀ requested, let name := (requested.or p.defaultProfile).getD "repository"
        ((∃ found, p.select requested = .ok found) ↔ name ∈ p.profileNames) ∧
        (∀ own, p.profiles.get? name = some own → p.select requested = .ok (name, own)) ∧
        (∀ builtin, p.profiles.get? name = none → Profile.builtins.get? name = some builtin →
          p.select requested = .ok (name, builtin)) ∧
        ∀ e, p.select requested = .error e → e = { name, available := p.profileNames }) ∧
    ∀ home common c s c', (Session.start home common).run c = (.ok s, c') →
      (profiles s).run c' = (.ok (), { c' with out := c'.out ++ s.listingText c'.format }) ∧
      s.listing.map ListedProfile.name = s.settings.project.profileNames ∧
      ∃ before l after, s.listing = before ++ l :: after ∧ l.name = s.name ∧ l.selected = true ∧
        ∀ other ∈ before ++ after, other.selected = false := by
  constructor
  · intro p
    refine ⟨Dictionary.keys_ascending p.available, fun _ => Project.mem_profileNames_iff, fun requested => ?_⟩
    exact ⟨Project.exists_select_iff, fun _ => Project.select_of_own, fun _ => Project.select_of_builtin,
      fun _ => Project.select_eq_error⟩
  · intro home common c s c' opened
    refine ⟨run_profiles s c', ?_, listing_marks_one (selectedName_mem_of_start opened)⟩
    exact List.map_map.trans (List.map_id _)

/-- A project with a profile of its own, which is its default, and one in the place of a built-in profile. -/
def shadowingWorld : World where
  disk := { nodes := [([".partition.toml".toList], .file (Utf8.encode
    ("default_profile = \"own\"\n[profiles.own]\n[profiles.router]\ndescription = \"Replaced\"\n").toList))] }

theorem listing_agrees_with_lookup_sample :
    ∃ s c', (Session.start ⟨"/home".toList⟩ {}).run { world := shadowingWorld } = (.ok s, c') ∧ s.name = "own" ∧
      s.listing.map (fun l => (l.name, l.selected)) = [("own", true), ("repository", false), ("router", false)] ∧
      describe s.settings.project "router" = "Replaced" ∧
      (profiles s).run c' = (.ok (), { c' with out := c'.out ++ s.listingText c'.format }) ∧
      ∃ before l after, s.listing = before ++ l :: after ∧ l.name = s.name ∧ l.selected = true ∧
        ∀ other ∈ before ++ after, other.selected = false := by
  have shown : ((Session.start ⟨"/home".toList⟩ {}).run { world := shadowingWorld }).1.toOption.map
      (fun s => (s.name, s.listing.map (fun l => (l.name, l.selected)), describe s.settings.project "router")) =
        some ("own", [("own", true), ("repository", false), ("router", false)], "Replaced") := by
    decide +kernel
  cases ends : (Session.start ⟨"/home".toList⟩ {}).run { world := shadowingWorld } with
  | mk r c' =>
    rw [ends] at shown
    cases r with
    | error e => cases shown
    | ok s =>
      obtain ⟨name, listed, description⟩ := by simpa [Except.toOption] using shown
      obtain ⟨printed, -, marked⟩ := listing_agrees_with_lookup.2 _ _ _ _ _ ends
      exact ⟨s, c', rfl, name, by simpa using listed, description, printed, marked⟩

end Command

end Cleave
