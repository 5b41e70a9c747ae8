import Cleave.Profile.Compile

/-!
# Faults of profiles

All faults of a profile can be listed in the order in which they are looked for (`Profile.faults`), and so can what is
said of them (`Profile.complaints`). Each step of compiling finds its own part of the faults (`Blames`): it succeeds if
the part is empty and stops at its first fault otherwise. So, with any reader of patterns, a profile is accepted exactly
if it is valid, and else the message tells of its first fault (`compile_blames_first_fault`).
-/

namespace Cleave

/-! ## Checks that stop at the first fault -/

/-- A check that succeeds if there are no faults, and else fails with the first of them. -/
inductive Blames {ε α : Type} : Except ε α → List ε → Prop
  | ok (a : α) : Blames (.ok a) []
  | error (e : ε) (rest : List ε) : Blames (.error e) (e :: rest)

namespace Blames

variable {ε ε' α β : Type} {x : Except ε α} {faults : List ε}

theorem isOk_iff (blames : Blames x faults) : (∃ a, x = .ok a) ↔ faults = [] := by
  cases blames with
  | ok a => simp
  | error e rest => simp

theorem eq_error_iff (blames : Blames x faults) (e : ε) : x = .error e ↔ faults.head? = some e := by
  cases blames with
  | ok a => simp
  | error e' rest => simp

theorem bind {f : α → Except ε β} {later : List ε} (first : Blames x faults)
    (second : ∀ a, x = .ok a → Blames (f a) later) : Blames (x >>= f) (faults ++ later) := by
  cases first with
  | ok a => exact second a rfl
  | error e rest => exact .error e (rest ++ later)

/-- What is made of the result of a check adds no fault. -/
theorem bind_pure (blames : Blames x faults) (f : α → β) : Blames (x >>= fun a => pure (f a)) faults := by
  rw [← List.append_nil faults]
  exact blames.bind fun a _ => .ok (f a)

theorem mapError (blames : Blames x faults) (g : ε → ε') : Blames (x.mapError g) (faults.map g) := by
  cases blames with
  | ok a => exact .ok a
  | error e rest => exact .error (g e) (rest.map g)

theorem map (blames : Blames x faults) (f : α → β) : Blames (x.map f) faults := by
  cases blames with
  | ok a => exact .ok (f a)
  | error e rest => exact .error e rest

/-- A refusal comes before what is checked after it. -/
theorem guard {refused : Prop} [Decidable refused] {e : ε} {next : Unit → Except ε α}
    (blames : Blames (next ()) faults) :
    Blames (if refused then throw e >>= next else next ()) ((if refused then [e] else []) ++ faults) := by
  by_cases bad : refused
  · rw [if_pos bad, if_pos bad]
    exact .error e faults
  · rw [if_neg bad, if_neg bad]
    exact blames

/-- Items that are checked one after the other have their faults in order. -/
theorem mapM {f : α → Except ε β} {each : α → List ε} (checks : ∀ a, Blames (f a) (each a)) (as : List α) :
    Blames (as.mapM f) (as.flatMap each) := by
  induction as with
  | nil => exact .ok []
  | cons a as ih =>
    rw [List.mapM_cons, List.flatMap_cons]
    exact (checks a).bind fun b _ => ih.bind_pure fun bs => b :: bs

end Blames

/-! ## Patterns -/

namespace Pattern

variable {ε : Type} {read : Reader} {source : Text}

/-- Why a text is no pattern, if it is none. -/
def faults (read : Reader) (ignoreCase : Bool) (source : Text) : List Text :=
  match read ignoreCase source with
  | .error why => [why]
  | .ok _ => []

/-- The fault of a text that has to be a pattern with a group, if it has one: the text is no pattern, or the group is
missing. -/
def captureFaults (read : Reader) (invalid : Text → ε) (missing : ε) (source : Text) : List ε :=
  match read false source with
  | .error why => [invalid why]
  | .ok p => if 2 ≤ p.groups then [] else [missing]

theorem blames_read (read : Reader) (ignoreCase : Bool) (source : Text) :
    Blames (read ignoreCase source) (faults read ignoreCase source) := by
  rw [faults]
  cases read ignoreCase source with
  | error why => exact .error why []
  | ok p => exact .ok p

theorem faults_eq_nil {ignoreCase : Bool} : faults read ignoreCase source = [] ↔ ∃ p, read ignoreCase source = .ok p :=
  (blames_read read ignoreCase source).isOk_iff.symm

theorem blames_capture {α : Type} {invalid : Text → ε} {missing : ε} {next : Pattern → Unit → Except ε α}
    {later : List ε} (each : ∀ p, Blames (next p ()) later) :
    Blames
      ((read false source).mapError invalid >>= fun p =>
        if (!p.hasCapture) = true then throw missing >>= next p else next p ())
      (captureFaults read invalid missing source ++ later) := by
  rw [captureFaults]
  cases read false source with
  | error why => exact .error _ _
  | ok p =>
    change Blames (if (!p.hasCapture) = true then throw missing >>= next p else next p ())
      ((if 2 ≤ p.groups then [] else [missing]) ++ later)
    by_cases captures : 2 ≤ p.groups
    · have found : p.hasCapture = true := decide_eq_true captures
      rw [if_pos captures, found]
      exact each p
    · have none : p.hasCapture = false := decide_eq_false captures
      rw [if_neg captures, none]
      exact .error missing later

theorem captureFaults_eq_nil {invalid : Text → ε} {missing : ε} :
    captureFaults read invalid missing source = [] ↔ ∃ p, read false source = .ok p ∧ 2 ≤ p.groups := by
  rw [captureFaults]
  cases read false source with
  | error why => simp
  | ok p =>
    change (if 2 ≤ p.groups then [] else [missing]) = [] ↔ _
    by_cases captures : 2 ≤ p.groups
    · rw [if_pos captures]
      exact iff_of_true rfl ⟨p, rfl, captures⟩
    · rw [if_neg captures]
      refine iff_of_false (List.cons_ne_nil _ _) ?_
      rintro ⟨q, same, captures'⟩
      cases same
      exact captures captures'

theorem map_captureFaults {ε' : Type} (g : ε → ε') (invalid : Text → ε) (missing : ε) :
    (captureFaults read invalid missing source).map g =
      captureFaults read (fun why => g (invalid why)) (g missing) source := by
  rw [captureFaults, captureFaults]
  cases read false source with
  | error why => rfl
  | ok p =>
    dsimp only
    split <;> rfl

end Pattern

/-! ## Parts of a profile -/

/-- The faults of scan settings. -/
def ScanSettings.faults (read : Pattern.Reader) (s : ScanSettings) : List ProfileFault :=
  (if s.openDelimiter = s.closeDelimiter then [.sameDelimiters] else []) ++
    ((if s.closingMarker.toList = [] then [.emptyMarker] else []) ++
      (Pattern.captureFaults read .introducer (.introducerCapture s.introducer.toList) s.introducer.toList ++
        (s.aggregator.toList.flatMap fun source => Pattern.faults read false source.toList).map .aggregator))

/-- The faults of a rule: one of its pattern counts only if its key is accepted. -/
def RuleSettings.faults (read : Pattern.Reader) (r : RuleSettings) : List RuleError :=
  match DomainKey.parse r.key.toList with
  | .error key => [.invalidKey key]
  | .ok key => (Pattern.faults read true r.pattern.toList).map (.invalidPattern key)

/-- The faults of an entity pattern. -/
def entityFaults (read : Pattern.Reader) (source : String) : List EntityError :=
  Pattern.captureFaults read (.invalidPattern source.toList) (.missingCapture source.toList) source.toList

/-- The faults of a substitution. -/
def SubstitutionSettings.faults (read : Pattern.Reader) (s : SubstitutionSettings) : List SubstitutionError :=
  (Pattern.faults read false s.pattern.toList).map fun why => { pattern := s.pattern.toList, why }

/-- The faults of the extension and of the substitution. -/
def RenderSettings.faults (read : Pattern.Reader) (s : RenderSettings) (extension : Text) : List ProfileFault :=
  (if Text.isBlank extension then [.emptyExtension] else []) ++
    (s.substitution.toList.flatMap (SubstitutionSettings.faults read)).map .substitution

theorem ScanSettings.blames_compileAggregator (read : Pattern.Reader) (s : ScanSettings) :
    Blames (s.compileAggregator read)
      ((s.aggregator.toList.flatMap fun source => Pattern.faults read false source.toList).map .aggregator) := by
  rw [compileAggregator]
  cases s.aggregator with
  | none => exact .ok none
  | some source =>
    rw [Option.toList_some, List.flatMap_singleton]
    exact ((Pattern.blames_read read false source.toList).mapError ProfileFault.aggregator).map some

theorem ScanSettings.blames_compile (read : Pattern.Reader) (s : ScanSettings) :
    Blames (s.compile read) (s.faults read) := by
  unfold compile faults
  refine .guard ?_
  refine .guard ?_
  refine Pattern.blames_capture ?_
  intro introducer
  exact (s.blames_compileAggregator read).bind_pure _

theorem RuleSettings.blames_compile (read : Pattern.Reader) (r : RuleSettings) :
    Blames (DomainRule.compile read r.key.toList r.pattern.toList) (r.faults read) := by
  rw [DomainRule.compile, RuleSettings.faults]
  cases DomainKey.parse r.key.toList with
  | error key => exact .error _ []
  | ok key =>
    dsimp only
    rw [Pattern.faults]
    cases read true r.pattern.toList with
    | error why => exact .error _ []
    | ok pattern => exact .ok _

theorem RuleTable.blames_compileRulesWith (read : Pattern.Reader) (rules : List RuleSettings) :
    Blames (compileRulesWith read (rules.map fun r => (r.key.toList, r.pattern.toList)))
      (rules.flatMap (RuleSettings.faults read)) := by
  rw [compileRulesWith, List.mapM_map]
  exact .mapM (RuleSettings.blames_compile read) rules

theorem ClassifySettings.blames_compile (read : Pattern.Reader) (s : ClassifySettings) :
    Blames (s.compile read) ((s.rules.flatMap (RuleSettings.faults read)).map .rule) :=
  ((RuleTable.blames_compileRulesWith read s.rules).mapError ProfileFault.rule).bind_pure _

theorem EntityCatalog.blames_compilePattern (read : Pattern.Reader) (source : String) :
    Blames (compilePattern read source.toList) (entityFaults read source) := by
  rw [compilePattern, entityFaults, Pattern.captureFaults]
  cases read false source.toList with
  | error why => exact .error _ []
  | ok p =>
    by_cases captures : 2 ≤ p.groups
    · simp only [Pattern.hasCapture, captures, decide_true, if_true]
      exact .ok p
    · simp only [Pattern.hasCapture, captures, decide_false, if_false]
      exact .error _ []

theorem EntityCatalog.blames_compilePatternsWith (read : Pattern.Reader) (sources : List String) :
    Blames (compilePatternsWith read (sources.map String.toList)) (sources.flatMap (entityFaults read)) := by
  rw [compilePatternsWith, List.mapM_map]
  exact .mapM (blames_compilePattern read) sources

theorem ImportSettings.blames_compile (read : Pattern.Reader) (s : ImportSettings) :
    Blames (s.compile read) ((s.entityPatterns.flatMap (entityFaults read)).map .entity) :=
  ((EntityCatalog.blames_compilePatternsWith read s.entityPatterns).mapError ProfileFault.entity).bind_pure _

theorem RenderSettings.blames_compileSubstitution (read : Pattern.Reader) (s : RenderSettings) :
    Blames (s.compileSubstitution read)
      ((s.substitution.toList.flatMap (SubstitutionSettings.faults read)).map .substitution) := by
  rw [compileSubstitution]
  cases s.substitution with
  | none => exact .ok none
  | some t =>
    rw [Option.toList_some, List.flatMap_singleton, SubstitutionSettings.faults, Pattern.faults]
    dsimp only
    rw [Substitution.compileWith]
    cases read false t.pattern.toList with
    | error why => exact .error _ []
    | ok p => exact .ok _

theorem RenderSettings.blames_compile (read : Pattern.Reader) (s : RenderSettings) (extension : Text) :
    Blames (s.compile read extension) (s.faults read extension) := by
  unfold compile faults
  refine .guard ?_
  exact (s.blames_compileSubstitution read).bind_pure _

namespace Profile

/-- All faults of a profile, in the order in which they are looked for. -/
def faults (read : Pattern.Reader) (p : Profile) : List ProfileFault :=
  p.scan.faults read ++ ((p.classify.rules.flatMap (RuleSettings.faults read)).map .rule ++
    ((p.imports.entityPatterns.flatMap (entityFaults read)).map .entity ++ p.render.faults read p.extension.toList))

/-- What a profile has to satisfy. -/
structure IsValid (read : Pattern.Reader) (p : Profile) : Prop where
  delimiters : p.scan.openDelimiter ≠ p.scan.closeDelimiter
  marker : p.scan.closingMarker ≠ ""
  introducer : ∃ q, read false p.scan.introducer.toList = .ok q ∧ 2 ≤ q.groups
  aggregator : ∀ source ∈ p.scan.aggregator, ∃ q, read false source.toList = .ok q
  rules : ∀ r ∈ p.classify.rules,
    (∃ key, DomainKey.parse r.key.toList = .ok key) ∧ ∃ q, read true r.pattern.toList = .ok q
  entities : ∀ source ∈ p.imports.entityPatterns, ∃ q, read false source.toList = .ok q ∧ 2 ≤ q.groups
  extension : ¬ Text.isBlank p.extension.toList
  substitution : ∀ s ∈ p.render.substitution, ∃ q, read false s.pattern.toList = .ok q

/-- A profile without faults is valid, and a valid one has none. -/
theorem faults_eq_nil_iff (read : Pattern.Reader) (p : Profile) : p.faults read = [] ↔ p.IsValid read := by
  have rule (r : RuleSettings) : r.faults read = [] ↔ (∃ key, DomainKey.parse r.key.toList = .ok key) ∧
      ∃ q, read true r.pattern.toList = .ok q := by
    rw [RuleSettings.faults]
    cases DomainKey.parse r.key.toList with
    | error key => simp
    | ok key => simp [Pattern.faults_eq_nil]
  simp only [faults, ScanSettings.faults, RenderSettings.faults, SubstitutionSettings.faults, entityFaults,
    List.append_eq_nil_iff, List.map_eq_nil_iff, List.flatMap_eq_nil_iff, ite_eq_right_iff, List.cons_ne_nil, imp_false,
    Pattern.captureFaults_eq_nil, Pattern.faults_eq_nil, rule, Option.mem_toList, String.toList_eq_nil_iff]
  constructor
  · rintro ⟨⟨delimiters, marker, introducer, aggregator⟩, rules, entities, extension, substitution⟩
    exact ⟨delimiters, marker, introducer, aggregator, rules, entities, extension, substitution⟩
  · rintro ⟨delimiters, marker, introducer, aggregator, rules, entities, extension, substitution⟩
    exact ⟨⟨delimiters, marker, introducer, aggregator⟩, rules, entities, extension, substitution⟩

theorem blames_engine (read : Pattern.Reader) (p : Profile) : Blames (p.engine read) (p.faults read) := by
  refine (p.scan.blames_compile read).bind fun patterns _ => ?_
  refine (p.classify.blames_compile read).bind fun table _ => ?_
  refine (p.imports.blames_compile read).bind fun catalog _ => ?_
  exact (p.render.blames_compile read p.extension.toList).bind_pure _

/-! ## What is said of the faults -/

/-- What there is to say against a rule: of its pattern only if its key is accepted. -/
def ruleComplaints (read : Pattern.Reader) (r : RuleSettings) : List Text :=
  match DomainKey.parse r.key.toList with
  | .error _ =>
    ["Invalid domain key '".toList ++ Text.trim r.key.toList ++ "': use letters, digits, '_' or '-'".toList]
  | .ok key =>
    (Pattern.faults read true r.pattern.toList).map
      ("Invalid pattern for domain '".toList ++ key.text ++ "': ".toList ++ ·)

/-- What there is to say against an entity pattern. -/
def entityComplaints (read : Pattern.Reader) (source : String) : List Text :=
  Pattern.captureFaults read ("Invalid entity pattern '".toList ++ source.toList ++ "': ".toList ++ ·)
    ("Entity pattern '".toList ++ source.toList ++ "' needs a capture group for the entity name".toList) source.toList

/-- What there is to say against a substitution. -/
def substitutionComplaints (read : Pattern.Reader) (s : SubstitutionSettings) : List Text :=
  (Pattern.faults read false s.pattern.toList).map
    ("Invalid substitution pattern '".toList ++ s.pattern.toList ++ "': ".toList ++ ·)

/-- What there is to say against scan settings. -/
def scanComplaints (read : Pattern.Reader) (s : ScanSettings) : List Text :=
  (if s.openDelimiter = s.closeDelimiter then ["open and close delimiters must differ".toList] else []) ++
    ((if s.closingMarker = "" then ["closing marker must not be empty".toList] else []) ++
      (Pattern.captureFaults read ("invalid introducer pattern: ".toList ++ ·)
          ("introducer '".toList ++ s.introducer.toList ++ "' needs a capture group for the name".toList)
          s.introducer.toList ++
        (s.aggregator.toList.flatMap fun source => Pattern.faults read false source.toList).map
          ("invalid aggregator pattern: ".toList ++ ·)))

/-- Everything there is to say against a profile, in the order in which it is looked for. -/
def complaints (read : Pattern.Reader) (p : Profile) : List Text :=
  scanComplaints read p.scan ++ (p.classify.rules.flatMap (ruleComplaints read) ++
    (p.imports.entityPatterns.flatMap (entityComplaints read) ++
      ((if Text.isBlank p.extension.toList then ["extension must not be empty".toList] else []) ++
        p.render.substitution.toList.flatMap (substitutionComplaints read))))

theorem map_message_rule (read : Pattern.Reader) (r : RuleSettings) :
    (r.faults read).map RuleError.message = ruleComplaints read r := by
  rw [RuleSettings.faults, ruleComplaints]
  cases parsed : DomainKey.parse r.key.toList with
  | ok key => exact List.map_map
  | error t =>
    obtain rfl : Text.trim r.key.toList = t := by
      rw [DomainKey.parse] at parsed
      split at parsed
      · cases parsed
      · split at parsed
        · exact Except.error.inj parsed
        · cases parsed
    rfl

theorem map_message_entity (read : Pattern.Reader) (source : String) :
    (entityFaults read source).map EntityError.message = entityComplaints read source :=
  Pattern.map_captureFaults _ _ _

theorem map_message_substitution (read : Pattern.Reader) (s : SubstitutionSettings) :
    (s.faults read).map SubstitutionError.message = substitutionComplaints read s :=
  List.map_map

theorem map_message_scan (read : Pattern.Reader) (s : ScanSettings) :
    (s.faults read).map ProfileFault.message = scanComplaints read s := by
  rw [ScanSettings.faults, scanComplaints, List.map_append, List.map_append, List.map_append,
    Pattern.map_captureFaults, List.map_map]
  simp only [apply_ite (List.map ProfileFault.message), String.toList_eq_nil_iff]
  rfl

/-- Errors that a profile passes on are told in their own words. -/
theorem map_message_flatMap {ε α : Type} (wrap : ε → ProfileFault) {message : ε → Text} {faults : α → List ε}
    {complaints : α → List Text} (passes : ∀ e, (wrap e).message = message e)
    (told : ∀ a, (faults a).map message = complaints a) (as : List α) :
    ((as.flatMap faults).map wrap).map ProfileFault.message = as.flatMap complaints := by
  rw [List.map_map, List.map_flatMap]
  have same : ProfileFault.message ∘ wrap = message := funext passes
  rw [same]
  exact congrArg (as.flatMap ·) (funext told)

/-- What is said of the faults of a profile, in their order. -/
theorem map_message_faults (read : Pattern.Reader) (p : Profile) :
    (p.faults read).map ProfileFault.message = p.complaints read := by
  have rules := map_message_flatMap .rule (fun _ => rfl) (map_message_rule read) p.classify.rules
  have entities := map_message_flatMap .entity (fun _ => rfl) (map_message_entity read) p.imports.entityPatterns
  have substitution :=
    map_message_flatMap .substitution (fun _ => rfl) (map_message_substitution read) p.render.substitution.toList
  rw [faults, complaints, RenderSettings.faults, List.map_append, List.map_append, List.map_append, List.map_append,
    map_message_scan, rules, entities, substitution, apply_ite (List.map ProfileFault.message)]
  rfl

/-- A profile is accepted exactly if it is valid. Else it is refused under its name, for the first of its faults, and
the message is the first of what there is to say against it. -/
theorem compile_blames_first_fault (read : Pattern.Reader) (p : Profile) (name : Text) :
    ((∃ e, p.compileWith read name = .ok e) ↔ p.IsValid read) ∧
      (∀ err, p.compileWith read name = .error err ↔ err.name = name ∧ (p.faults read).head? = some err.fault) ∧
      (¬p.IsValid read → ∃ err why, p.compileWith read name = .error err ∧ err.name = name ∧
        (p.complaints read).head? = some why ∧
        err.message = "Invalid profile '".toList ++ name ++ "': ".toList ++ why) := by
  have blames := (p.blames_engine read).mapError fun fault => (⟨name, fault⟩ : InvalidProfile)
  have refused (err : InvalidProfile) :
      p.compileWith read name = .error err ↔ err.name = name ∧ (p.faults read).head? = some err.fault := by
    rw [compileWith, blames.eq_error_iff, List.head?_map, Option.map_eq_some_iff]
    constructor
    · rintro ⟨fault, first, rfl⟩
      exact ⟨rfl, first⟩
    · rintro ⟨rfl, first⟩
      exact ⟨err.fault, first, rfl⟩
  refine ⟨?_, refused, fun invalid => ?_⟩
  · rw [← p.faults_eq_nil_iff, ← List.map_eq_nil_iff]
    exact blames.isOk_iff
  · obtain ⟨fault, later, found⟩ := List.exists_cons_of_ne_nil (mt (p.faults_eq_nil_iff read).mp invalid)
    refine ⟨⟨name, fault⟩, fault.message, (refused _).mpr ⟨rfl, ?_⟩, rfl, ?_, rfl⟩
    · rw [found, List.head?_cons]
    · rw [← map_message_faults, found, List.map_cons, List.head?_cons]

/-- A reader that refuses a group that is not closed. -/
def sampleReader : Pattern.Reader := fun ignoreCase source =>
  if source = "(task".toList then .error "regex parse error:\n    (task\n    ^\nerror: unclosed group".toList
  else Pattern.read ignoreCase source

/-- Functions with one rule. -/
def sound : Profile where
  scan := { introducer := "^fn (\\S+)" }
  classify := { rules := [⟨"task", "(?-i)task"⟩] }

/-- A rule without a pattern, one without a key, and no extension. -/
def faulty : Profile where
  extension := " "
  scan := { introducer := "^fn (\\S+)" }
  classify := { rules := [⟨" task ", "(task"⟩, ⟨"a b", "task"⟩] }

theorem compile_blames_first_fault_sample :
    (∃ e, sound.compileWith sampleReader "custom".toList = .ok e) ∧ ¬faulty.IsValid sampleReader ∧
      ∃ err, faulty.compileWith sampleReader "custom".toList = .error err ∧
        err.message = ("Invalid profile 'custom': Invalid pattern for domain 'task': " ++
          "regex parse error:\n    (task\n    ^\nerror: unclosed group").toList := by
  obtain ⟨accepted, -, -⟩ := compile_blames_first_fault sampleReader sound "custom".toList
  obtain ⟨-, -, refused⟩ := compile_blames_first_fault sampleReader faulty "custom".toList
  have valid : sound.IsValid sampleReader := (faults_eq_nil_iff sampleReader sound).mp (by decide +kernel)
  have invalid : ¬faulty.IsValid sampleReader := fun valid => valid.extension (by decide)
  have first : (faulty.complaints sampleReader).head? = some ("Invalid pattern for domain 'task': " ++
      "regex parse error:\n    (task\n    ^\nerror: unclosed group").toList := by
    decide +kernel
  obtain ⟨err, why, result, -, blamed, message⟩ := refused invalid
  obtain rfl := Option.some.inj (blamed.symm.trans first)
  exact ⟨accepted.mpr valid, invalid, err, result, message.trans (by decide +kernel)⟩

end Profile

end Cleave
