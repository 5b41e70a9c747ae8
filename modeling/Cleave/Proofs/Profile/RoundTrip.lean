import Cleave.Profile.Codec
import Cleave.Profile.Compile

/-!
# Settings that are written and read back

Each kind of settings is read back from the value it is written as, in every format. A record is written with fields
that are among its own, in their order, so it is accepted; a field that is left out gets its default back, which is
the value it was left out for. From the innermost records outwards this makes a project survive being written
(`settings_survive`).
-/

namespace Cleave

open Value

/-! ## Dictionaries -/

namespace Dictionary

variable {α : Type}

/-- An entry whose key comes after all others is put at the end. -/
theorem insertEntry_last {key : String} {value : α} {es : List (String × α)} (after : ∀ e ∈ es, e.1 < key) :
    insertEntry key value es = es ++ [(key, value)] := by
  induction es with
  | nil => rfl
  | cons e es ih =>
    obtain ⟨first, later⟩ := List.forall_mem_cons.mp after
    have notBefore : ¬ key < e.1 := String.lt_asymm first
    have other : key ≠ e.1 := fun same => String.lt_irrefl e.1 (same ▸ first)
    rw [insertEntry, if_neg notBefore, if_neg other, ih later]
    rfl

end Dictionary

namespace Value

variable {α : Type} {read : Value → Option α} {write : α → Value}

theorem optional?_of_read {v : Value} {a : α} (reads : read v = some a) (filled : v ≠ .null) :
    optional? read v = some (some a) := by
  cases v with
  | null => exact absurd rfl filled
  | _ => simp [optional?, reads]

@[simp] theorem string?_string (s : String) : string? (string s) = some s := rfl

theorem optional?_string (s : String) : optional? string? (string s) = some (some s) := rfl

@[simp] theorem bool?_bool (b : Bool) : bool? (bool b) = some b := rfl

@[simp] theorem char?_singleton (c : Char) : char? (string (String.singleton c)) = some c := by
  simp [char?]

theorem nat?_int {n : Nat} (fits : n ≤ maxNat) : nat? (int n) = some n := by
  have bounds : ((0 : Int) ≤ n && (n : Int) ≤ maxNat) = true := by simpa using fits
  rw [nat?, if_pos bounds, Int.toNat_natCast]

/-- Items that are read back make up the list they were written from. -/
theorem listOf?_map (reads : ∀ a, read (write a) = some a) (as : List α) :
    listOf? read (list (as.map write)) = some as := by
  change (as.map write).mapM read = some as
  induction as with
  | nil => rfl
  | cons a as ih => simp [List.map_cons, List.mapM_cons, reads, ih]

@[simp] theorem strings?_ofStrings (ss : List String) : strings? (ofStrings ss) = some ss :=
  listOf?_map string?_string ss

theorem foldlM_insert (reads : ∀ a, read (write a) = some a) (es : List (String × α)) (d : Dictionary α)
    (ascending : (d.entries ++ es).Pairwise fun x y => x.1 < y.1) :
    (es.map fun e => (e.1, write e.2)).foldlM (fun d entry => (read entry.2).map (d.insert entry.1)) d =
      some ⟨d.entries ++ es, ascending⟩ := by
  induction es generalizing d with
  | nil => simp
  | cons e es ih =>
    obtain ⟨-, -, across⟩ := List.pairwise_append.mp ascending
    have last : (d.insert e.1 e.2).entries = d.entries ++ [e] :=
      Dictionary.insertEntry_last fun x member => across x member e (by simp)
    have rest : ((d.insert e.1 e.2).entries ++ es).Pairwise fun x y => x.1 < y.1 := by
      simpa [last] using ascending
    simp [reads, ih _ rest, last]

/-- Entries with ascending keys that are read back make up the dictionary they were written from. -/
theorem dictionaryOf?_table (reads : ∀ a, read (write a) = some a) (d : Dictionary α) :
    dictionaryOf? read (table (d.entries.map fun e => (e.1, write e.2))) = some d :=
  foldlM_insert reads d.entries .empty d.ascending

/-! ## Records -/

section

variable {β : Type} (key name : String) (write : β → Value) (o : Option β)

@[simp] theorem lookup_entry : ( entry? name write o).lookup key = if key = name then o.map write else none := by
  cases o with
  | none => simp [ entry?]
  | some a =>
    by_cases same : key = name
    · simp [ entry?, same]
    · have other : (key == name) = false := by simpa using same
      simp [ entry?, same, List.lookup_cons, other]

@[simp] theorem keys_entry (names : List String) : (( entry? name write o).map Prod.fst).Sublist (name :: names) := by
  cases o <;> simp [ entry?]

@[simp] theorem keys_entry_append {keys names : List String} (rest : keys.Sublist names) :
    (( entry? name write o).map Prod.fst ++ keys).Sublist (name :: names) := by
  cases o with
  | none => exact rest.cons name
  | some a => exact rest.cons_cons name

end

/-- A table is a record if its keys are among the names of the fields, in their order. -/
theorem record?_table (d : Dialect) {names : List String} {entries : Fields} (distinct : names.Nodup)
    (written : (entries.map Prod.fst).Sublist names) : record? d names (table entries) = some entries := by
  have known : ((entries.map Prod.fst).filter names.contains).Nodup := (written.nodup distinct).filter _
  cases d <;> simp [record?, table?, known]

end Value

namespace Fields

variable {α : Type} (fields : Fields) (name : String) (read : Value → Option α)

@[simp] theorem get_eq (fallback : α) :
    fields.get name read fallback = (fields.lookup name).elim (some fallback) read := by
  rw [get]
  cases fields.lookup name <;> rfl

@[simp] theorem getOptional_eq :
    fields.getOptional name read = (fields.lookup name).elim (some none) (optional? read) := by
  rw [getOptional, get_eq]

@[simp] theorem require_eq : fields.require name read = (fields.lookup name).bind read := rfl

/-- A field with an optional value gets it back, also if there is none and the field is left out. -/
theorem elim_optional {read : Value → Option α} {write : α → Value}
    (reads : ∀ a, optional? read (write a) = some (some a)) (o : Option α) :
    o.elim (some none) (optional? read ∘ write) = some o := by
  cases o with
  | none => rfl
  | some a => exact reads a

@[simp] theorem elim_optional_string (o : Option String) :
    o.elim (some none) (optional? string? ∘ string) = some o :=
  elim_optional optional?_string o

end Fields

/-! ## Settings -/

namespace ScanSettings

@[simp] theorem decode?_encode (d : Dialect) (s : ScanSettings) : decode? d s.encode = some s := by
  rw [decode?, encode, record?_table]
  · simp [List.lookup_append, List.lookup_cons]
  · decide
  · simp [fields]

end ScanSettings

namespace RuleSettings

theorem decode?_encode (d : Dialect) (s : RuleSettings) : decode? d s.encode = some s := by
  rw [decode?, encode, record?_table]
  · simp [List.lookup_cons]
  · decide
  · simp [fields]

end RuleSettings

namespace ClassifySettings

theorem choice?_text (d : Dialect) (g : Grouping) : (choice? d (string g.text)).bind Grouping.ofText? = some g := by
  cases g <;> rfl

@[simp] theorem decode?_encode (d : Dialect) (s : ClassifySettings) : decode? d s.encode = some s := by
  have rules := listOf?_map (RuleSettings.decode?_encode d) s.rules
  have grouping := choice?_text d s.grouping
  rw [decode?, encode, record?_table]
  · simp [List.lookup_cons, rules, grouping]
  · decide
  · simp [fields]

end ClassifySettings

namespace SymbolSettings

theorem decode?_encode (d : Dialect) (s : SymbolSettings) : decode? d s.encode = some s := by
  obtain ⟨name, module, marker, wholeModule⟩ := s
  rw [decode?, encode, record?_table]
  · cases wholeModule with
    | true => simp [List.lookup_append, List.lookup_cons]
    | false => simp [List.lookup_cons]
  · decide
  · cases wholeModule <;> simp [fields]

end SymbolSettings

namespace ImportSettings

@[simp] theorem decode?_encode (d : Dialect) (s : ImportSettings) : decode? d s.encode = some s := by
  have symbols := listOf?_map (SymbolSettings.decode?_encode d)
  have entities := dictionaryOf?_table string?_string s.entities
  rw [decode?, encode, record?_table]
  · by_cases none : s.entities.entries = []
    · have left : s.entities = .empty := Dictionary.ext none
      simp [List.lookup_cons, symbols, none, ← left]
    · simp [List.lookup_append, List.lookup_cons, symbols, none, entities]
  · decide
  · by_cases none : s.entities.entries = [] <;> simp [fields, none]

end ImportSettings

namespace SubstitutionSettings

theorem decode?_encode (d : Dialect) (s : SubstitutionSettings) : decode? d s.encode = some s := by
  rw [decode?, encode, record?_table]
  · simp [List.lookup_cons]
  · decide
  · simp [fields]

theorem optional?_encode (d : Dialect) (s : SubstitutionSettings) :
    optional? (decode? d) s.encode = some (some s) :=
  optional?_of_read (decode?_encode d s) nofun

end SubstitutionSettings

namespace WrapSettings

theorem decode?_encode (d : Dialect) (s : WrapSettings) : decode? d s.encode = some s := by
  rw [decode?, encode, record?_table]
  · simp [List.lookup_append, List.lookup_cons]
  · decide
  · simp [fields]

theorem optional?_encode (d : Dialect) (s : WrapSettings) : optional? (decode? d) s.encode = some (some s) :=
  optional?_of_read (decode?_encode d s) nofun

end WrapSettings

namespace RenderSettings

@[simp] theorem decode?_encode (d : Dialect) (s : RenderSettings) : decode? d s.encode = some s := by
  have substitution := Fields.elim_optional (SubstitutionSettings.optional?_encode d)
  have wrap := Fields.elim_optional (WrapSettings.optional?_encode d)
  rw [decode?, encode, record?_table]
  · simp [List.lookup_append, substitution, wrap]
  · decide
  · simp only [List.map_append, List.append_assoc]
    iterate 8 refine keys_entry_append _ _ _ ?_
    exact keys_entry _ _ _ []

end RenderSettings

namespace CheckSettings

theorem decode?_encode (d : Dialect) (s : CheckSettings) : decode? d s.encode = some s := by
  have timeout := nat?_int s.timeout_le
  have fits : s.timeoutSeconds ≤ maxNat := s.timeout_le
  rw [decode?, encode, record?_table]
  · simp [List.lookup_append, List.lookup_cons, timeout, fits]
  · decide
  · simp only [fields, List.map_append, List.map_cons, List.map_nil, List.cons_append, List.nil_append,
      List.cons_sublist_cons]
    exact keys_entry_append _ _ _ (keys_entry _ _ _ [])

theorem optional?_encode (d : Dialect) (s : CheckSettings) : optional? (decode? d) s.encode = some (some s) :=
  optional?_of_read (decode?_encode d s) nofun

end CheckSettings

namespace Profile

theorem decode?_encode (d : Dialect) (p : Profile) : decode? d p.encode = some p := by
  have check := Fields.elim_optional (CheckSettings.optional?_encode d)
  rw [decode?, encode, record?_table]
  · simp [List.lookup_append, List.lookup_cons, check]
  · decide
  · simp only [fields, List.map_append, List.map_cons, List.map_nil, List.append_assoc]
    refine keys_entry_append _ _ _ ?_
    simp only [List.cons_append, List.nil_append, List.cons_sublist_cons]
    exact keys_entry _ _ _ []

end Profile

namespace Project

theorem decode?_encode (d : Dialect) (p : Project) : decode? d p.encode = some p := by
  have profiles := dictionaryOf?_table (Profile.decode?_encode d) p.profiles
  rw [decode?, encode, record?_table]
  · simp [List.lookup_append, List.lookup_cons, profiles]
  · decide
  · simp [fields]

/-- The settings of a project that are written are read back as they were, in every format. So is each profile, and it
compiles to the same engine, or is refused for the same fault. -/
theorem settings_survive (d : Dialect) (p : Project) :
    decode? d p.encode = some p ∧
      ∀ (profile : Profile) (name : Text),
        (Profile.decode? d profile.encode).map (·.compile name) = some (profile.compile name) := by
  refine ⟨p.decode?_encode d, fun profile name => ?_⟩
  rw [Profile.decode?_encode, Option.map_some]

end Project

end Cleave
