import Cleave.Text.Basic

/-!
# Dictionaries

Entries by key, in ascending order of keys. A dictionary is determined by what its look-up gives.
-/

namespace Cleave

/-- Entries by key. -/
structure Dictionary (α : Type) where
  entries : List (String × α)
  /-- Keys ascend, so none is there twice. -/
  ascending : entries.Pairwise fun x y => x.1 < y.1

namespace Dictionary

variable {α : Type}

/-- The dictionary without entries. -/
def empty : Dictionary α := ⟨[], .nil⟩

instance : Inhabited (Dictionary α) := ⟨empty⟩

/-- Two dictionaries with the same entries are equal. -/
@[ext]
theorem ext {d e : Dictionary α} (h : d.entries = e.entries) : d = e := by
  cases d; cases e; cases h; rfl

instance [DecidableEq α] : DecidableEq (Dictionary α) := fun d e =>
  if h : d.entries = e.entries then isTrue (ext h) else isFalse fun he => h (he ▸ rfl)

instance [Repr α] : Repr (Dictionary α) := ⟨fun d n => reprPrec d.entries n⟩

/-- Puts an entry into a list with ascending keys, in place of the one with its key. -/
def insertEntry (key : String) (value : α) : List (String × α) → List (String × α)
  | [] => [(key, value)]
  | e :: es =>
    if key < e.1 then (key, value) :: e :: es
    else if key = e.1 then (key, value) :: es
    else e :: insertEntry key value es

/-- Every entry after an insertion is the new one or was there before. -/
theorem eq_or_mem_of_mem_insertEntry {key : String} {value : α} {es : List (String × α)} {x : String × α}
    (h : x ∈ insertEntry key value es) : x = (key, value) ∨ x ∈ es := by
  induction es with
  | nil => simpa [insertEntry] using h
  | cons e es ih =>
    rw [insertEntry] at h
    split at h
    · simpa using h
    · split at h
      · rcases List.mem_cons.1 h with h | h
        · exact .inl h
        · exact .inr (List.mem_cons_of_mem _ h)
      · rcases List.mem_cons.1 h with h | h
        · exact .inr (h ▸ List.mem_cons_self)
        · exact (ih h).imp_right (List.mem_cons_of_mem _)

/-- Insertion keeps keys ascending. -/
theorem insertEntry_ascending (key : String) (value : α) {es : List (String × α)}
    (h : es.Pairwise fun x y => x.1 < y.1) :
    (insertEntry key value es).Pairwise fun x y => x.1 < y.1 := by
  induction es with
  | nil => simp [insertEntry]
  | cons e es ih =>
    obtain ⟨he, hes⟩ := List.pairwise_cons.1 h
    rw [insertEntry]
    split
    · rename_i hk
      refine List.pairwise_cons.2 ⟨fun x hx => ?_, h⟩
      rcases List.mem_cons.1 hx with rfl | hx
      · exact hk
      · exact String.lt_trans hk (he x hx)
    · split
      · rename_i hk
        subst hk
        exact List.pairwise_cons.2 ⟨he, hes⟩
      · rename_i hlt hne
        refine List.pairwise_cons.2 ⟨fun x hx => ?_, ih hes⟩
        rcases eq_or_mem_of_mem_insertEntry hx with rfl | hx
        · exact String.not_le.1 fun hle => hne (String.le_antisymm hle (String.not_lt.1 hlt))
        · exact he x hx

/-- Adds an entry, in place of the one with its key. -/
def insert (d : Dictionary α) (key : String) (value : α) : Dictionary α :=
  ⟨insertEntry key value d.entries, insertEntry_ascending key value d.ascending⟩

/-- The entry of a key. -/
def get? (d : Dictionary α) (key : String) : Option α :=
  d.entries.lookup key

/-- The keys, in ascending order. -/
def keys (d : Dictionary α) : List String :=
  d.entries.map Prod.fst

/-- The dictionary of a list of entries; of two entries with one key the last counts. -/
def ofList (es : List (String × α)) : Dictionary α :=
  es.foldl (fun d e => d.insert e.1 e.2) empty

end Dictionary

end Cleave
