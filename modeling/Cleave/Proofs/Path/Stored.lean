import Cleave.Specifier
import Cleave.Proofs.Path.Parts
import Cleave.Proofs.Text.Utf8

/-!
# Paths that are stored as bytes

Names are stored as bytes, and a path of text is one whose bytes are UTF-8. Nothing that is done to a path tells its
text from its bytes: the separators and dots are bytes of their own, no other character has these bytes, and different
texts have different bytes. So parts, locations and the path without its extension are those of the text, stored.
-/

namespace Cleave

open Specifier (byteText shown)

/-- Text as it is stored, with a character for each of its bytes. -/
def stored (t : Text) : Text :=
  byteText (Utf8.encode t)

/-! ## Stored texts -/

theorem stored_append (t u : Text) : stored (t ++ u) = stored t ++ stored u := by
  rw [stored, Utf8.encode, List.flatMap_append, byteText, List.map_append]
  rfl

theorem stored_flatMap {α : Type} (f : α → Text) (xs : List α) :
    stored (xs.flatMap f) = xs.flatMap fun x => stored (f x) := by
  induction xs with
  | nil => rfl
  | cons x xs ih => rw [List.flatMap_cons, stored_append, ih, List.flatMap_cons]

theorem stored_cons (c : Char) (t : Text) : stored (c :: t) = stored [c] ++ stored t :=
  stored_append [c] t

theorem toNat_ofNat_toNat (b : UInt8) : (Char.ofNat b.toNat).toNat = b.toNat := by
  have fits := b.toNat_lt
  have valid : b.toNat.isValidChar := .inl (by omega)
  rw [Char.ofNat, dif_pos valid]
  rfl

/-- Stored text is shown as it was. -/
theorem shown_stored (t : Text) : shown (stored t) = t := by
  have bytes : (stored t).map (fun c => UInt8.ofNat c.toNat) = Utf8.encode t := by
    rw [stored, byteText, List.map_map]
    refine (List.map_congr_left fun b _ => ?_).trans (List.map_id _)
    rw [Function.comp_apply, toNat_ofNat_toNat, UInt8.ofNat_toNat, id]
  rw [shown, bytes, Utf8.decodeLenient_encode]

theorem stored_injective : Function.Injective stored :=
  Function.LeftInverse.injective shown_stored

theorem stored_of_ascii {c : Char} (ascii : c.toNat < 128) : stored [c] = [c] := by
  rw [stored, Utf8.encode, List.flatMap_singleton, Utf8.encodeChar_of_ascii ascii, byteText, List.map_singleton,
    Utf8.toNat_ofNat (by omega), Char.ofNat_toNat]

/-- A plain character is stored in its own places only. -/
theorem mem_stored_iff {c : Char} (ascii : c.toNat < 128) {t : Text} : c ∈ stored t ↔ c ∈ t := by
  induction t with
  | nil => exact Iff.rfl
  | cons d t ih =>
    rw [stored_cons, List.mem_append, ih, List.mem_cons]
    refine or_congr ?_ Iff.rfl
    by_cases plain : d.toNat < 128
    · rw [stored_of_ascii plain, List.mem_singleton]
    · refine iff_of_false (fun member => ?_) (fun same => plain (same ▸ ascii))
      rw [stored, Utf8.encode, List.flatMap_singleton] at member
      obtain ⟨b, inside, rfl⟩ := List.mem_map.mp member
      have high := Utf8.high_of_mem_encodeChar (by omega) inside
      rw [toNat_ofNat_toNat] at ascii
      omega

theorem stored_eq_nil_iff {t : Text} : stored t = [] ↔ t = [] :=
  stored_injective.eq_iff' rfl

/-- What starts with a plain character is stored so. -/
theorem head?_stored_iff {c : Char} (ascii : c.toNat < 128) {t : Text} :
    (stored t).head? = some c ↔ t.head? = some c := by
  cases t with
  | nil => exact Iff.rfl
  | cons d t =>
    rw [stored_cons]
    constructor
    · intro first
      cases whole : stored [d] with
      | nil => cases stored_eq_nil_iff.mp whole
      | cons e r =>
        rw [whole] at first
        obtain rfl : e = c := Option.some.inj first
        have member : e ∈ stored [d] := whole ▸ List.mem_cons_self
        exact congrArg some (List.mem_singleton.mp ((mem_stored_iff ascii).mp member)).symm
    · intro first
      obtain rfl : d = c := Option.some.inj first
      rw [stored_of_ascii ascii]
      rfl

theorem isStay_stored (t : Text) : Disk.isStay (stored t) = Disk.isStay t := by
  have dot : stored t = ['.'] ↔ t = ['.'] := stored_injective.eq_iff' (stored_of_ascii (by decide))
  simp only [Disk.isStay, stored_eq_nil_iff, dot]

theorem stored_eq_dots_iff {t : Text} : stored t = ['.', '.'] ↔ t = ['.', '.'] :=
  stored_injective.eq_iff' rfl

/-! ## Stored paths -/

theorem stored_join (ts : List Text) : stored (Text.join ['/'] ts) = Text.join ['/'] (ts.map stored) := by
  induction ts with
  | nil => rfl
  | cons t ts ih =>
    cases ts with
    | nil => rfl
    | cons u us =>
      rw [List.map_cons, List.map_cons, Text.join_cons_cons, Text.join_cons_cons, stored_append, stored_cons, ih]
      rfl

theorem pieces_stored (t : Text) : Text.pieces '/' (stored t) = (Text.pieces '/' t).map stored := by
  have free : ∀ p ∈ Text.pieces '/' t, Text.pieces '/' (stored p) = [stored p] := fun p member =>
    Text.pieces_of_free ((mem_stored_iff (by decide)).not.mpr (Text.notMem_of_mem_pieces member))
  rw [← Text.join_pieces '/' t, stored_join, Text.join_pieces, Text.pieces_join (by simp [Text.pieces_ne_nil]),
    List.flatMap_map, List.flatMap_def, List.map_congr_left free, ← List.flatMap_def, ← List.map_eq_flatMap]

namespace Path

theorem isAbsolute_stored (t : Text) : isAbsolute ⟨stored t⟩ = isAbsolute ⟨t⟩ := by
  rw [Bool.eq_iff_iff, isAbsolute_iff, isAbsolute_iff]
  exact head?_stored_iff (by decide)

theorem parts_stored (t : Text) : parts ⟨stored t⟩ = (parts ⟨t⟩).map stored :=
  pieces_stored t

theorem isName_stored_iff {t : Text} : IsName (stored t) ↔ IsName t := by
  constructor
  · intro name
    exact ⟨isStay_stored t ▸ name.name, stored_eq_dots_iff.not.mp name.down,
      (mem_stored_iff (by decide)).not.mp name.free⟩
  · intro name
    exact ⟨(isStay_stored t).trans name.name, stored_eq_dots_iff.not.mpr name.down,
      (mem_stored_iff (by decide)).not.mpr name.free⟩

theorem followPart_stored (l : Location) (part : Text) :
    followPart (l.map stored) (stored part) = (followPart l part).map stored := by
  simp only [followPart, isStay_stored, stored_eq_dots_iff]
  split
  · rfl
  · split
    · exact List.map_dropLast.symm
    · rw [List.map_append, List.map_singleton]

/-- A stored path leads where the path leads, stored. -/
theorem locationFrom_stored (cwd : Location) (t : Text) :
    locationFrom (cwd.map stored) ⟨stored t⟩ = (locationFrom cwd ⟨t⟩).map stored := by
  have start : Disk.startOf (cwd.map stored) ⟨stored t⟩ = (Disk.startOf cwd ⟨t⟩).map stored := by
    rw [Disk.startOf, Disk.startOf, isAbsolute_stored]
    split <;> rfl
  rw [locationFrom_eq, locationFrom_eq, parts_stored, start]
  generalize Disk.startOf cwd ⟨t⟩ = l
  induction parts ⟨t⟩ generalizing l with
  | nil => rfl
  | cons part rest ih => rw [List.map_cons, List.foldl_cons, List.foldl_cons, followPart_stored, ih]

theorem locationFrom_stored_of_absolute {t : Text} (absolute : isAbsolute ⟨t⟩ = true) (cwd : Location) :
    locationFrom cwd ⟨stored t⟩ = (locationFrom [] ⟨t⟩).map stored := by
  have absolute := (isAbsolute_stored t).trans absolute
  rw [← locationFrom_stored, locationFrom_of_absolute absolute, locationFrom_of_absolute absolute]

end Path

/-! ## Components -/

/-- A component with its name stored. -/
def Component.stored : Component → Component
  | .name t => .name (Cleave.stored t)
  | c => c

namespace Path

theorem component_locate?_stored {start start' : Nat} (front : start' = 0 ↔ start = 0) (part : Text) :
    (locate? start' (stored part)).toList.map Located.component =
      ((locate? start part).toList.map Located.component).map Component.stored := by
  have dot : stored part = ['.'] ↔ part = ['.'] := stored_injective.eq_iff' (stored_of_ascii (by decide))
  simp only [locate?, stored_eq_nil_iff, stored_eq_dots_iff, dot, front]
  split_ifs <;> rfl

theorem components_locateFrom_stored {start start' : Nat} (front : start' = 0 ↔ start = 0) (ps : List Text) :
    (locateFrom start' (ps.map stored)).map Located.component =
      ((locateFrom start ps).map Located.component).map Component.stored := by
  induction ps generalizing start start' with
  | nil => rfl
  | cons part ps ih =>
    have later : start' + (stored part).length + 1 = 0 ↔ start + part.length + 1 = 0 := by omega
    rw [List.map_cons, locateFrom, locateFrom, List.map_append, List.map_append, List.map_append,
      component_locate?_stored front, ih later]

theorem components_stored (t : Text) : components ⟨stored t⟩ = (components ⟨t⟩).map Component.stored := by
  have inner := components_locateFrom_stored (Iff.rfl : 0 = 0 ↔ 0 = 0) (parts ⟨t⟩)
  rw [components, located, ← parts, parts_stored, isAbsolute_stored, List.map_append, inner, components, located,
    ← parts, List.map_append, List.map_append]
  congr 1
  split <;> rfl

/-! ## Extensions -/

/-- Storing a name stores what stands before its extension. -/
theorem fst_splitName_stored (t : Text) : (splitName (stored t)).1 = stored (splitName t).1 := by
  by_cases dot : '.' ∈ t
  · obtain ⟨after, before, whole, free⟩ := List.eq_append_cons_of_mem (List.mem_reverse.mpr dot)
    obtain rfl : t = before.reverse ++ '.' :: after.reverse := by
      simpa using congrArg List.reverse whole
    have free' : '.' ∉ after.reverse := fun member => free (List.mem_reverse.mp member)
    have free'' : '.' ∉ stored after.reverse := (mem_stored_iff (by decide)).not.mpr free'
    have text : stored (before.reverse ++ '.' :: after.reverse) =
        stored before.reverse ++ '.' :: stored after.reverse := stored_append _ _
    rw [splitName_append free', text, splitName_append free'']
    simp only [stored_eq_nil_iff]
    split
    · exact text.symm
    · rfl
  · rw [splitName_of_free dot, splitName_of_free ((mem_stored_iff (by decide)).not.mpr dot)]

theorem withoutExtension_stored (t : Text) :
    withoutExtension ⟨stored t⟩ = ⟨stored (withoutExtension ⟨t⟩).text⟩ := by
  cases named : fileName? ⟨t⟩ with
  | some name =>
    obtain ⟨front, back, cut, isName, stay⟩ := fileName?_eq_some_iff.mp named
    have stay' : ∀ part ∈ back.map stored, Disk.isStay part = true := by
      intro part member
      obtain ⟨part, inside, rfl⟩ := List.mem_map.mp member
      exact (isStay_stored part).trans (stay part inside)
    have cut' : parts ⟨stored t⟩ = front.map stored ++ stored name :: back.map stored := by
      rw [parts_stored, cut, List.map_append, List.map_cons]
    have before : (front.map stored).flatMap (· ++ ['/']) = stored (front.flatMap (· ++ ['/'])) := by
      rw [stored_flatMap, List.flatMap_map]
      exact congrArg (front.flatMap ·) (funext fun part => (stored_append part ['/']).symm)
    rw [withoutExtension_of_parts cut isName stay,
      withoutExtension_of_parts cut' (isName_stored_iff.mpr isName) stay', fst_splitName_stored, stored_append, before]
  | none =>
    have nameless : fileName? ⟨stored t⟩ = none := by
      rw [fileName?] at named ⊢
      rw [components_stored, List.getLast?_map]
      cases last : (components ⟨t⟩).getLast? with
      | none => rfl
      | some c =>
        rw [last] at named
        cases c with
        | name name => cases named
        | _ => rfl
    rw [withoutExtension_of_nameless named, withoutExtension_of_nameless nameless]

end Path

end Cleave
