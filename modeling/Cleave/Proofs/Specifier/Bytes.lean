import Cleave.Proofs.Path.Stored
import Cleave.Proofs.Specifier.Route

/-!
# Specifiers between paths of bytes

Parts are shown before they are compared, so the specifier between two paths of UTF-8 is that between their texts
(`relativeBytes_encode`), and it leads to its target as that does (`locationFrom_join_relativeBytes`). Names that are no
UTF-8 lose their difference.
-/

namespace Cleave.Specifier

open Cleave.Path

/-- A path of bytes that are UTF-8. -/
def IsUtf8 (p : Path) : Prop :=
  ∃ t, p.text = byteText (Utf8.encode t)

theorem fold_shown_stored (ps : List Text) (c : Component) : fold shown ps c.stored = fold id ps c := by
  cases c with
  | name t => exact congrArg (fun u => ps ++ [u]) (shown_stored t)
  | _ => rfl

/-- The parts of a stored path are shown as those of its text. -/
theorem partsBy_shown_stored (t : Text) : partsBy shown ⟨stored t⟩ = parts ⟨t⟩ := by
  rw [partsBy, components_stored, List.foldl_map, parts, partsBy]
  simp only [fold_shown_stored]

/-- Between paths of UTF-8 a specifier is that between their texts. -/
theorem relativeBytes_encode (dir target : Text) :
    relativeBytes (Utf8.encode dir) (Utf8.encode target) = relative ⟨dir⟩ ⟨target⟩ := by
  have module : (Path.mk (byteText (Utf8.encode target))).withoutExtension =
      ⟨stored (withoutExtension ⟨target⟩).text⟩ := withoutExtension_stored target
  rw [relativeBytes, module, partsBy_shown_stored]
  exact congrArg (fun ps => spell (route ps _)) (partsBy_shown_stored dir)

/-- A stored specifier leads from its directory to its target without the extension. -/
theorem locationFrom_join_relativeBytes {dir target : Bytes} (start : isAbsolute ⟨byteText dir⟩ = true)
    (absolute : isAbsolute ⟨byteText target⟩ = true) (source : IsUtf8 ⟨byteText dir⟩)
    (module : IsUtf8 (withoutExtension ⟨byteText target⟩)) (cwd : Location) :
    (Path.join ⟨byteText dir⟩ ⟨byteText (Utf8.encode (relativeBytes dir target))⟩).locationFrom cwd =
      (withoutExtension ⟨byteText target⟩).locationFrom cwd := by
  obtain ⟨d, source⟩ : ∃ d, byteText dir = stored d := source
  obtain ⟨m, module⟩ : ∃ m, withoutExtension ⟨byteText target⟩ = ⟨stored m⟩ :=
    module.imp fun _ => congrArg Path.mk
  have absolute := isAbsolute_withoutExtension absolute
  rw [module, isAbsolute_stored] at absolute
  rw [source, isAbsolute_stored] at start
  rw [relativeBytes, module, source, partsBy_shown_stored, partsBy_shown_stored]
  let way := spell (route (parts ⟨d⟩) (parts ⟨m⟩))
  calc (Path.join ⟨stored d⟩ ⟨stored way⟩).locationFrom cwd
    _ = locationFrom ((locationFrom [] ⟨d⟩).map stored) ⟨stored way⟩ := by
      rw [locationFrom_join, locationFrom_stored_of_absolute start]
    _ = (locationFrom [] (Path.join ⟨d⟩ ⟨way⟩)).map stored := by rw [locationFrom_stored, locationFrom_join]
    _ = (locationFrom [] ⟨m⟩).map stored := by rw [locationFrom_join_spell start absolute]
    _ = locationFrom cwd ⟨stored m⟩ := (locationFrom_stored_of_absolute absolute cwd).symm

end Cleave.Specifier
