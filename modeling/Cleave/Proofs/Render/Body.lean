import Mathlib.Data.List.Forall2
import Cleave.Render
import Cleave.Proofs.Text.Indent

/-!
# Declarations in group files

A group file holds the text of every declaration, in order, with an empty line between neighbours. In a plain group a
declaration gets the export mark and the final line feed that it lacks (`Exports`). In a wrapped group its heading
takes member form (`Rewrites`) and its lines are indented; taking the indent off gives the members back. No line is
lost or added on the way, unless the substitution or the heading changes the line feeds of a declaration
(`group_keeps_declarations`).
-/

namespace Cleave

/-- Two texts have the same number of line feeds, and both of them end with one or neither does. -/
def Text.SameFeeds (t u : Text) : Prop :=
  u.count '\n' = t.count '\n' ∧ (u.getLast? = some '\n' ↔ t.getLast? = some '\n')

instance (t u : Text) : Decidable (t.SameFeeds u) :=
  inferInstanceAs (Decidable (_ ∧ (_ ↔ _)))

/-- `u` is the text `t` with the export mark before it, exactly if there is a mark that `t` does not start with, and
with a line feed after it, exactly if `t` does not end with one. -/
def Renderer.Exports (r : Renderer) (t u : Text) : Prop :=
  ∃ lead tail, u = lead ++ t ++ tail ∧
    ((lead = [] ∧ ∀ mark, r.exportMark = some mark → mark <+: t) ∨ (r.exportMark = some lead ∧ ¬lead <+: t)) ∧
    ((tail = [] ∧ t.getLast? = some '\n') ∨ (tail = ['\n'] ∧ t.getLast? ≠ some '\n'))

/-- `u` is the text `t` with its heading in member form, exactly if `t` starts with the heading that is replaced. -/
def Wrapper.Rewrites (w : Wrapper) (t u : Text) : Prop :=
  (∃ heading rest, w.memberFrom = some heading ∧ t = heading ++ rest ∧ u = w.memberTo ++ rest) ∨
    ((∀ heading, w.memberFrom = some heading → ¬heading <+: t) ∧ u = t)

namespace Text

theorem dropStart?_eq_some {start t rest : Text} : dropStart? start t = some rest ↔ t = start ++ rest := by
  induction start generalizing t with
  | nil => simp [dropStart?]
  | cons s start ih =>
    cases t with
    | nil => simp [dropStart?]
    | cons c r =>
      rw [dropStart?]
      split
      · rename_i same
        rw [ih, same, List.cons_append, List.cons_inj_right]
      · rename_i other
        refine ⟨fun none => by simp at none, fun cut => ?_⟩
        exact absurd (List.cons_eq_cons.mp cut).1.symm other

theorem dropStart?_eq_none {start t : Text} : dropStart? start t = none ↔ ¬start <+: t := by
  rw [Option.eq_none_iff_forall_ne_some]
  refine ⟨fun none => ?_, fun other rest found => other ?_⟩
  · rintro ⟨rest, rfl⟩
    exact none rest (dropStart?_eq_some.mpr rfl)
  · rw [dropStart?_eq_some] at found
    exact ⟨rest, found.symm⟩

/-- Texts with the same line feeds have the same number of lines, if the first is not empty. -/
theorem SameFeeds.length_lines {t u : Text} (same : t.SameFeeds u) (filled : t ≠ []) :
    (lines (terminated u)).length = (lines t).length := by
  rw [length_lines_of_ne_nil filled, length_lines_terminated, length_lines_terminated, same.1]
  simp only [same.2]

end Text

theorem Wrapper.member_rewrites (w : Wrapper) (t : Text) : w.Rewrites t (w.member t) := by
  rw [member]
  cases given : w.memberFrom with
  | none => exact .inr ⟨by simp [given], rfl⟩
  | some heading =>
    rw [Option.bind_some]
    cases found : Text.dropStart? heading t with
    | some rest => exact .inl ⟨heading, rest, given, Text.dropStart?_eq_some.mp found, rfl⟩
    | none =>
      refine .inr ⟨fun other here => ?_, rfl⟩
      rw [given, Option.some.injEq] at here
      exact here ▸ Text.dropStart?_eq_none.mp found

namespace Renderer

variable {r : Renderer} {w : Wrapper}

theorem declarationText_plain (plain : r.wrapper = none) (s : Span) :
    r.declarationText s = r.missingMark (r.substitute s.text) ++ Text.terminated (r.substitute s.text) := by
  simp only [declarationText, plain]

theorem declarationText_wrapped (wrapped : r.wrapper = some w) (s : Span) :
    r.declarationText s = Text.terminated (Text.indented w.indent (w.member (r.substitute s.text))) := by
  simp only [declarationText, wrapped]

theorem exports_missingMark (r : Renderer) (t : Text) : r.Exports t (r.missingMark t ++ Text.terminated t) := by
  have mark : (r.missingMark t = [] ∧ ∀ mark, r.exportMark = some mark → mark <+: t) ∨
      (r.exportMark = some (r.missingMark t) ∧ ¬r.missingMark t <+: t) := by
    rw [missingMark]
    cases given : r.exportMark with
    | none => exact .inl ⟨rfl, by simp⟩
    | some mark =>
      dsimp only
      split
      · rename_i there
        refine .inl ⟨rfl, fun other same => ?_⟩
        exact Option.some.inj same ▸ List.isPrefixOf_iff_prefix.mp there
      · rename_i missing
        exact .inr ⟨rfl, fun there => missing (List.isPrefixOf_iff_prefix.mpr there)⟩
  by_cases feed : t.getLast? = some '\n'
  · exact ⟨_, [], by simp [Text.terminated, feed], mark, .inl ⟨rfl, feed⟩⟩
  · exact ⟨_, ['\n'], by simp [Text.terminated, feed], mark, .inr ⟨rfl, feed⟩⟩

theorem notMem_missingMark (free : ∀ mark, r.exportMark = some mark → '\n' ∉ mark) (t : Text) :
    '\n' ∉ r.missingMark t := by
  rw [missingMark]
  split
  · rename_i mark given
    split
    · simp
    · exact free mark given
  · simp

theorem endsLine_declarationText (r : Renderer) (s : Span) : Text.EndsLine (r.declarationText s) := by
  rw [declarationText]
  split
  · exact Text.endsLine_append_terminated _ _
  · exact Text.endsLine_terminated _

/-- The lines of a body are those of its declarations, and one empty line between neighbours. -/
theorem length_lines_body {spans : List Span}
    (each : ∀ s ∈ spans, (Text.lines (r.declarationText s)).length = (Text.lines s.text).length) :
    (Text.lines (r.body spans)).length =
      total (spans.map fun s => (Text.lines s.text).length) + (spans.length - 1) := by
  have ends : ∀ t ∈ spans.map r.declarationText, Text.EndsLine t :=
    List.forall_mem_map.mpr fun s _ => r.endsLine_declarationText s
  rw [body, Text.length_lines_join ends, List.map_map, List.length_map]
  congr 2
  exact List.map_congr_left each

/-- The body of a wrapped group is the text of its members, indented as a whole. -/
theorem body_wrapped (wrapped : r.wrapper = some w) (plain : '\n' ∉ w.indent) (spans : List Span) :
    r.body spans = Text.indented w.indent
      (Text.join ['\n'] ((spans.map (w.member ∘ r.substitute ∘ Span.text)).map Text.terminated)) := by
  have ends : ∀ t ∈ (spans.map (w.member ∘ r.substitute ∘ Span.text)).map Text.terminated, Text.EndsLine t :=
    List.forall_mem_map.mpr fun t _ => Text.endsLine_terminated t
  rw [body, Text.indented_join ends, List.map_map, List.map_map]
  congr 1
  refine List.map_congr_left fun s _ => ?_
  rw [declarationText_wrapped wrapped, ← Text.indented_terminated plain]
  rfl

theorem forall₂_map (f : Span → Text) {R : Span → Text → Prop} (spans : List Span) (each : ∀ s, R s (f s)) :
    List.Forall₂ R spans (spans.map f) := by
  rw [List.forall₂_map_right_iff, List.forall₂_same]
  exact fun s _ => each s

/-- Group files keep the text of their declarations, in order and with an empty line between neighbours. In a plain
group, a declaration gets the export mark and the final line feed that it lacks. In a wrapped group, taking the indent
off the lines that are not blank gives the members, which are the declarations with the heading in member form. If the
changes to every declaration keep its line feeds, the body has the lines of the declarations and the empty lines
between them. -/
theorem group_keeps_declarations (r : Renderer) (key : DomainKey) (spans : List Span) (imports : ImportSet)
    (source : Text) :
    let content := (r.group key spans imports source).content
    let top := r.importBlock imports ++ r.fill key source r.header ++ ['\n']
    let lineCount := total (spans.map fun s => (Text.lines s.text).length) + (spans.length - 1)
    (r.wrapper = none →
      ∃ pieces, List.Forall₂ (fun s u => r.Exports (r.substitute s.text) u) spans pieces ∧
        content = top ++ Text.join ['\n'] pieces ∧
        ((∀ mark, r.exportMark = some mark → '\n' ∉ mark) →
          (∀ s ∈ spans, s.text ≠ [] ∧ s.text.SameFeeds (r.substitute s.text)) →
            (Text.lines (Text.join ['\n'] pieces)).length = lineCount)) ∧
      ∀ w, r.wrapper = some w → '\n' ∉ w.indent →
        ∃ body members, content = top ++ (r.fill key source w.opening ++ ['\n']) ++ body ++ (w.closing ++ ['\n']) ∧
          (∀ l ∈ Text.lines body, Text.isBlank l = false → w.indent <+: l) ∧
          List.Forall₂ (fun s u => w.Rewrites (r.substitute s.text) u) spans members ∧
          Text.unindented w.indent body = Text.join ['\n'] (members.map Text.terminated) ∧
          ((∀ s ∈ spans, s.text ≠ [] ∧ s.text.SameFeeds (w.member (r.substitute s.text))) →
            (Text.lines body).length = lineCount) := by
  intro content top lineCount
  constructor
  · intro plain
    refine ⟨spans.map r.declarationText, ?_, ?_, fun marks feeds => length_lines_body fun s member => ?_⟩
    · refine forall₂_map _ _ fun s => ?_
      rw [declarationText_plain plain]
      exact r.exports_missingMark _
    · simp only [content, top, group, groupContent, plain, body]
    · obtain ⟨filled, same⟩ := feeds s member
      rw [declarationText_plain plain, Text.length_lines_append (notMem_missingMark marks _), same.length_lines filled]
  · intro w wrapped plain
    refine ⟨r.body spans, spans.map (w.member ∘ r.substitute ∘ Span.text), ?_, ?_, ?_, ?_, fun feeds => ?_⟩
    · simp [content, top, group, groupContent, wrapped]
    · intro l member filled
      rw [body_wrapped wrapped plain] at member
      exact Text.indent_of_mem_lines plain member filled
    · exact forall₂_map _ _ fun s => w.member_rewrites _
    · rw [body_wrapped wrapped plain, Text.unindented_indented plain]
    · refine length_lines_body fun s member => ?_
      obtain ⟨filled, same⟩ := feeds s member
      rw [declarationText_wrapped wrapped, ← Text.indented_terminated plain, Text.lines_indented plain, List.length_map]
      exact same.length_lines filled

/-- Two declarations, the second without a final line feed. -/
def sampleSpans : List Span :=
  [⟨"a".toList, 0, 2, "fn a\n \n  x\r\n".toList⟩, ⟨"b".toList, 3, 3, "export fn b".toList⟩]

/-- Members take the place of functions, indented by a blank. -/
def sampleWrapper : Wrapper where
  opening := "class \x7bDomain\x7d".toList
  closing := "end".toList
  memberFrom := some "fn ".toList
  memberTo := "def ".toList
  indent := " ".toList

theorem group_keeps_declarations_sample :
    let plain : Renderer := { exportMark := some "export ".toList }
    let wrapped : Renderer := { wrapper := some sampleWrapper }
    (∃ pieces, List.Forall₂ (fun s u => plain.Exports s.text u) sampleSpans pieces ∧
        (plain.group .misc sampleSpans {} "x".toList).content =
          "/**\n * Misc\n * Auto-generated from x\n */\n".toList ++ Text.join ['\n'] pieces ∧
        (Text.lines (Text.join ['\n'] pieces)).length = 5) ∧
      ∃ body members, List.Forall₂ (fun s u => sampleWrapper.Rewrites s.text u) sampleSpans members ∧
        Text.unindented " ".toList body = Text.join ['\n'] (members.map Text.terminated) ∧
        (wrapped.group .misc sampleSpans {} "x".toList).content =
          "/**\n * Misc\n * Auto-generated from x\n */\nclass Misc\n".toList ++ body ++ "end\n".toList ∧
        (Text.lines body).length = 5 := by
  intro plain wrapped
  constructor
  · obtain ⟨pieces, each, content, count⟩ :=
      (group_keeps_declarations plain .misc sampleSpans {} "x".toList).1 rfl
    have marks : ∀ mark, plain.exportMark = some mark → '\n' ∉ mark := by
      rintro mark ⟨⟩
      decide
    exact ⟨pieces, each, content, count marks (by decide +kernel)⟩
  · obtain ⟨body, members, content, -, each, whole, count⟩ :=
      (group_keeps_declarations wrapped .misc sampleSpans {} "x".toList).2 sampleWrapper rfl (by decide)
    exact ⟨body, members, each, whole, content, count (by decide +kernel)⟩

/-! ## Line feeds are not lines -/

/-- A renderer that replaces what a pattern matches. -/
def replacing (pattern replacement : String) : Renderer where
  substitution := (Substitution.compile pattern.toList replacement.toList).toOption

/-- The substitution keeps the number of line feeds of a declaration, and still its body has another number of lines
in a plain group without an export mark. -/
def ChangesLines (r : Renderer) (text body : Text) : Prop :=
  r.wrapper = none ∧ r.exportMark = none ∧ text ≠ [] ∧ (r.substitute text).count '\n' = text.count '\n' ∧
    (r.group .misc [⟨[], 0, 0, text⟩] {} []).content =
      r.importBlock {} ++ r.fill .misc [] r.header ++ ['\n'] ++ body ∧
    (Text.lines body).length ≠ (Text.lines text).length

instance (r : Renderer) (text body : Text) : Decidable (r.ChangesLines text body) :=
  inferInstanceAs (Decidable (_ ∧ _ ∧ _ ∧ _ ∧ _ ∧ _))

/-- A substitution that touches no line feed takes a line away if it empties the last line, and adds one if it puts
text after the last line feed. -/
theorem substitution_changes_lines :
    (replacing "b" "").ChangesLines "a\nb".toList "a\n".toList ∧
      (replacing "\\z" "b").ChangesLines "a\n".toList "a\nb\n".toList := by
  decide +kernel

end Renderer

end Cleave
