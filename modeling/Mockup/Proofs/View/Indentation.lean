import Mockup.Proofs.Snapshot.Hidden
import Mockup.Proofs.Text.Indentation
import Mockup.Proofs.View.Sheets

/-!
# Indentation of composed nodes

The parts of a node stand in its text at their indentation, which the nodes around it add to. A
composed node is a text that can be indented by steps, as long as no name that is written into a
comment breaks the line.
-/

namespace Mockup

open Text (Shows Steady Tidy indent lines)

private theorem Composition.Composed.tidy {config : Config} {parent : Option Node} {s : Snapshot}
    {before after : ModelState} {text : String} (h : Composed config parent s before text after)
    (hne : text ≠ "") (hnames : ∀ v ∈ s.preorder, v.NamedOnOneLine) : Tidy text := by
  have hfit : ∀ v ∈ s.visible config, v.NamesFit False config :=
    fun v hv => ⟨hnames v ((s.splits_preorder config).sublist.subset hv), False.elim⟩
  exact (h.sheet hfit).elim (fun hhidden => absurd hhidden.2 hne) Swift.Sheet.tidy

/-- Indentation is additive where a text has no carriage return and ends visibly: it moves each
visible line and empties the others. All composed nodes that are not omitted are such texts, and do
not end with a line break. -/
theorem Composition.indent_additive :
    (∀ t : String, Steady t →
      (∀ a b, indent a (indent b t) = indent (a + b) t) ∧
      ∀ width,
        (lines (indent width t).toList).length = (lines t.toList).length ∧
        lines (indent width t).toList = (lines t.toList).map fun line =>
          if Shows line then List.replicate width ' ' ++ line else []) ∧
    ∀ (config : Config) (parent : Option Node) (s : Snapshot) (p : Progress) (text : String),
      (exec (node config parent s) p).1 = .ok text → text ≠ "" →
        (∀ v ∈ s.preorder, v.NamedOnOneLine) →
          Steady text ∧ text.toList.getLast? ≠ some '\n' := by
  refine ⟨fun t ht => ⟨ht.indent_indent, fun width => ?lines⟩, ?composed⟩
  case lines =>
    rw [ht.lines_indent]
    exact ⟨List.length_map _,
      List.map_congr_left fun line _ => Text.indentLine_eq width line⟩
  case composed =>
    intro config parent s p text h hne hnames
    have hcomposed :
        Composed config parent s p.state text (exec (node config parent s) p).2.state :=
      ⟨p, _, Prod.ext h rfl, rfl, rfl⟩
    have htidy := hcomposed.tidy hne hnames
    exact ⟨Text.steady_of_tidy htidy, Text.getLast?_of_tidy htidy⟩

end Mockup
