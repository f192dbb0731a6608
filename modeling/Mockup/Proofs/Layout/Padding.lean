import Mathlib
import Mockup.Proofs.Layout.Modifier

/-!
# What padding modifiers say

Whatever form the modifiers of a padding have, they set each edge with a positive padding once, and
no other.
-/

namespace Mockup

/-- Equal numbers are the same, unless neither is positive: only the two zeros are equal and not the
same. -/
theorem Decimal.eq_or_not_pos_of_beq {x y : Float} (h : (x == y) = true) :
    x = y ∨ (¬ 0 < x ∧ ¬ 0 < y) := by
  obtain ⟨-, -, hsame | ⟨rfl, rfl⟩ | ⟨rfl, rfl⟩⟩ := Float.beq_iff_ne_nan_and_eq.1 h
  · exact Or.inl hsame
  · right
    decide
  · right
    decide

namespace Padding

def side (p : Padding) : Edge → Float
  | .leading => p.left
  | .trailing => p.right
  | .top => p.top
  | .bottom => p.bottom

/-- A modifier for each edge on its own. -/
def independent (p : Padding) : List PaddingModifier :=
  (Edge.all.map fun e => modifier? e.alone (p.side e)).filterMap id

/-- Those of the edges that have a positive padding, each with its spacing. -/
def settings (p : Padding) (es : List Edge) : List (Edge × Spacing) :=
  (es.filter (0 < p.side ·)).map fun e => (e, .ofLength (p.side e))

variable {p : Padding}

private theorem settings_append (es fs : List Edge) :
    p.settings (es ++ fs) = p.settings es ++ p.settings fs := by
  simp [settings]

theorem settings_modifier? {edges : EdgeSet} {value : Float}
    (h : ∀ e ∈ edges.edges, value = p.side e ∨ (¬ 0 < value ∧ ¬ 0 < p.side e)) :
    (modifier? edges value).toList.flatMap PaddingModifier.settings = p.settings edges.edges := by
  by_cases hvalue : 0 < value
  · have hside : ∀ e ∈ edges.edges, p.side e = value := by
      intro e he
      exact ((h e he).resolve_right fun hnone => hnone.1 hvalue).symm
    have hall : edges.edges.filter (0 < p.side ·) = edges.edges := by
      apply List.filter_eq_self.2
      intro e he
      simpa [hside e he] using hvalue
    rw [modifier?, if_pos hvalue, settings, hall]
    simp only [Option.toList_some, List.flatMap_singleton, PaddingModifier.settings]
    apply List.map_congr_left
    intro e he
    rw [hside e he]
  · have hnone : edges.edges.filter (0 < p.side ·) = [] := by
      apply List.filter_eq_nil_iff.2
      intro e he
      rcases h e he with hside | hside
      · simpa [← hside] using hvalue
      · simpa using hside.2
    rw [modifier?, if_neg hvalue, settings, hnone]
    rfl

private theorem settings_filterMap (found : List (Option PaddingModifier)) :
    (found.filterMap id).flatMap PaddingModifier.settings =
      found.flatMap fun m => m.toList.flatMap PaddingModifier.settings := by
  induction found with
  | nil => rfl
  | cons m found ih =>
    cases m with
    | none => exact ih
    | some m => exact congrArg₂ List.append (List.append_nil _).symm ih

private theorem settings_alone (e : Edge) :
    (modifier? e.alone (p.side e)).toList.flatMap PaddingModifier.settings = p.settings [e] := by
  have hedges : e.alone.edges = [e] := by cases e <;> rfl
  rw [settings_modifier?, hedges]
  intro f hf
  rw [hedges, List.mem_singleton] at hf
  rw [hf]
  exact Or.inl rfl

private theorem settings_independent :
    p.independent.flatMap PaddingModifier.settings = p.settings Edge.all := by
  rw [independent, settings_filterMap, List.flatMap_map]
  simp only [settings_alone]
  induction Edge.all with
  | nil => rfl
  | cons e es ih => rw [List.flatMap_cons, ih, ← settings_append, List.singleton_append]

/-- In whichever form the modifiers of a padding are, they set the edges with a positive padding. -/
theorem settings_modifiers :
    p.modifiers.flatMap PaddingModifier.settings = p.settings Edge.all := by
  rw [modifiers, settings_filterMap]
  split
  · next huniform =>
    simp only [isUniform, Bool.and_eq_true] at huniform
    obtain ⟨⟨hright, htop⟩, hbottom⟩ := huniform
    rw [List.flatMap_singleton, settings_modifier?]
    · rfl
    · intro e _
      cases e with
      | leading => exact Or.inl rfl
      | trailing => exact Decimal.eq_or_not_pos_of_beq hright
      | top => exact Decimal.eq_or_not_pos_of_beq htop
      | bottom => exact Decimal.eq_or_not_pos_of_beq hbottom
  · split
    · next hsymmetric =>
      simp only [isSymmetric, Bool.and_eq_true] at hsymmetric
      obtain ⟨hright, hbottom⟩ := hsymmetric
      have hpairs : Edge.all = EdgeSet.horizontal.edges ++ EdgeSet.vertical.edges := rfl
      rw [List.flatMap_cons, List.flatMap_singleton, settings_modifier?, settings_modifier?, hpairs,
        settings_append]
      · rw [EdgeSet.edges, List.forall_mem_cons, List.forall_mem_singleton]
        exact ⟨Or.inl rfl, Decimal.eq_or_not_pos_of_beq hbottom⟩
      · rw [EdgeSet.edges, List.forall_mem_cons, List.forall_mem_singleton]
        exact ⟨Or.inl rfl, Decimal.eq_or_not_pos_of_beq hright⟩
    · rw [← settings_filterMap]
      exact settings_independent

private theorem exists_of_mem_independent {m : PaddingModifier} (h : m ∈ p.independent) :
    ∃ edges value, m = ⟨edges, .ofLength value⟩ := by
  obtain ⟨found, hfound, hm⟩ := List.mem_filterMap.1 h
  obtain ⟨e, -, rfl⟩ := List.mem_map.1 hfound
  exact ⟨e.alone, p.side e, eq_of_modifier? hm⟩

end Padding

/-- The padding modifiers of a node denote its padding: they set each edge with a positive padding
to the spacing of that padding, once, and no other edge, as modifiers for each edge on its own
do. -/
theorem Node.paddings_denote (n : Node) (parent : Option Node) :
    let p := n.layout.padding
    ∃ set : List (Edge × String),
      Swift.readPaddings? ((Arrangement.of n parent).padding.map PaddingModifier.text) =
        some set ∧
      Swift.readPaddings? (p.independent.map PaddingModifier.text) = some set ∧
      (set.map Prod.fst).Nodup ∧
      (∀ e, e ∈ set.map Prod.fst ↔ 0 < p.side e) ∧
      ∀ e amount, (e, amount) ∈ set → amount = (Spacing.ofLength (p.side e)).display := by
  intro p
  have hset : (p.settings Edge.all).map (fun setting => (setting.1, setting.2.display)) =
      (Edge.all.filter (0 < p.side ·)).map fun e => (e, (Spacing.ofLength (p.side e)).display) := by
    rw [Padding.settings, List.map_map]
    rfl
  refine ⟨(Edge.all.filter (0 < p.side ·)).map fun e =>
    (e, (Spacing.ofLength (p.side e)).display), ?_, ?_, ?_, ?_, ?_⟩
  · rw [← hset, ← Padding.settings_modifiers]
    apply Swift.readPaddings?_text
    intro m hm
    obtain ⟨edges, value, rfl⟩ := Padding.exists_of_mem_modifiers hm
    exact Spacing.comma_notMem_ofLength value
  · rw [← hset, ← Padding.settings_independent]
    apply Swift.readPaddings?_text
    intro m hm
    obtain ⟨edges, value, rfl⟩ := Padding.exists_of_mem_independent hm
    exact Spacing.comma_notMem_ofLength value
  · rw [List.map_map]
    exact (List.map_id _).symm ▸ Edge.nodup_all.filter _
  · intro e
    simp [Edge.mem_all]
  · intro e amount hmem
    obtain ⟨f, -, hf⟩ := List.mem_map.1 hmem
    cases hf
    rfl

end Mockup
