import Mockup.Proofs.Swift.Marks
import Mockup.Proofs.View.Composed
import Mockup.Proofs.View.Fragments

/-!
# Marks of a view

Every node that is not left out leaves marks in its view, and which ones does not depend on the
state that it is composed from.
-/

namespace Mockup

open Swift

namespace Widget

variable {s : Snapshot} {text : String}

theorem marks_inputField (s : Snapshot) (state other : ModelState) :
    marks (inputField s (fieldBinding s state)) = marks (inputField s (fieldBinding s other)) := by
  have hbinding (state : ModelState) : marks (fieldBinding s state) = [] :=
    marks_name (isNameChar_of_mem_fieldBinding s state)
  rw [inputField, inputField]
  apply marks_call_congr
  simp only [List.map_cons, marks_append, hbinding]

private theorem marks_fragment (kind : ComponentKind) (s : Snapshot) (parent : Option Node)
    (state other : ModelState) :
    (fragment kind s parent state).map marks = (fragment kind s parent other).map marks := by
  cases kind with
  | inputField => exact congrArg Except.ok (marks_inputField s state other)
  | _ => rfl

private theorem opens_namedIcon (name : String) : Opens (namedIcon name) := by
  have hfront : Opens "Icon(imageName: ." := by decide
  exact (hfront.append _).append _

private theorem opens_picture (name : String) : Opens (picture name) := by
  have hfront : Opens "Image(veloAsset: ." := by decide
  exact (hfront.append _).append _

private theorem opens_button (s : Snapshot) (parent : Option Node) : Opens (button s parent) := by
  rw [button]
  split
  · decide
  · exact (((opens_call _ _).append _).append _).append _

theorem opens_fragment {kind : ComponentKind} {parent : Option Node} {state : ModelState}
    (h : fragment kind s parent state = .ok text) : Opens text := by
  have hrow : Opens "ListRow(itemViewModel: " := by decide
  have hbadge : Opens "BadgeView(text: " := by decide
  have hcheckbox : Opens "CheckboxView(isChecked: $viewModel.isChecked, text: " := by decide
  have hdivider : Opens "Separator().padding(.vertical, .xs)" := by decide
  have hcontainer : Opens "Text(" := by decide
  rw [fragment.eq_def] at h
  cases kind with
  | listRow =>
    obtain ⟨item, -, rfl⟩ := map_eq_ok_iff.1 h
    exact (hrow.append _).append _
  | button =>
    cases h
    exact opens_button s parent
  | badge =>
    cases h
    exact (hbadge.append _).append _
  | segmentedControl =>
    cases h
    exact (((opens_call _ _).append _).append _).append _
  | inputField =>
    cases h
    exact opens_call _ _
  | checkbox =>
    cases h
    exact (hcheckbox.append _).append _
  | icon =>
    have h : icon s = .ok text := h
    rw [icon] at h
    split at h
    · cases h
      exact opens_namedIcon _
    · cases h
  | image =>
    cases h
    exact opens_picture _
  | divider =>
    cases h
    exact hdivider
  | leadingItem | trailingItem =>
    obtain ⟨item, -, rfl⟩ := map_eq_ok_iff.1 h
    exact opens_namedIcon item
  | container =>
    cases h
    exact (hcontainer.append _).append _

end Widget

namespace Snapshot

theorem marks_groupFragment (name : String) (parts : List String) :
    marks (groupFragment name parts) =
      marks ("VStack(spacing: .md) /* " ++ name ++ " */") ++
        '\x7b' :: ((parts.map marks).flatten ++ ['\x7d']) :=
  marks_block _ parts

theorem marks_frameFragment_congr (s : Snapshot) (parent : Option Node) {parts others : List String}
    (h : parts.map marks = others.map marks) :
    marks (s.frameFragment parent parts) = marks (s.frameFragment parent others) := by
  have hblock (opener : String) {parts others : List String}
      (h : parts.map marks = others.map marks) :
      marks (Fragment.block opener parts) = marks (Fragment.block opener others) := by
    rw [marks_block, marks_block, h]
  have hspread :
      (if s.node.spreadsChildren parent then parts.intersperse "Spacer()" else parts).map marks =
        (if s.node.spreadsChildren parent then others.intersperse "Spacer()" else others).map
          marks := by
    split
    · rw [map_intersperse, map_intersperse, h]
    · exact h
  simp only [frameFragment]
  split
  · exact hblock _ hspread
  · rw [marks_append, marks_append, marks_append, marks_append]
    congr 2
    split
    · apply hblock
      rw [List.map_singleton, List.map_singleton, hblock _ hspread]
    · exact hblock _ hspread

private theorem marks_leafFragment_ne_nil {s : Snapshot} {parent : Option Node} {text : String}
    (h : s.leafFragment? parent = some text) : marks text ≠ [] := by
  have htext : Opens "Text(" := by decide
  have hrectangle : Opens "Rectangle().fill(" := by decide
  have hcircle : Opens "Circle().fill(" := by decide
  have hline : Opens "Separator()" := by decide
  rw [leafFragment?] at h
  cases hk : s.node.kind with
  | frame | group | componentInstance =>
    rw [hk] at h
    cases h
  | text =>
    simp only [hk, Option.some.injEq] at h
    rw [← h, textFragment, List.append_assoc, List.append_assoc, List.singleton_append]
    exact (((htext.append _).append _).intercalate _ _).marks_ne_nil
  | rectangle =>
    simp only [hk, Option.some.injEq] at h
    rw [← h]
    exact ((hrectangle.append _).append _).marks_ne_nil
  | ellipse | vector =>
    simp only [hk, Option.some.injEq] at h
    rw [← h]
    exact ((hcircle.append _).append _).marks_ne_nil
  | line =>
    simp only [hk, Option.some.injEq] at h
    rw [← h]
    exact hline.marks_ne_nil
  | other kind =>
    have hslash : '/' ∈ "// Unhandled node type: ".toList := by decide
    simp only [hk, Option.some.injEq] at h
    rw [← h]
    apply marks_ne_nil '/'
    · rw [String.toList_append]
      exact List.mem_append_left _ hslash
    · decide

end Snapshot

namespace Composition

private theorem map_marks_congr {r t : Except WidgetFault (List String)} {f : List String → String}
    (hf : ∀ parts others, parts.map marks = others.map marks → marks (f parts) = marks (f others))
    (h : r.map (List.map marks) = t.map (List.map marks)) :
    (r.map f).map marks = (t.map f).map marks := by
  cases r with
  | error fault =>
    cases t with
    | error fault' =>
      cases h
      rfl
    | ok others => cases h
  | ok parts =>
    cases t with
    | error fault => cases h
    | ok others => exact congrArg Except.ok (hf parts others (Except.ok.inj h))

/-- The marks of nodes in turn do not depend on the state. -/
theorem marks_nodes {config : Config} {parent : Node} (leavesOut : String → Bool)
    {cs : List Snapshot} (h : ∀ c ∈ cs, ∀ p q : Progress,
      (exec (node config (some parent) c) p).1.map marks =
        (exec (node config (some parent) c) q).1.map marks) (p q : Progress) :
    (exec (nodes config parent leavesOut cs) p).1.map (List.map marks) =
      (exec (nodes config parent leavesOut cs) q).1.map (List.map marks) := by
  induction cs generalizing p q with
  | nil => rfl
  | cons c cs ih =>
    rw [List.forall_mem_cons] at h
    rw [exec_nodes_cons, exec_nodes_cons]
    by_cases hc : leavesOut c.name = true
    · rw [if_pos hc, if_pos hc]
      exact ih h.2 p q
    · rw [if_neg hc, if_neg hc]
      have hfirst := h.1 p q
      have hrest (text : String) (p : Progress) :
          ((exec (nodes config parent leavesOut cs) p).1.map (text :: ·)).map (List.map marks) =
            ((exec (nodes config parent leavesOut cs) p).1.map (List.map marks)).map
              (marks text :: ·) := by
        rw [except_map_map, except_map_map]
        rfl
      rcases hleft : exec (node config (some parent) c) p with ⟨fault | text, p⟩
      · rcases hright : exec (node config (some parent) c) q with ⟨fault' | other, q⟩
        · rw [hleft, hright] at hfirst
          cases hfirst
          rfl
        · rw [hleft, hright] at hfirst
          cases hfirst
      · rcases hright : exec (node config (some parent) c) q with ⟨fault' | other, q⟩
        · rw [hleft, hright] at hfirst
          cases hfirst
        · rw [hleft, hright] at hfirst
          simp only [hrest]
          rw [ih h.2 p q, show marks text = marks other from Except.ok.inj hfirst]

/-- The marks of a node do not depend on the state that it is composed from. -/
theorem marks_node (config : Config) (parent : Option Node) (s : Snapshot) (p q : Progress) :
    (exec (node config parent s) p).1.map marks = (exec (node config parent s) q).1.map marks := by
  induction s using Snapshot.induct generalizing parent p q with
  | step s ih =>
    have hparts (leavesOut : String → Bool) (p q : Progress) :=
      marks_nodes leavesOut (fun c hc => ih c hc (some s.node)) p q
    rw [exec_node, exec_node]
    cases hk : s.node.kind with
    | frame =>
      by_cases ho : config.omits s.name = true
      · simp only [if_pos ho]
      · simp only [if_neg ho]
        exact map_marks_congr (fun _ _ => s.marks_frameFragment_congr parent) (hparts _ _ _)
    | group =>
      apply map_marks_congr
      · intro parts others h
        rw [Snapshot.marks_groupFragment, Snapshot.marks_groupFragment, h]
      · exact hparts _ _ _
    | componentInstance =>
      simp only [exec_widget, Progress.add_state]
      exact Widget.marks_fragment _ s parent p.state q.state
    | _ => rfl

/-- A node that is no frame leaves a mark. -/
theorem Composed.marks_ne_nil {config : Config} {parent : Option Node} {s : Snapshot}
    {before after : ModelState} {text : String} (h : Composed config parent s before text after)
    (hs : s.node.kind ≠ .frame) : marks text ≠ [] := by
  refine Composed.induct (motive := fun _ s _ text _ => s.node.kind ≠ .frame → marks text ≠ [])
    ?omitted ?frame ?group ?widget ?leaf h hs
  case omitted =>
    intro parent s state hk _ hs
    exact absurd hk hs
  case frame =>
    intro parent s before parts after hk _ _ hs
    exact absurd hk hs
  case group =>
    intro parent s before parts after _ _ _
    rw [Snapshot.marks_groupFragment]
    simp
  case widget =>
    intro parent s state text _ hfragment _
    exact (Widget.opens_fragment hfragment).marks_ne_nil
  case leaf =>
    intro parent s state text hleaf _
    exact Snapshot.marks_leafFragment_ne_nil hleaf

end Composition

end Mockup
