import Mockup.Proofs.Node.Tree
import Mockup.Proofs.View.Composed

/-!
# Faults of a composed view

A composition fails exactly when a visible instance lacks a part, and with the fault of the first
one that does.
-/

namespace Mockup

/-- A list item that does not tell what it shows: it has no type, or a type whose picture is a
child that is not there. -/
def Node.BadItem (n : Node) : Prop :=
  match n.properties.get? "Type" with
  | none => True
  | some property =>
    (property.value.display = "Button" ∧ ∀ c ∈ n.children.head?, c.children = []) ∨
    (property.value.display = "Icon" ∧ n.children = [])

private theorem Node.badItem_iff (n : Node) : n.BadItem ↔ (faultOf? n.itemName).isSome := by
  rw [BadItem, itemName]
  cases n.properties.get? "Type" with
  | none => simp [faultOf?]
  | some property =>
    dsimp only
    split
    · next h =>
      rw [h]
      cases n.children with
      | nil => simp [faultOf?]
      | cons c cs => cases hc : c.children <;> simp [hc, faultOf?]
    · next h =>
      rw [h]
      cases n.children <;> simp [faultOf?]
    · next hb hi =>
      simp only [faultOf?, Option.isSome_none, Bool.false_eq_true, iff_false, not_or]
      exact ⟨fun h => hb h.1, fun h => hi h.1⟩

namespace Snapshot

/-- An instance that lacks a part of its widget: an icon without a picture, or a bad list item,
which in a row is the first descendant of that name. -/
def Faulty (config : Config) (s : Snapshot) : Prop :=
  match s.widgetKind config.components with
  | .icon => s.node.children = []
  | .leadingItem | .trailingItem => s.node.BadItem
  | .listRow => ∃ item, s.node.descendants.find? (·.name == "Leading Item") = some item ∧
      item.BadItem
  | _ => False

/-- What an instance lacks. -/
def fault? (config : Config) (s : Snapshot) : Option WidgetFault :=
  faultOf? (Widget.fragment (s.widgetKind config.components) s none default)

/-- What an instance lacks depends neither on its place nor on the state before it. -/
theorem faultOf?_fragment (config : Config) (s : Snapshot) (parent : Option Node)
    (state : ModelState) :
    faultOf? (Widget.fragment (s.widgetKind config.components) s parent state) =
      s.fault? config := by
  rw [fault?, Widget.fragment.eq_def, Widget.fragment.eq_def]
  cases s.widgetKind config.components <;> simp only [faultOf?]

theorem faulty_iff (config : Config) (s : Snapshot) :
    s.Faulty config ↔ (s.fault? config).isSome := by
  rw [Faulty, fault?, Widget.fragment.eq_def]
  cases s.widgetKind config.components with
  | listRow =>
    simp only [Widget.listRow, Widget.rowItem, faultOf?_map, Node.firstBelow?_eq_find?]
    cases s.node.descendants.find? (·.name == "Leading Item") with
    | none => simp [faultOf?]
    | some item => simp [Node.badItem_iff]
  | icon =>
    simp only [Widget.icon]
    cases s.node.children <;> simp [faultOf?]
  | leadingItem => simp only [Widget.itemIcon, faultOf?_map, Node.badItem_iff]
  | trailingItem => simp only [Widget.itemIcon, faultOf?_map, Node.badItem_iff]
  | _ => simp [faultOf?]

end Snapshot

namespace Composition

private theorem faultOf?_exec_nodes (config : Config) (parent : Node) (leavesOut : String → Bool)
    {cs : List Snapshot}
    (h : ∀ c ∈ cs, ∀ p, faultOf? (exec (node config (some parent) c) p).1 =
      (c.visibleInstances config).findSome? (·.fault? config)) (p : Progress) :
    faultOf? (exec (nodes config parent leavesOut cs) p).1 =
      ((cs.filter (!leavesOut ·.name)).flatMap (Snapshot.visibleInstances · config)).findSome?
        (·.fault? config) := by
  induction cs generalizing p with
  | nil => rfl
  | cons c cs ih =>
    have hcs := ih fun d hd => h d (List.mem_cons_of_mem c hd)
    rw [exec_nodes_cons]
    by_cases hc : leavesOut c.name = true
    · rw [if_pos hc, List.filter_cons_of_neg (by simpa using hc)]
      exact hcs p
    · rw [if_neg hc, List.filter_cons_of_pos (by simpa using hc), List.flatMap_cons,
        List.findSome?_append, ← h c List.mem_cons_self p]
      rcases exec (node config (some parent) c) p with ⟨fault | text, q⟩
      · rfl
      · simp only [faultOf?_map, hcs q]
        rfl

/-- A composition fails with the first fault among the visible instances, and else succeeds. -/
theorem faultOf?_exec_node (config : Config) (parent : Option Node) (s : Snapshot)
    (p : Progress) :
    faultOf? (exec (node config parent s) p).1 =
      (s.visibleInstances config).findSome? (·.fault? config) := by
  induction s using Snapshot.induct generalizing parent p with
  | step s ih =>
    rw [exec_node]
    cases hk : s.node.kind with
    | frame =>
      dsimp only
      by_cases ho : config.omits s.name = true
      · rw [if_pos ho, Snapshot.visibleInstances_omitted hk ho]
        rfl
      · rw [if_neg ho, Snapshot.visibleInstances_frame hk (by simpa using ho), faultOf?_map]
        exact faultOf?_exec_nodes config s.node _ (fun c hc => ih c hc (some s.node)) _
    | group =>
      dsimp only
      rw [Snapshot.visibleInstances_group hk, faultOf?_map,
        faultOf?_exec_nodes config s.node _ (fun c hc => ih c hc (some s.node)),
        Snapshot.filter_leavingNone]
    | componentInstance =>
      dsimp only
      rw [Snapshot.visibleInstances_instance hk, exec_widget, Snapshot.faultOf?_fragment]
      cases h : s.fault? config <;> simp [h]
    | _ =>
      obtain ⟨text, hleaf⟩ : ∃ text, s.leafFragment? parent = some text :=
        ⟨_, by rw [Snapshot.leafFragment?, hk]⟩
      rw [Snapshot.visibleInstances_leaf hleaf]
      rfl

end Composition

theorem Composer.faultOf?_compose (c : Composer) (s : Snapshot) :
    faultOf? (c.compose s).1 =
      (s.visibleInstances c.config).findSome? (·.fault? c.config) :=
  Composition.faultOf?_exec_node c.config none s _

theorem Composer.compose_fails_iff (c : Composer) (s : Snapshot) :
    (∃ fault, (c.compose s).1 = .error fault) ↔
      ∃ i ∈ s.visibleInstances c.config, i.Faulty c.config := by
  simp only [← faultOf?_eq_some_iff, faultOf?_compose, ← Option.isSome_iff_exists,
    List.findSome?_isSome_iff, Snapshot.faulty_iff]

end Mockup
