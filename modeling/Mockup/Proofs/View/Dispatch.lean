import Mockup.Proofs.View.Composed

/-!
# Widgets of a view

The instances that a composition makes widgets of, as a log of its own walk: with the log the
composition runs as without it, and when it succeeds the log holds the visible instances.
-/

namespace Mockup

/-- The visible instances of a snapshot with their kinds of widget. -/
def Snapshot.visibleWidgets (s : Snapshot) (config : Config) : List (Snapshot × ComponentKind) :=
  (s.visibleInstances config).map fun i => (i, i.widgetKind config.components)

namespace Composition

section

variable {m : Type → Type} [Monad m]

/-- What is done on a walk through a snapshot. -/
structure Visitor (m : Type → Type) where
  report : Event → m Unit
  /-- Makes the text of an instance of a kind. -/
  dispatch : Option Node → Snapshot → ComponentKind → m String

mutual

/-- The walk of a composition, whatever is done on it. -/
def walk (visitor : Visitor m) (config : Config) (parent : Option Node) : Snapshot → m String
  | s@⟨n, _, _, _, _, _, _, children⟩ => do
    visitor.report (.entered n.kind n.name)
    match n.kind with
    | .frame =>
      if config.omits n.name then
        visitor.report (.skipped n.name)
        return ""
      else
        visitor.report (.aligned n.name (n.rowRole parent))
        return s.frameFragment parent (← walkAmong visitor config n config.omits children)
    | .group =>
      return Snapshot.groupFragment n.name
        (← walkAmong visitor config n (fun _ => false) children)
    | .componentInstance => visitor.dispatch parent s (s.widgetKind config.components)
    | .text => return s.textFragment parent
    | .rectangle => return s.shapeFragment "Rectangle"
    | .ellipse | .vector => return s.shapeFragment "Circle"
    | .line => return "Separator()"
    | .other kind =>
      visitor.report (.unhandled kind n.name)
      return "// Unhandled node type: " ++ kind

def walkAmong (visitor : Visitor m) (config : Config) (parent : Node) (leavesOut : String → Bool) :
    List Snapshot → m (List String)
  | [] => return []
  | s :: rest => do
    if leavesOut s.name then walkAmong visitor config parent leavesOut rest
    else
      return (← walk visitor config (some parent) s) ::
        (← walkAmong visitor config parent leavesOut rest)

end

/-- A visitor that also writes down the instances that it makes texts of, with their kinds. -/
def Visitor.logged (visitor : Visitor m) :
    Visitor (StateT (List (Snapshot × ComponentKind)) m) where
  report event := StateT.lift (visitor.report event)
  dispatch parent s kind := do
    modify (· ++ [(s, kind)])
    StateT.lift (visitor.dispatch parent s kind)

end

/-- The text of an instance as a widget of a kind. -/
def dispatch (parent : Option Node) (s : Snapshot) (kind : ComponentKind) :
    Composition String := do
  report (.classified s.name kind)
  let before := (← get).state
  modify fun p => { p with state := Widget.record kind s p.state }
  match Widget.fragment kind s parent before with
  | .ok text => return text
  | .error fault => throw fault

def composing : Visitor Composition := ⟨report, dispatch⟩

mutual

/-- A composition is its walk. -/
theorem walk_composing (config : Config) (parent : Option Node) :
    (s : Snapshot) → walk composing config parent s = node config parent s
  | ⟨n, _, _, _, _, _, _, children⟩ => by
    rw [walk, node]
    simp only [walkAmong_composing]
    rfl

theorem walkAmong_composing (config : Config) (parent : Node) (leavesOut : String → Bool) :
    (cs : List Snapshot) →
      walkAmong composing config parent leavesOut cs = nodes config parent leavesOut cs
  | [] => rfl
  | c :: cs => by
    rw [walkAmong, nodes, walk_composing, walkAmong_composing]

end

section

variable {m : Type → Type} [Monad m] {δ α β : Type}

/-- A computation with a log runs as another one does, and appends to its log. -/
def Logs (x : StateT (List δ) m α) (y : m α) (written : List δ) : Prop :=
  ∀ log, x.run log = y >>= fun a => pure (a, log ++ written)

private theorem Logs.lift (y : m α) : Logs (StateT.lift y : StateT (List δ) m α) y [] := by
  intro log
  rw [StateT.run_lift, List.append_nil]

variable [LawfulMonad m]

private theorem Logs.pure (a : α) : Logs (Pure.pure a : StateT (List δ) m α) (Pure.pure a) [] := by
  intro log
  rw [StateT.run_pure, pure_bind, List.append_nil]

private theorem Logs.bind {x : StateT (List δ) m α} {y : m α} {f : α → StateT (List δ) m β}
    {g : α → m β} {written more : List δ} (h : Logs x y written)
    (hf : ∀ a, Logs (f a) (g a) more) : Logs (x >>= f) (y >>= g) (written ++ more) := by
  intro log
  rw [StateT.run_bind, h, bind_assoc, bind_assoc]
  apply bind_congr
  intro a
  rw [pure_bind, hf, List.append_assoc]

theorem Logs.map {x : StateT (List δ) m α} {y : m α} {written : List δ} (h : Logs x y written)
    (f : α → β) :
    Logs (x >>= fun a => Pure.pure (f a)) (y >>= fun a => Pure.pure (f a)) written := by
  rw [← List.append_nil written]
  exact h.bind fun a => .pure (f a)

theorem Logs.after {x : m α} {f : α → StateT (List δ) m β} {g : α → m β} {written : List δ}
    (hf : ∀ a, Logs (f a) (g a) written) : Logs (StateT.lift x >>= f) (x >>= g) written :=
  (Logs.lift x).bind hf

private theorem Logs.write (entry : δ) {x : StateT (List δ) m α} {y : m α} (h : Logs x y []) :
    Logs (modify (· ++ [entry]) >>= fun _ => x) y [entry] := by
  intro log
  rw [StateT.run_bind, StateT.run_modify, pure_bind, h, List.append_nil]

end

private theorem logs_walkAmong {config : Config} {parent : Node} (leavesOut : String → Bool)
    {cs : List Snapshot} (h : ∀ c ∈ cs, Logs (walk composing.logged config (some parent) c)
      (walk composing config (some parent) c) (c.visibleWidgets config)) :
    Logs (walkAmong composing.logged config parent leavesOut cs)
      (walkAmong composing config parent leavesOut cs)
      ((cs.filter (!leavesOut ·.name)).flatMap (Snapshot.visibleWidgets · config)) := by
  induction cs with
  | nil => exact .pure []
  | cons c cs ih =>
    rw [List.forall_mem_cons] at h
    rw [walkAmong, walkAmong]
    by_cases hc : leavesOut c.name = true
    · rw [if_pos hc, if_pos hc, List.filter_cons_of_neg (by simpa using hc)]
      exact ih h.2
    · rw [if_neg hc, if_neg hc, List.filter_cons_of_pos (by simpa using hc), List.flatMap_cons]
      exact h.1.bind fun text => (ih h.2).map (text :: ·)

/-- The walk with a log is the walk without it, and the log holds the visible widgets. -/
theorem logs_walk (config : Config) (parent : Option Node) (s : Snapshot) :
    Logs (walk composing.logged config parent s) (walk composing config parent s)
      (s.visibleWidgets config) := by
  induction s using Snapshot.induct generalizing parent with
  | step s ih =>
    have hleaf {text : String} (h : s.leafFragment? parent = some text) :
        s.visibleWidgets config = [] := by
      rw [Snapshot.visibleWidgets, Snapshot.visibleInstances_leaf h, List.map_nil]
    rw [Snapshot.leafFragment?] at hleaf
    obtain ⟨n, component, fillStyle, cornerStyle, textStyle, fillVariable, swaps, children⟩ := s
    rw [walk, walk]
    apply Logs.after
    intro _
    cases hk : n.kind with
    | frame =>
      by_cases ho : config.omits n.name = true
      · rw [Snapshot.visibleWidgets, Snapshot.visibleInstances_omitted hk ho]
        simp only [ho, if_true]
        exact .after fun _ => .pure ""
      · have hshown : config.omits n.name = false := by simpa using ho
        rw [Snapshot.visibleWidgets, Snapshot.visibleInstances_frame hk hshown, List.map_flatMap]
        simp only [hshown]
        apply Logs.after
        intro _
        apply Logs.map
        exact logs_walkAmong config.omits fun c hc => ih c hc (some n)
    | group =>
      rw [Snapshot.visibleWidgets, Snapshot.visibleInstances_group hk, List.map_flatMap]
      have hparts := logs_walkAmong (fun _ => false) fun c hc => ih c hc (some n)
      rw [Snapshot.filter_leavingNone] at hparts
      exact hparts.map _
    | componentInstance =>
      rw [Snapshot.visibleWidgets, Snapshot.visibleInstances_instance hk]
      exact .write _ (.lift _)
    | other kind =>
      rw [hleaf (by rw [hk])]
      exact .after fun _ => .pure _
    | _ =>
      rw [hleaf (by rw [hk])]
      exact .pure _

end Composition

namespace Composer

/-- The instances that a composer makes widgets of, one after the other, with their kinds. -/
def dispatched (c : Composer) (s : Snapshot) :
    Except WidgetFault (List (Snapshot × ComponentKind)) :=
  let walk := (Composition.walk Composition.composing.logged c.config none s).run []
  (Composition.exec walk { state := c.state.reset }).1.map (·.2)

theorem dispatched_eq (c : Composer) (s : Snapshot) :
    c.dispatched s = (c.compose s).1.map fun _ => s.visibleWidgets c.config := by
  rw [dispatched, Composition.logs_walk c.config none s [], Composition.walk_composing,
    Composition.exec_bind_pure]
  change ((c.compose s).1.map _).map _ = _
  cases (c.compose s).1 <;> rfl

end Composer

end Mockup
