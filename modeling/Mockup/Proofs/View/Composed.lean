import Mockup.Proofs.Fault
import Mockup.Proofs.Snapshot.Visible
import Mockup.View.Composition

/-!
# Composed views

What a composition makes of a node, case by case, and when it fails. The cases carry an induction,
so that what is said about a view need not look into the steps of its composition.
-/

namespace Mockup

/-- What is collected, with one more event. -/
def Progress.add (p : Progress) (event : Event) : Progress :=
  { p with events := p.events.push event }

@[simp] theorem Progress.add_state (p : Progress) (event : Event) :
    (p.add event).state = p.state := rfl

/-- The text of a node that holds no others and is no instance. -/
def Snapshot.leafFragment? (s : Snapshot) (parent : Option Node) : Option String :=
  match s.node.kind with
  | .frame | .group | .componentInstance => none
  | .text => some (s.textFragment parent)
  | .rectangle => some (s.shapeFragment "Rectangle")
  | .ellipse | .vector => some (s.shapeFragment "Circle")
  | .line => some "Separator()"
  | .other kind => some ("// Unhandled node type: " ++ kind)

theorem Snapshot.visible_leaf {s : Snapshot} {config : Config} {parent : Option Node}
    {text : String} (h : s.leafFragment? parent = some text) : s.visible config = [s] := by
  rw [leafFragment?] at h
  rw [visible_eq]
  cases hk : s.node.kind <;> simp_all

theorem Snapshot.visibleInstances_leaf {s : Snapshot} {config : Config} {parent : Option Node}
    {text : String} (h : s.leafFragment? parent = some text) : s.visibleInstances config = [] := by
  rw [visibleInstances, visible_leaf h]
  rw [leafFragment?] at h
  cases hk : s.node.kind <;> simp_all

namespace Composition

variable {α β : Type}

/-- The outcome of a composition that goes on from what is collected. -/
def exec (x : Composition α) (p : Progress) : Except WidgetFault α × Progress :=
  x.run.run p

private theorem exec_bind (x : Composition α) (f : α → Composition β) (p : Progress) :
    exec (x >>= f) p = match exec x p with
      | (.ok a, q) => exec (f a) q
      | (.error fault, q) => (.error fault, q) := by
  change (ExceptT.bindCont f (x p).1) (x p).2 = match x p with
      | (.ok a, q) => exec (f a) q
      | (.error fault, q) => (.error fault, q)
  rcases x p with ⟨_ | a, q⟩ <;> rfl

theorem exec_bind_pure (x : Composition α) (f : α → β) (p : Progress) :
    exec (x >>= fun a => pure (f a)) p = ((exec x p).1.map f, (exec x p).2) := by
  rw [exec_bind]
  rcases exec x p with ⟨_ | a, q⟩ <;> rfl

private theorem exec_report_bind (event : Event) (x : PUnit → Composition α) (p : Progress) :
    exec (report event >>= x) p = exec (x ⟨⟩) (p.add event) := rfl

theorem exec_widget (config : Config) (parent : Option Node) (s : Snapshot) (p : Progress) :
    exec (widget config parent s) p =
      (Widget.fragment (s.widgetKind config.components) s parent p.state,
        { state := Widget.record (s.widgetKind config.components) s p.state
          events := p.events.push (.classified s.name (s.widgetKind config.components)) }) := by
  have hget (p : Progress) : exec get p = (.ok p, p) := rfl
  have hmodify (f : Progress → Progress) (p : Progress) : exec (modify f) p = (.ok ⟨⟩, f p) := rfl
  rw [widget, exec_report_bind]
  simp only [exec_bind, hget, hmodify, Progress.add_state]
  cases Widget.fragment (s.widgetKind config.components) s parent p.state with
  | error fault => rfl
  | ok text => rfl

/-- The one place where the steps of a composition are looked into. -/
theorem exec_node (config : Config) (parent : Option Node) (s : Snapshot) (p : Progress) :
    exec (node config parent s) p =
      let p := p.add (.entered s.node.kind s.name)
      match s.node.kind with
      | .frame =>
        if config.omits s.name then (.ok "", p.add (.skipped s.name))
        else
          let outcome := exec (nodes config s.node config.omits s.children)
            (p.add (.aligned s.name (s.node.rowRole parent)))
          (outcome.1.map (s.frameFragment parent), outcome.2)
      | .group =>
        let outcome := exec (nodes config s.node (fun _ => false) s.children) p
        (outcome.1.map (Snapshot.groupFragment s.name), outcome.2)
      | .componentInstance => exec (widget config parent s) p
      | .text => (.ok (s.textFragment parent), p)
      | .rectangle => (.ok (s.shapeFragment "Rectangle"), p)
      | .ellipse | .vector => (.ok (s.shapeFragment "Circle"), p)
      | .line => (.ok "Separator()", p)
      | .other kind =>
        (.ok ("// Unhandled node type: " ++ kind), p.add (.unhandled kind s.name)) := by
  have hnode : node config parent s = (do
      report (.entered s.node.kind s.name)
      match s.node.kind with
      | .frame =>
        if config.omits s.name then
          report (.skipped s.name)
          return ""
        else
          report (.aligned s.name (s.node.rowRole parent))
          return s.frameFragment parent (← nodes config s.node config.omits s.children)
      | .group =>
        return Snapshot.groupFragment s.name
          (← nodes config s.node (fun _ => false) s.children)
      | .componentInstance => widget config parent s
      | .text => return s.textFragment parent
      | .rectangle => return s.shapeFragment "Rectangle"
      | .ellipse | .vector => return s.shapeFragment "Circle"
      | .line => return "Separator()"
      | .other kind =>
        report (.unhandled kind s.name)
        return "// Unhandled node type: " ++ kind) := by
    cases s
    rfl
  rw [hnode, exec_report_bind]
  cases s.node.kind with
  | frame =>
    dsimp only
    split
    · rfl
    · rw [exec_report_bind, exec_bind_pure]
  | group => exact exec_bind_pure _ _ _
  | componentInstance => rfl
  | text => rfl
  | rectangle => rfl
  | ellipse => rfl
  | vector => rfl
  | line => rfl
  | other kind => rfl

theorem exec_nodes_cons (config : Config) (parent : Node) (leavesOut : String → Bool)
    (c : Snapshot) (cs : List Snapshot) (p : Progress) :
    exec (nodes config parent leavesOut (c :: cs)) p =
      if leavesOut c.name then exec (nodes config parent leavesOut cs) p
      else match exec (node config (some parent) c) p with
        | (.error fault, q) => (.error fault, q)
        | (.ok text, q) =>
          let outcome := exec (nodes config parent leavesOut cs) q
          (outcome.1.map (text :: ·), outcome.2) := by
  rw [nodes]
  split
  · rfl
  · rw [exec_bind]
    rcases exec (node config (some parent) c) p with ⟨_ | text, q⟩
    · rfl
    · exact exec_bind_pure _ _ _

/-- Texts made of snapshots one after the other, each from the state that the one before left. -/
inductive EachInTurn (R : Snapshot → ModelState → String → ModelState → Prop) :
    List Snapshot → ModelState → List String → ModelState → Prop where
  | nil (state : ModelState) : EachInTurn R [] state [] state
  | cons {s : Snapshot} {rest : List Snapshot} {before between after : ModelState}
    {text : String} {parts : List String} (head : R s before text between)
    (tail : EachInTurn R rest between parts after) :
    EachInTurn R (s :: rest) before (text :: parts) after

theorem EachInTurn.mono {R Q : Snapshot → ModelState → String → ModelState → Prop}
    {cs : List Snapshot} {before after : ModelState} {parts : List String}
    (h : EachInTurn R cs before parts after)
    (hRQ : ∀ c ∈ cs, ∀ b t a, R c b t a → Q c b t a) : EachInTurn Q cs before parts after := by
  induction h with
  | nil state => exact .nil state
  | cons head tail ih =>
    refine .cons (hRQ _ List.mem_cons_self _ _ _ head) (ih ?_)
    intro c hc
    exact hRQ c (List.mem_cons_of_mem _ hc)

theorem EachInTurn.forall_mem {R : Snapshot → ModelState → String → ModelState → Prop}
    {motive : String → Prop} {cs : List Snapshot} {before after : ModelState}
    {parts : List String} (h : EachInTurn R cs before parts after)
    (hR : ∀ c ∈ cs, ∀ b t a, R c b t a → motive t) : ∀ t ∈ parts, motive t := by
  induction h with
  | nil state => exact List.forall_mem_nil _
  | cons head tail ih =>
    refine List.forall_mem_cons.2 ⟨hR _ List.mem_cons_self _ _ _ head, ih ?_⟩
    intro c hc
    exact hR c (List.mem_cons_of_mem _ hc)

/-- A node becomes a text, and the state before it the state after it. -/
def Composed (config : Config) (parent : Option Node) (s : Snapshot) (before : ModelState)
    (text : String) (after : ModelState) : Prop :=
  ∃ p q : Progress, exec (node config parent s) p = (.ok text, q) ∧ p.state = before ∧
    q.state = after

private theorem composedEach_of_exec {config : Config} {parent : Node} {leavesOut : String → Bool}
    {cs : List Snapshot} {p q : Progress} {parts : List String}
    (h : exec (nodes config parent leavesOut cs) p = (.ok parts, q)) :
    EachInTurn (Composed config (some parent)) (cs.filter (!leavesOut ·.name)) p.state parts
      q.state := by
  induction cs generalizing p parts with
  | nil =>
    cases h
    exact .nil _
  | cons c cs ih =>
    rw [exec_nodes_cons] at h
    by_cases hc : leavesOut c.name = true
    · rw [if_pos hc] at h
      rw [List.filter_cons_of_neg (by simpa using hc)]
      exact ih h
    · rw [if_neg hc] at h
      rw [List.filter_cons_of_pos (by simpa using hc)]
      rcases hnode : exec (node config (some parent) c) p with ⟨_ | text, between⟩
      · simp [hnode] at h
      · rw [hnode] at h
        rcases hrest : exec (nodes config parent leavesOut cs) between with ⟨_ | texts, after⟩
        · simp [hrest, Except.map] at h
        · simp only [hrest] at h
          cases h
          exact .cons ⟨p, between, hnode, rfl, rfl⟩ (ih hrest)

/-- A composed node is one of these, with its parts composed in turn: what holds in each case,
once it holds of the composed parts, holds of every composed node. -/
theorem Composed.induct {config : Config}
    {motive : Option Node → Snapshot → ModelState → String → ModelState → Prop}
    (omitted : ∀ parent s state, s.node.kind = .frame → config.omits s.name = true →
      motive parent s state "" state)
    (frame : ∀ parent s before parts after, s.node.kind = .frame → config.omits s.name = false →
      EachInTurn
        (fun c b t a => Composed config (some s.node) c b t a ∧ motive (some s.node) c b t a)
        (s.shownChildren config) before parts after →
      motive parent s before (s.frameFragment parent parts) after)
    (group : ∀ parent s before parts after, s.node.kind = .group →
      EachInTurn
        (fun c b t a => Composed config (some s.node) c b t a ∧ motive (some s.node) c b t a)
        s.children before parts after →
      motive parent s before (Snapshot.groupFragment s.name parts) after)
    (widget : ∀ parent s state text, s.node.kind = .componentInstance →
      Widget.fragment (s.widgetKind config.components) s parent state = .ok text →
      motive parent s state text (Widget.record (s.widgetKind config.components) s state))
    (leaf : ∀ parent s state text, s.leafFragment? parent = some text →
      motive parent s state text state)
    {parent : Option Node} {s : Snapshot} {before after : ModelState} {result : String}
    (h : Composed config parent s before result after) :
    motive parent s before result after := by
  induction s using Snapshot.induct generalizing parent before after result with
  | step s ih =>
    obtain ⟨p, q, hexec, rfl, rfl⟩ := h
    rw [exec_node] at hexec
    cases hk : s.node.kind with
    | frame =>
      simp only [hk] at hexec
      by_cases ho : config.omits s.name = true
      · rw [if_pos ho] at hexec
        cases hexec
        exact omitted parent s _ hk ho
      · rw [if_neg ho] at hexec
        rcases hparts : exec (nodes config s.node config.omits s.children)
          ((p.add (.entered .frame s.name)).add (.aligned s.name (s.node.rowRole parent)))
          with ⟨_ | parts, after⟩
        · simp [hparts, Except.map] at hexec
        · simp only [hparts] at hexec
          cases hexec
          refine frame parent s _ parts _ hk (by simpa using ho) ?_
          refine (composedEach_of_exec hparts).mono fun c hc b t a hcomposed => ?_
          exact ⟨hcomposed, ih c ((List.mem_filter.1 hc).1) hcomposed⟩
    | group =>
      simp only [hk] at hexec
      rcases hparts : exec (nodes config s.node (fun _ => false) s.children)
        (p.add (.entered .group s.name)) with ⟨_ | parts, after⟩
      · simp [hparts, Except.map] at hexec
      · simp only [hparts] at hexec
        cases hexec
        refine group parent s _ parts _ hk ?_
        have heach := composedEach_of_exec hparts
        rw [Snapshot.filter_leavingNone] at heach
        exact heach.mono fun c hc b t a hcomposed => ⟨hcomposed, ih c hc hcomposed⟩
    | componentInstance =>
      simp only [hk, exec_widget] at hexec
      cases hfragment : Widget.fragment (s.widgetKind config.components) s parent p.state with
      | error fault => simp [hfragment] at hexec
      | ok text =>
        simp only [Progress.add_state, hfragment] at hexec
        cases hexec
        exact widget parent s p.state _ hk hfragment
    | _ =>
      simp only [hk] at hexec
      cases hexec
      refine leaf parent s _ _ ?_
      rw [Snapshot.leafFragment?, hk]

end Composition

theorem Composer.composed (c : Composer) (s : Snapshot) {view : String}
    (h : (c.compose s).1 = .ok view) :
    Composition.Composed c.config none s {} view (c.compose s).2.state :=
  ⟨{ state := {} }, (c.run s).2, Prod.ext h rfl, rfl, rfl⟩

end Mockup
