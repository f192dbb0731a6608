import Mathlib.Data.List.Forall2
import Mockup.Proofs.Resolution.Faults

/-!
# Tasks of a resolution

A resolution that is under way is a task. It waits for the answer to one question, or for other
tasks that go on beside each other: those of the children of a group. Asked in order, the task of a
node makes the inquiry that its resolution makes.
-/

namespace Mockup

/-- What a reference leads to. -/
abbrev Reference.Target : Reference → Type
  | .mainComponent _ | .component _ => Component
  | .style _ | .boundVariable _ => String

def Source.answer (source : Source) : (reference : Reference) → Answer reference.Target
  | .mainComponent node => source.mainComponent node
  | .component id => source.component id
  | .style id => source.style id
  | .boundVariable id => source.boundVariable id

inductive LookupTask where
  | finished (result : Except SourceFault Snapshot)
  | waiting (question : Question) (next : Option question.reference.Target → LookupTask)
  /-- Waits until all of its parts have finished. -/
  | joining (parts : List LookupTask) (next : List Snapshot → LookupTask)

namespace LookupTask

theorem induct {motive : LookupTask → Prop} (finished : ∀ result, motive (.finished result))
    (waiting : ∀ question next, (∀ found, motive (next found)) → motive (.waiting question next))
    (joining : ∀ parts next, (∀ p ∈ parts, motive p) → (∀ ss, motive (next ss)) →
      motive (.joining parts next)) (t : LookupTask) : motive t :=
  @LookupTask.rec motive (fun ts => ∀ p ∈ ts, motive p) finished waiting joining nofun
    (fun _ _ ht hts => List.forall_mem_cons.2 ⟨ht, hts⟩) t

/-- A task goes on with a value, or ends with a fault. -/
def proceed {α : Type} (result : Except SourceFault α) (next : α → LookupTask) :
    LookupTask :=
  match result with
  | .ok a => next a
  | .error fault => .finished (.error fault)

mutual

/-- The inquiry of a task whose parts are asked in order, each to its end. -/
def inquire (source : Source) : LookupTask → Inquiry Snapshot
  | .finished result => ⟨[], result⟩
  | .waiting question next => do
    let found ← (⟨[question], source.answer question.reference⟩ : Inquiry _)
    (next found).inquire source
  | .joining parts next => do
    let ss ← Inquiry.together (inquireEach source parts)
    (next ss).inquire source

def inquireEach (source : Source) : List LookupTask → List (Inquiry Snapshot)
  | [] => []
  | t :: ts => t.inquire source :: inquireEach source ts

end

theorem inquireEach_eq_map (source : Source) (ts : List LookupTask) :
    inquireEach source ts = ts.map (inquire source) := by
  induction ts with
  | nil => rfl
  | cons t ts ih => rw [inquireEach, ih, List.map_cons]

theorem inquire_proceed {α : Type} (source : Source) (result : Except SourceFault α)
    (next : α → LookupTask) : (proceed result next).inquire source =
      (⟨[], result⟩ : Inquiry α) >>= fun a => (next a).inquire source := by
  cases result with
  | error fault => rfl
  | ok a => rfl

/-- Part of a task: what comes behind it takes over its value. -/
def Stretch (α : Type) : Type :=
  (α → LookupTask) → LookupTask

namespace Stretch

variable {α β : Type}

instance : Monad Stretch where
  pure a := fun next => next a
  bind x f := fun next => x fun a => f a next

/-- Ends a task of its own. -/
def run (x : Stretch Snapshot) : LookupTask :=
  x fun s => .finished (.ok s)

def ask (asker : Node) (reference : Reference) : Stretch (Option reference.Target) :=
  .waiting ⟨asker.name, reference⟩

def inTurn : List (Stretch α) → Stretch (List α)
  | [] => pure []
  | x :: rest => do return (← x) :: (← inTurn rest)

def together (xs : List (Stretch Snapshot)) : Stretch (List Snapshot) :=
  .joining (xs.map run)

end Stretch
end LookupTask

namespace Node

open LookupTask (Stretch)

def componentStretch (asker : Node) : Stretch (Option Component) :=
  if asker.kind = .componentInstance then .ask asker (.mainComponent asker.id) else pure none

def styleStretch (asker : Node) : Option StyleId → Stretch (Option String)
  | none => pure none
  | some id => .ask asker (.style id)

def variableStretch (asker : Node) : Stretch (Option String) :=
  match asker.text.boundFill with
  | none => pure none
  | some id => .ask asker (.boundVariable id)

def swapStretch (asker : Node) (swaps : OrderedMap String String)
    (property : String × Property) : Stretch (OrderedMap String String) :=
  match property.2.kind, property.2.value with
  | .instanceSwap, .string id => do
    match ← Stretch.ask asker (.component id) with
    | some component => return swaps.insert property.1 (Component.name component)
    | none => return swaps
  | _, _ => return swaps

def swapsStretch (asker : Node) : Stretch (OrderedMap String String) :=
  if asker.kind = .componentInstance then
    asker.properties.entries.foldlM asker.swapStretch .empty
  else
    pure .empty

def selfStretch (n : Node) : Stretch Snapshot := do
  let component ← n.componentStretch
  let swaps ← n.swapsStretch
  let fillStyle ← n.styleStretch n.fillStyle
  let cornerStyle ← n.styleStretch n.cornerStyle
  let textStyle ← n.styleStretch n.text.style
  let fillVariable ← n.variableStretch
  return { node := n, component, fillStyle, cornerStyle, textStyle, fillVariable, swaps }

/-- Each child of a group has a task of its own. -/
def gatherStretch (kind : NodeKind) (children : List (Stretch Snapshot)) :
    Stretch (List Snapshot) :=
  match kind with
  | .componentInstance => pure []
  | .group => .together children
  | _ => .inTurn children

mutual

def stretch : Node → Stretch Snapshot
  | n@⟨_, kind, _, children, _, _, _, _, _, _⟩ => do
    let s ← n.selfStretch
    return { s with children := ← gatherStretch kind (stretchEach children) }

def stretchEach : List Node → List (Stretch Snapshot)
  | [] => []
  | n :: rest => n.stretch :: stretchEach rest

end

/-- The resolution of a design before the first answer. -/
def lookupTask (n : Node) : LookupTask :=
  n.stretch.run

end Node

namespace Inquiry

variable {α β γ : Type}

private theorem bind_pure (q : Inquiry α) : q >>= pure = q := by
  obtain ⟨asked, result⟩ := q
  cases result with
  | error fault => rfl
  | ok a => exact congrArg (Inquiry.mk · (.ok a)) (List.append_nil asked)

private theorem bind_assoc (q : Inquiry α) (f : α → Inquiry β) (g : β → Inquiry γ) :
    q >>= f >>= g = q >>= fun a => f a >>= g := by
  obtain ⟨asked, result⟩ := q
  cases result with
  | error fault => rfl
  | ok a =>
    change bind ⟨asked ++ (f a).asked, (f a).result⟩ g =
      ⟨asked ++ (bind (f a) g).asked, (bind (f a) g).result⟩
    rw [bind, bind]
    cases (f a).result with
    | error fault => rfl
    | ok b => simp only [List.append_assoc]

end Inquiry

namespace LookupTask

variable {source : Source} {α β : Type}

/-- Asked in order, the stretch is the inquiry, whatever comes behind it. -/
def Stretch.Enacts (source : Source) (x : Stretch α) (q : Inquiry α) : Prop :=
  ∀ next, (x next).inquire source = q >>= fun a => (next a).inquire source

namespace Stretch

private theorem Enacts.pure (a : α) : Enacts source (Pure.pure a) (Pure.pure a) :=
  fun _ => rfl

private theorem Enacts.bind {x : Stretch α} {q : Inquiry α} {f : α → Stretch β} {g : α → Inquiry β}
    (hx : Enacts source x q) (hf : ∀ a, Enacts source (f a) (g a)) :
    Enacts source (x >>= f) (q >>= g) := by
  intro next
  rw [Inquiry.bind_assoc]
  change (x fun a => f a next).inquire source = _
  rw [hx]
  exact congrArg _ (funext fun a => hf a next)

private theorem Enacts.ask (asker : Node) (reference : Reference) :
    Enacts source (ask asker reference)
      (Inquiry.ask asker reference (source.answer reference)) :=
  fun _ => rfl

private theorem Enacts.foldlM {x : β → α → Stretch β} {q : β → α → Inquiry β}
    (h : ∀ b a, Enacts source (x b a) (q b a)) (as : List α) (b : β) :
    Enacts source (as.foldlM x b) (as.foldlM q b) := by
  induction as generalizing b with
  | nil => exact .pure b
  | cons a as ih =>
    rw [List.foldlM_cons, List.foldlM_cons]
    exact (h b a).bind ih

private theorem Enacts.inTurn {xs : List (Stretch α)} {qs : List (Inquiry α)}
    (h : List.Forall₂ (Enacts source) xs qs) : Enacts source (inTurn xs) (Inquiry.inTurn qs) := by
  induction h with
  | nil => exact .pure []
  | cons hx _ ih =>
    rw [Stretch.inTurn, Inquiry.inTurn]
    exact hx.bind fun a => ih.bind fun as => .pure (a :: as)

private theorem Enacts.inquire_run {x : Stretch Snapshot} {q : Inquiry Snapshot}
    (h : Enacts source x q) : x.run.inquire source = q :=
  (h _).trans q.bind_pure

private theorem Enacts.together {xs : List (Stretch Snapshot)} {qs : List (Inquiry Snapshot)}
    (h : List.Forall₂ (Enacts source) xs qs) :
    Enacts source (together xs) (Inquiry.together qs) := by
  have hparts : inquireEach source (xs.map run) = qs := by
    rw [inquireEach_eq_map, List.map_map]
    induction h with
    | nil => rfl
    | cons hx _ ih => exact congrArg₂ _ hx.inquire_run ih
  intro next
  rw [← hparts]
  rfl

end Stretch
end LookupTask

namespace Node

open LookupTask Stretch

private theorem componentStretch_enacts (source : Source) (n : Node) :
    n.componentStretch.Enacts source (n.askComponent source) := by
  rw [componentStretch, askComponent]
  by_cases hk : n.kind = .componentInstance
  · rw [if_pos hk, if_pos hk]
    exact .ask n (.mainComponent n.id)
  · rw [if_neg hk, if_neg hk]
    exact .pure none

private theorem styleStretch_enacts (source : Source) (n : Node) (style : Option StyleId) :
    (n.styleStretch style).Enacts source (n.askStyle source style) := by
  cases style with
  | none => exact .pure none
  | some id => exact .ask n (.style id)

private theorem variableStretch_enacts (source : Source) (n : Node) :
    n.variableStretch.Enacts source (n.askVariable source) := by
  rw [variableStretch, askVariable]
  cases n.text.boundFill with
  | none => exact .pure none
  | some id => exact .ask n (.boundVariable id)

private theorem swapStretch_enacts (source : Source) (n : Node) (swaps : OrderedMap String String)
    (property : String × Property) :
    (n.swapStretch swaps property).Enacts source (n.askSwap source swaps property) := by
  obtain ⟨key, kind, value⟩ := property
  cases kind with
  | instanceSwap =>
    cases value with
    | string id =>
      refine (Enacts.ask n (.component id)).bind fun component => ?_
      cases component <;> exact .pure _
    | bool on => exact .pure swaps
  | _ => exact .pure swaps

private theorem swapsStretch_enacts (source : Source) (n : Node) :
    n.swapsStretch.Enacts source (n.askSwaps source) := by
  rw [swapsStretch, askSwaps]
  by_cases hk : n.kind = .componentInstance
  · rw [if_pos hk, if_pos hk]
    exact .foldlM (swapStretch_enacts source n) _ _
  · rw [if_neg hk, if_neg hk]
    exact .pure _

private theorem selfStretch_enacts (source : Source) (n : Node) :
    n.selfStretch.Enacts source (n.resolveSelf source) := by
  rw [selfStretch, resolveSelf]
  refine (componentStretch_enacts source n).bind fun component => ?_
  refine (swapsStretch_enacts source n).bind fun swaps => ?_
  refine (styleStretch_enacts source n _).bind fun fillStyle => ?_
  refine (styleStretch_enacts source n _).bind fun cornerStyle => ?_
  refine (styleStretch_enacts source n _).bind fun textStyle => ?_
  refine (variableStretch_enacts source n).bind fun fillVariable => ?_
  exact .pure _

private theorem gatherStretch_enacts {source : Source} (kind : NodeKind)
    {children : List (Stretch Snapshot)} {qs : List (Inquiry Snapshot)}
    (h : List.Forall₂ (Enacts source) children qs) :
    (gatherStretch kind children).Enacts source (gather kind qs) := by
  rw [gatherStretch.eq_def, gather.eq_def]
  cases kind with
  | componentInstance => exact .pure []
  | group => exact .together h
  | _ => exact .inTurn h

private theorem stretch_eq (n : Node) :
    n.stretch = (do
      let s ← n.selfStretch
      return { s with children := ← gatherStretch n.kind (n.children.map stretch) }) := by
  have heach (cs : List Node) : stretchEach cs = cs.map stretch := by
    induction cs with
    | nil => rfl
    | cons c cs ih => rw [stretchEach, ih, List.map_cons]
  rw [← heach]
  cases n
  rfl

private theorem stretch_enacts (source : Source) (n : Node) :
    n.stretch.Enacts source (n.resolve source) := by
  induction n using induct with
  | step n ih =>
    rw [stretch_eq, resolve_eq]
    refine (selfStretch_enacts source n).bind fun s => ?_
    refine Enacts.bind ?_ fun children => .pure _
    refine gatherStretch_enacts n.kind ?_
    rw [List.forall₂_map_left_iff, List.forall₂_map_right_iff, List.forall₂_same]
    exact ih

/-- Asked in order, the task of a node makes the inquiry of its resolution. -/
theorem inquire_lookupTask (source : Source) (n : Node) :
    n.lookupTask.inquire source = n.resolve source :=
  (stretch_enacts source n).inquire_run

end Node
end Mockup
