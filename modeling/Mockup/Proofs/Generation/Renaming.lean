import Mockup.Generation
import Mockup.Proofs.OrderedMap
import Mockup.Proofs.Resolution.Faults
import Mockup.Proofs.View.Renaming

/-!
# Renamed documents

What is generated for a document does not depend on the ids that it uses for nodes, styles and
variables.
-/

namespace Mockup

/-- The tables with the new ids as their keys. -/
def Library.rename (r : Renaming) (l : Library) : Library where
  instances := l.instances.mapKeys r.ofNode r.ofNode_injective
  components := l.components
  styles := l.styles.mapKeys r.ofStyle r.ofStyle_injective
  variableNames := l.variableNames.mapKeys r.ofVariable r.ofVariable_injective

def Document.rename (r : Renaming) (d : Document) : Document where
  root := d.root.map (Node.rename r)
  library := d.library.rename r

/-- The second source answers the renamed references as the first one answers the references. -/
structure Renaming.Carries (r : Renaming) (source other : Source) : Prop where
  mainComponent : ∀ id, other.mainComponent (r.ofNode id) = source.mainComponent id
  component : ∀ id, other.component id = source.component id
  style : ∀ id, other.style (r.ofStyle id) = source.style id
  boundVariable : ∀ id, other.boundVariable (r.ofVariable id) = source.boundVariable id

private theorem Library.carries_rename (r : Renaming) (l : Library) :
    r.Carries l.source (l.rename r).source where
  mainComponent id := by
    simp only [source, rename, OrderedMap.get?_mapKeys]
    rfl
  component _ := rfl
  style id := by simp only [source, rename, OrderedMap.get?_mapKeys]
  boundVariable id := by simp only [source, rename, OrderedMap.get?_mapKeys]

namespace Inquiry

variable {α α' β β' : Type}

private theorem result_bind_congr {q : Inquiry α} {q' : Inquiry α'} {f : α → α'} {g : β → β'}
    {next : α → Inquiry β} {next' : α' → Inquiry β'} (hq : q'.result = q.result.map f)
    (hnext : ∀ a, (next' (f a)).result = (next a).result.map g) :
    (q' >>= next').result = (q >>= next).result.map g := by
  rw [result_bind, result_bind, hq]
  cases q.result with
  | error fault => rfl
  | ok a => exact hnext a

theorem result_bind_same {q q' : Inquiry α} {g : β → β'} {next : α → Inquiry β}
    {next' : α → Inquiry β'} (hq : q'.result = q.result)
    (hnext : ∀ a, (next' a).result = (next a).result.map g) :
    (q' >>= next').result = (q >>= next).result.map g := by
  refine result_bind_congr (f := id) ?_ hnext
  rw [hq]
  cases q.result <;> rfl

private theorem result_foldlM_same {ι σ : Type} {step step' : σ → ι → Inquiry σ}
    (h : ∀ state i, (step' state i).result = (step state i).result) (is : List ι) (start : σ) :
    (is.foldlM step' start).result = (is.foldlM step start).result := by
  induction is generalizing start with
  | nil => rfl
  | cons i is ih =>
    rw [List.foldlM_cons, List.foldlM_cons, result_bind, result_bind, h]
    cases (step start i).result with
    | error fault => rfl
    | ok after => exact ih after

variable {f : α → α'} {qs : List (Inquiry α)} {qs' : List (Inquiry α')}

private theorem result_inTurn_congr
    (h : List.Forall₂ (fun q q' => q'.result = q.result.map f) qs qs') :
    (inTurn qs').result = (inTurn qs).result.map (List.map f) := by
  induction h with
  | nil => rfl
  | cons hq _ ih =>
    rw [inTurn, inTurn]
    exact result_bind_congr hq fun a => result_bind_congr ih fun as => rfl

private theorem result_together_congr
    (h : List.Forall₂ (fun q q' => q'.result = q.result.map f) qs qs') :
    (together qs').result = (together qs).result.map (List.map f) := by
  induction h with
  | nil => rfl
  | @cons q q' qs qs' hq _ ih =>
    rw [result_together_cons, result_together_cons, hq, ih]
    cases q.result with
    | error fault => rfl
    | ok a => cases (together qs).result <;> rfl

end Inquiry

namespace Node

open Inquiry

variable {r : Renaming} {source other : Source}

private theorem askSwaps_rename (h : r.Carries source other) (n : Node) :
    ((n.rename r).askSwaps other).result = (n.askSwaps source).result := by
  have hswap (swaps : OrderedMap String String) (property : String × Property) :
      ((n.rename r).askSwap other swaps property).result =
        (n.askSwap source swaps property).result := by
    rw [askSwap.eq_def, askSwap.eq_def]
    split
    · next id _ _ =>
      have hanswer : (Inquiry.ask (n.rename r) (.component id) (other.component id)).result =
          (Inquiry.ask n (.component id) (source.component id)).result := h.component id
      rw [result_bind, result_bind, hanswer]
    · rfl
  rw [askSwaps, askSwaps, rename_kind, rename_properties]
  split
  · exact result_foldlM_same hswap _ _
  · rfl

private theorem resolveSelf_rename (h : r.Carries source other) (n : Node) :
    ((n.rename r).resolveSelf other).result =
      (n.resolveSelf source).result.map (Snapshot.rename r) := by
  have hcomponent : ((n.rename r).askComponent other).result = (n.askComponent source).result := by
    rw [askComponent, askComponent, rename_kind, rename_id, h.mainComponent]
    split <;> rfl
  have hstyle (id? : Option StyleId) :
      ((n.rename r).askStyle other (id?.map r.ofStyle)).result =
        (n.askStyle source id?).result := by
    cases id? with
    | none => rfl
    | some id => exact h.style id
  have hvariable : ((n.rename r).askVariable other).result = (n.askVariable source).result := by
    rw [askVariable, askVariable, rename_text, TextAttributes.rename]
    cases n.text.boundFill with
    | none => rfl
    | some id => exact h.boundVariable id
  rw [resolveSelf, resolveSelf, rename_fillStyle, rename_cornerStyle, rename_text]
  refine result_bind_same hcomponent fun component => ?_
  refine result_bind_same (askSwaps_rename h n) fun swaps => ?_
  refine result_bind_same (hstyle n.fillStyle) fun fillStyle => ?_
  refine result_bind_same (hstyle n.cornerStyle) fun cornerStyle => ?_
  refine result_bind_same (hstyle n.text.style) fun textStyle => ?_
  exact result_bind_same hvariable fun fillVariable => rfl

private theorem gather_rename (kind : NodeKind) {qs qs' : List (Inquiry Snapshot)}
    (h : List.Forall₂ (fun q q' => q'.result = q.result.map (Snapshot.rename r)) qs qs') :
    (gather kind qs').result = (gather kind qs).result.map (List.map (Snapshot.rename r)) := by
  cases kind with
  | componentInstance => rfl
  | group => exact result_together_congr h
  | _ => exact result_inTurn_congr h

/-- The snapshot of a renamed design is the renamed snapshot of the design. -/
theorem resolve_rename (h : r.Carries source other) (n : Node) :
    ((n.rename r).resolve other).result = (n.resolve source).result.map (Snapshot.rename r) := by
  induction n using induct with
  | step n ih =>
    rw [resolve_eq, resolve_eq, rename_kind, rename_children, List.map_map]
    refine result_bind_congr (resolveSelf_rename h n) fun s => ?_
    have hchildren : List.Forall₂ (fun q q' => q'.result = q.result.map (Snapshot.rename r))
        (n.children.map (·.resolve source))
        (n.children.map ((·.resolve other) ∘ rename r)) := by
      rw [List.forall₂_map_left_iff, List.forall₂_map_right_iff, List.forall₂_same]
      exact ih
    refine result_bind_congr (gather_rename n.kind hchildren) fun children => ?_
    exact congrArg Except.ok (s.rename_with_children r children).symm

end Node

namespace Generation

variable {r : Renaming} {source other : Source}

private theorem run_some (source : Source) (n : Node) (config : Config) :
    run source (some n) config = match (attempt source n config).2 with
      | .ok generation => generation
      | .error _ => .failed (.diagnostic aborted) := by
  rw [run, runLogged]
  rcases attempt source n config with ⟨log, _ | generation⟩ <;> rfl

private theorem attempt_rename (h : r.Carries source other) (n : Node) (config : Config) :
    (attempt other (n.rename r) config).2 = (attempt source n config).2 := by
  have hresolve := Node.resolve_rename h n
  cases hresult : (n.resolve source).result with
  | error fault =>
    rw [hresult] at hresolve
    simp only [attempt, hresult, hresolve, Except.map]
  | ok s =>
    rw [hresult] at hresolve
    obtain ⟨hbody, hcomposer⟩ := Prod.ext_iff.1 (Composer.compose_rename r { config } s)
    have hstate := congrArg Composer.state hcomposer
    simp only [Composer.compose] at hbody hstate
    have hassemble (body : String) (state : ModelState) :
        assemble (n.rename r) config body state = assemble n config body state := by
      rw [assemble, assemble, Node.rename_name]
    simp only [attempt, hresult, hresolve, Except.map, hbody, hstate, hassemble]
    cases (Composer.run { config } s).1 <;> rfl

/-- For a document with new ids the same is generated, and what fails does so with the same
fault. -/
theorem run_rename (d : Document) (r : Renaming) (config : Config) :
    run (d.rename r).library.source (d.rename r).root config =
      run d.library.source d.root config ∧
    ∀ n, (attempt (d.rename r).library.source (n.rename r) config).2 =
      (attempt d.library.source n config).2 := by
  have hattempt (n : Node) := attempt_rename (d.library.carries_rename r) n config
  refine ⟨?_, hattempt⟩
  cases hroot : d.root with
  | none => rw [Document.rename, hroot]; rfl
  | some n =>
    rw [Document.rename, hroot, Option.map_some, run_some, run_some, hattempt n]

end Generation

/-- The same text in front of every id, as in a copy of a design. -/
def Renaming.marked (mark : String) : Renaming where
  ofNode id := ⟨mark ++ id.text⟩
  ofStyle id := ⟨mark ++ id.text⟩
  ofVariable id := ⟨mark ++ id.text⟩
  ofNode_injective := by rintro ⟨a⟩ ⟨b⟩ h; simpa using h
  ofStyle_injective := by rintro ⟨a⟩ ⟨b⟩ h; simpa using h
  ofVariable_injective := by rintro ⟨a⟩ ⟨b⟩ h; simpa using h

/-- A group of an input field, a shape in a shared style and a text in a bound colour. -/
private def profile : Document where
  root := some {
    id := ⟨"1"⟩, kind := .group, name := "Profile"
    children := [
      { id := ⟨"2"⟩, kind := .componentInstance, name := "Field" },
      { id := ⟨"3"⟩, kind := .rectangle, name := "Portrait", fillStyle := some ⟨"S:1"⟩
        fills := [{ kind := .solid, color := none }] },
      { id := ⟨"4"⟩, kind := .text, name := "Caption"
        text := { characters := "Name", boundFill := some ⟨"V:1"⟩ } }] }
  library := {
    instances := .ofList [(⟨"2"⟩, "125:1")]
    components := .ofList [("125:1", "Input")]
    styles := .ofList [(⟨"S:1"⟩, "Brand/Primary")]
    variableNames := .ofList [(⟨"V:1"⟩, "Text/Strong")] }

theorem Generation.run_rename_profile :
    let copy := profile.rename (.marked "I7;")
    copy.root.map Node.id = some ⟨"I7;1"⟩ ∧
      copy.library.styles.entries = [(⟨"I7;S:1"⟩, "Brand/Primary")] ∧
      (run copy.library.source copy.root {}).hasFailed = false ∧
      run copy.library.source copy.root {} = run profile.library.source profile.root {} := by
  obtain ⟨hrun, -⟩ := run_rename profile (.marked "I7;") {}
  refine ⟨rfl, rfl, ?_, hrun⟩
  rw [hrun]
  decide +kernel

end Mockup
