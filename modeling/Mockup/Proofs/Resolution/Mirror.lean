import Mathlib.Data.List.Forall2
import Mockup.Lookup.Library
import Mockup.Proofs.OrderedMap
import Mockup.Proofs.Resolution.Faults

/-!
# Snapshots of a resolution

A resolution that succeeds asks the references of every node outside instances, node by node in
preorder, and its snapshot mirrors the design with each answer in its place.
-/

namespace Mockup

/-- What a reference leads to, if it leads anywhere. -/
def Answer.found? {α : Type} : Answer α → Option α
  | .ok found => found
  | .error _ => none

namespace Node

/-- The children that a resolution goes on with: an instance is a leaf. -/
def followed (n : Node) : List Node :=
  if n.kind = .componentInstance then [] else n.children

private theorem mem_children_of_mem_followed {n c : Node} (h : c ∈ n.followed) :
    c ∈ n.children := by
  rw [followed] at h
  split at h
  · cases h
  · exact h

mutual

/-- The nodes that are not below an instance, in preorder. -/
def reached : Node → List Node
  | n@⟨_, kind, _, children, _, _, _, _, _, _⟩ =>
    n :: if kind = .componentInstance then [] else reachedAmong children

def reachedAmong : List Node → List Node
  | [] => []
  | n :: rest => n.reached ++ reachedAmong rest

end

private theorem reached_eq (n : Node) : n.reached = n :: n.followed.flatMap reached := by
  have hall (cs : List Node) : reachedAmong cs = cs.flatMap reached := by
    induction cs with
    | nil => rfl
    | cons c cs ih => rw [reachedAmong, ih, List.flatMap_cons]
  have hopen : n.reached =
      n :: if n.kind = .componentInstance then [] else reachedAmong n.children := by
    cases n
    rfl
  rw [hopen, hall, followed]
  split <;> rfl

/-- The component that a property asks to swap in, with the key of the property. -/
def swapTarget? (property : String × Property) : Option (String × String) :=
  if property.2.kind = .instanceSwap then property.2.value.string?.map (property.1, ·) else none

/-- The components that the properties of an instance ask to swap in. -/
def swapTargets (n : Node) : List (String × String) :=
  if n.kind = .componentInstance then n.properties.entries.filterMap swapTarget? else []

/-- The references of a node in the order in which they are followed. -/
def references (n : Node) : List Reference :=
  (if n.kind = .componentInstance then [.mainComponent n.id] else []) ++
    n.swapTargets.map (.component ·.2) ++ n.fillStyle.toList.map .style ++
    n.cornerStyle.toList.map .style ++ n.text.style.toList.map .style ++
    n.text.boundFill.toList.map .boundVariable

/-- The questions of a node for some references. -/
def asking (n : Node) (references : List Reference) : List Question :=
  references.map (⟨n.name, ·⟩)

def questions (n : Node) : List Question :=
  n.asking n.references

/-- A field holds the answer to a reference, and nothing without a reference. -/
def Answered {ι α : Type} (answer : ι → Answer α) : Option ι → Option α → Prop
  | none, field => field = none
  | some id, field => answer id = .ok field

/-- The fields of a snapshot are the answers to the references of its node. -/
structure Answers (source : Source) (n : Node) (s : Snapshot) : Prop where
  node : s.node = n
  component : Answered source.mainComponent
    (if n.kind = .componentInstance then some n.id else none) s.component
  fillStyle : Answered source.style n.fillStyle s.fillStyle
  cornerStyle : Answered source.style n.cornerStyle s.cornerStyle
  textStyle : Answered source.style n.text.style s.textStyle
  fillVariable : Answered source.boundVariable n.text.boundFill s.fillVariable
  swaps : s.swaps.entries = n.swapTargets.filterMap fun target =>
    (source.component target.2).found?.map fun component => (target.1, component.name)

/-- A snapshot has the answers to the references of a node, and below it in order those of the
children that are followed. -/
inductive Mirrors (source : Source) : Node → Snapshot → Prop where
  | mk {n : Node} {s : Snapshot} (answers : Answers source n s)
    (children : List.Forall₂ (Mirrors source) n.followed s.children) : Mirrors source n s

end Node

namespace Inquiry

variable {α β : Type}

theorem exists_of_bind {q : Inquiry α} {next : α → Inquiry β} {b : β}
    (h : (q >>= next).result = .ok b) :
    ∃ a, q.result = .ok a ∧ (next a).result = .ok b ∧
      (q >>= next).asked = q.asked ++ (next a).asked := by
  rw [result_bind] at h
  rw [asked_bind]
  cases hq : q.result with
  | error fault =>
    rw [hq] at h
    cases h
  | ok a =>
    rw [hq] at h
    exact ⟨a, rfl, h, rfl⟩

private theorem asked_pure (a : α) : (Pure.pure a : Inquiry α).asked = [] := rfl

private theorem eq_of_pure {a b : α} (h : (Pure.pure a : Inquiry α).result = .ok b) : b = a := by
  cases h
  rfl

private theorem all_of_inTurn {qs : List (Inquiry α)} {as : List α}
    (h : (inTurn qs).result = .ok as) :
    List.Forall₂ (fun q a => q.result = .ok a) qs as ∧
      (inTurn qs).asked = qs.flatMap (·.asked) := by
  induction qs generalizing as with
  | nil =>
    rw [eq_of_pure h]
    exact ⟨.nil, rfl⟩
  | cons q qs ih =>
    rw [inTurn] at h ⊢
    obtain ⟨a, ha, hrest, hasked⟩ := exists_of_bind h
    obtain ⟨rest, hall, hpure, hrestAsked⟩ := exists_of_bind hrest
    obtain ⟨hrests, hflat⟩ := ih hall
    rw [hasked, hrestAsked, hflat, asked_pure, List.append_nil, List.flatMap_cons,
      eq_of_pure hpure]
    exact ⟨.cons ha hrests, rfl⟩

private theorem all_of_together {qs : List (Inquiry α)} {as : List α}
    (h : (together qs).result = .ok as) :
    List.Forall₂ (fun q a => q.result = .ok a) qs as := by
  induction qs generalizing as with
  | nil =>
    cases h
    exact .nil
  | cons q qs ih =>
    rw [result_together_cons] at h
    cases hq : q.result with
    | error fault =>
      rw [hq] at h
      cases h
    | ok a =>
      rw [hq] at h
      cases hrest : (together qs).result with
      | error fault =>
        rw [hrest] at h
        cases h
      | ok rest =>
        rw [hrest] at h
        cases h
        exact .cons hq (ih hrest)

end Inquiry

namespace Node

open Inquiry

section

variable {source : Source} {n : Node}

private theorem asking_append (n : Node) (a b : List Reference) :
    n.asking (a ++ b) = n.asking a ++ n.asking b :=
  List.map_append

private theorem askComponent_of_ok {component : Option Component}
    (h : (n.askComponent source).result = .ok component) :
    (n.askComponent source).asked =
        n.asking (if n.kind = .componentInstance then [.mainComponent n.id] else []) ∧
      Answered source.mainComponent (if n.kind = .componentInstance then some n.id else none)
        component := by
  rw [askComponent] at h ⊢
  split
  · next hk =>
    rw [if_pos hk] at h
    exact ⟨rfl, h⟩
  · next hk =>
    rw [if_neg hk] at h
    exact ⟨rfl, eq_of_pure h⟩

private theorem askStyle_of_ok {style : Option StyleId} {name : Option String}
    (h : (n.askStyle source style).result = .ok name) :
    (n.askStyle source style).asked = n.asking (style.toList.map .style) ∧
      Answered source.style style name := by
  cases style with
  | none => exact ⟨rfl, eq_of_pure h⟩
  | some id => exact ⟨rfl, h⟩

private theorem askVariable_of_ok {name : Option String}
    (h : (n.askVariable source).result = .ok name) :
    (n.askVariable source).asked = n.asking (n.text.boundFill.toList.map .boundVariable) ∧
      Answered source.boundVariable n.text.boundFill name := by
  rw [askVariable] at h ⊢
  cases hfill : n.text.boundFill with
  | none =>
    rw [hfill] at h
    exact ⟨rfl, eq_of_pure h⟩
  | some id =>
    rw [hfill] at h
    exact ⟨rfl, h⟩

/-- The targets that are known, with their names. -/
def knownTargets (source : Source) (targets : List (String × String)) : List (String × String) :=
  targets.filterMap fun target =>
    (source.component target.2).found?.map fun component => (target.1, component.name)

private theorem askSwap_eq (source : Source) (n : Node) (swaps : OrderedMap String String)
    (property : String × Property) :
    n.askSwap source swaps property = match swapTarget? property with
      | none => pure swaps
      | some (key, id) => do
        match ← Inquiry.ask n (.component id) (source.component id) with
        | some component => return swaps.insert key component.name
        | none => return swaps := by
  obtain ⟨key, kind, value⟩ := property
  cases kind <;> cases value <;> rfl

private theorem askSwap_of_ok {swaps after : OrderedMap String String}
    {property : String × Property}
    (hnew : property.1 ∉ swaps.entries.map Prod.fst)
    (h : (n.askSwap source swaps property).result = .ok after) :
    (n.askSwap source swaps property).asked =
        n.asking ((swapTarget? property).toList.map (.component ·.2)) ∧
      after.entries = swaps.entries ++ knownTargets source (swapTarget? property).toList := by
  rw [askSwap_eq] at h ⊢
  cases htarget : swapTarget? property with
  | none =>
    rw [htarget] at h
    rw [eq_of_pure h]
    exact ⟨rfl, (List.append_nil _).symm⟩
  | some target =>
    have hkey : target.1 = property.1 := by
      rw [swapTarget?] at htarget
      split at htarget
      · obtain ⟨id, -, rfl⟩ := Option.map_eq_some_iff.1 htarget
        rfl
      · cases htarget
    rw [htarget] at h
    obtain ⟨found, hfound, hnext, hasked⟩ := exists_of_bind h
    have hanswer : source.component target.2 = .ok found := hfound
    dsimp only
    rw [hasked, Option.toList_some, knownTargets, List.filterMap_cons, hanswer]
    cases found with
    | none =>
      rw [eq_of_pure hnext]
      exact ⟨rfl, (List.append_nil _).symm⟩
    | some component =>
      rw [eq_of_pure hnext, OrderedMap.entries_insert_of_notMem (hkey ▸ hnew)]
      exact ⟨rfl, rfl⟩

private theorem keys_knownTargets (source : Source) (property : String × Property) :
    ∀ key ∈ (knownTargets source (swapTarget? property).toList).map Prod.fst,
      key = property.1 := by
  intro key hkey
  obtain ⟨swap, hswap, rfl⟩ := List.mem_map.1 hkey
  obtain ⟨target, htarget, hname⟩ := List.mem_filterMap.1 hswap
  obtain ⟨component, -, rfl⟩ := Option.map_eq_some_iff.1 hname
  rw [Option.mem_toList, swapTarget?] at htarget
  split at htarget
  · obtain ⟨id, -, rfl⟩ := Option.map_eq_some_iff.1 htarget
    rfl
  · cases htarget

theorem foldlM_askSwap_of_ok {properties : List (String × Property)}
    {swaps after : OrderedMap String String} (hkeys : (properties.map Prod.fst).Nodup)
    (hnew : ∀ p ∈ properties, p.1 ∉ swaps.entries.map Prod.fst)
    (h : (properties.foldlM (n.askSwap source) swaps).result = .ok after) :
    (properties.foldlM (n.askSwap source) swaps).asked =
        n.asking ((properties.filterMap swapTarget?).map (.component ·.2)) ∧
      after.entries =
        swaps.entries ++ knownTargets source (properties.filterMap swapTarget?) := by
  induction properties generalizing swaps with
  | nil =>
    rw [eq_of_pure h]
    exact ⟨rfl, (List.append_nil _).symm⟩
  | cons property rest ih =>
    rw [List.foldlM_cons] at h ⊢
    rw [List.map_cons, List.nodup_cons] at hkeys
    obtain ⟨between, hfirst, hrest, hasked⟩ := exists_of_bind h
    obtain ⟨hfirstAsked, hbetween⟩ := askSwap_of_ok (hnew _ List.mem_cons_self) hfirst
    have hrestNew : ∀ p ∈ rest, p.1 ∉ between.entries.map Prod.fst := by
      intro p hp
      rw [hbetween, List.map_append, List.mem_append, not_or]
      refine ⟨hnew p (List.mem_cons_of_mem _ hp), fun hknown => hkeys.1 ?_⟩
      rw [← keys_knownTargets source property p.1 hknown]
      exact List.mem_map_of_mem hp
    obtain ⟨hrestAsked, hafter⟩ := ih hkeys.2 hrestNew hrest
    have htargets : (property :: rest).filterMap swapTarget? =
        (swapTarget? property).toList ++ rest.filterMap swapTarget? := by
      rw [List.filterMap_cons]
      cases swapTarget? property <;> rfl
    rw [hasked, hfirstAsked, hrestAsked, htargets, List.map_append, asking_append, hafter,
      hbetween, List.append_assoc, knownTargets, knownTargets, ← List.filterMap_append]
    exact ⟨rfl, rfl⟩

private theorem askSwaps_of_ok {swaps : OrderedMap String String}
    (h : (n.askSwaps source).result = .ok swaps) :
    (n.askSwaps source).asked = n.asking (n.swapTargets.map (.component ·.2)) ∧
      swaps.entries = knownTargets source n.swapTargets := by
  rw [askSwaps] at h ⊢
  rw [swapTargets]
  split
  · next hk =>
    rw [if_pos hk] at h
    have hnew : ∀ p ∈ n.properties.entries,
        p.1 ∉ (OrderedMap.empty : OrderedMap String String).entries.map Prod.fst :=
      fun _ _ => List.not_mem_nil
    exact foldlM_askSwap_of_ok n.properties.nodup hnew h
  · next hk =>
    rw [if_neg hk] at h
    rw [eq_of_pure h]
    exact ⟨rfl, rfl⟩

private theorem resolveSelf_of_ok {s : Snapshot} (h : (n.resolveSelf source).result = .ok s) :
    (n.resolveSelf source).asked = n.questions ∧ Answers source n s := by
  rw [resolveSelf] at h ⊢
  obtain ⟨component, hcomponent, h, hasked₁⟩ := exists_of_bind h
  obtain ⟨swaps, hswaps, h, hasked₂⟩ := exists_of_bind h
  obtain ⟨fillStyle, hfill, h, hasked₃⟩ := exists_of_bind h
  obtain ⟨cornerStyle, hcorner, h, hasked₄⟩ := exists_of_bind h
  obtain ⟨textStyle, htext, h, hasked₅⟩ := exists_of_bind h
  obtain ⟨fillVariable, hvariable, h, hasked₆⟩ := exists_of_bind h
  have hcomponent := askComponent_of_ok hcomponent
  have hswaps := askSwaps_of_ok hswaps
  have hfill := askStyle_of_ok hfill
  have hcorner := askStyle_of_ok hcorner
  have htext := askStyle_of_ok htext
  have hvariable := askVariable_of_ok hvariable
  rw [hasked₁, hasked₂, hasked₃, hasked₄, hasked₅, hasked₆, hcomponent.1, hswaps.1, hfill.1,
    hcorner.1, htext.1, hvariable.1, asked_pure, eq_of_pure h]
  constructor
  · simp only [questions, references, asking, List.map_append, List.append_assoc,
      List.append_nil]
  · exact ⟨rfl, hcomponent.2, hfill.2, hcorner.2, htext.2, hvariable.2, hswaps.2⟩

private theorem gather_of_ok {children : List (Inquiry Snapshot)} {ss : List Snapshot}
    (h : (gather n.kind children).result = .ok ss) :
    List.Forall₂ (fun q s => q.result = .ok s)
        (if n.kind = .componentInstance then [] else children) ss ∧
      (gather n.kind children).asked =
        (if n.kind = .componentInstance then [] else children).flatMap (·.asked) := by
  cases hk : n.kind with
  | componentInstance =>
    rw [hk] at h
    rw [if_pos rfl, eq_of_pure h]
    exact ⟨.nil, rfl⟩
  | group =>
    rw [hk] at h
    exact ⟨all_of_together h, rfl⟩
  | _ =>
    rw [hk] at h
    exact all_of_inTurn h

end

/-- A resolution that succeeds asks what the nodes that it reaches refer to, and mirrors them. -/
theorem mirrors_of_resolve {source : Source} (n : Node) {s : Snapshot}
    (h : (n.resolve source).result = .ok s) :
    (n.resolve source).asked = n.reached.flatMap questions ∧ Mirrors source n s := by
  induction n using induct generalizing s with
  | step n ih =>
    rw [resolve_eq] at h ⊢
    obtain ⟨self, hself, h, hasked⟩ := exists_of_bind h
    obtain ⟨children, hgather, h, hchildrenAsked⟩ := exists_of_bind h
    obtain ⟨hselfAsked, hanswers⟩ := resolveSelf_of_ok hself
    obtain ⟨hall, hgatherAsked⟩ := gather_of_ok hgather
    have hfollowed : (if n.kind = .componentInstance then []
        else n.children.map (·.resolve source)) = n.followed.map (·.resolve source) := by
      rw [followed]
      split <;> rfl
    rw [hfollowed] at hall hgatherAsked
    rw [List.forall₂_map_left_iff] at hall
    have heach : ∀ c ∈ n.followed, ∀ t, (c.resolve source).result = .ok t →
        (c.resolve source).asked = c.reached.flatMap questions ∧ Mirrors source c t :=
      fun c hc t => ih c (mem_children_of_mem_followed hc)
    have hboth := ((List.forall₂_and_left _ _).2 ⟨heach, hall⟩).imp fun c t h => h.1 t h.2
    obtain ⟨heachAsked, hmirrors⟩ := (List.forall₂_and_left _ _).1 hboth
    have hquestions : (n.followed.map (·.resolve source)).flatMap (·.asked) =
        (n.followed.flatMap reached).flatMap questions := by
      rw [List.flatMap_map, List.flatMap_assoc]
      exact List.flatMap_congr heachAsked
    rw [eq_of_pure h, hasked, hchildrenAsked, hselfAsked, hgatherAsked, hquestions, reached_eq,
      List.flatMap_cons, asked_pure, List.append_nil]
    exact ⟨rfl, .mk ⟨hanswers.node, hanswers.component, hanswers.fillStyle,
      hanswers.cornerStyle, hanswers.textStyle, hanswers.fillVariable, hanswers.swaps⟩ hmirrors⟩

/-- A source that answers from tables never fails. -/
theorem resolve_library (library : Library) (n : Node) :
    ∃ s, (n.resolve library.source).result = .ok s := by
  have hends : faultOf? (n.resolve library.source).result =
      firstFault? library.source (n.resolve library.source).asked :=
    resolve_endsAtFault library.source n
  have hnone : firstFault? library.source (n.resolve library.source).asked = none := by
    refine List.findSome?_eq_none_iff.2 fun q _ => ?_
    rw [Question.fault?]
    cases q.reference <;> rfl
  rw [hnone] at hends
  cases hresult : (n.resolve library.source).result with
  | error fault =>
    rw [hresult] at hends
    cases hends
  | ok s => exact ⟨s, rfl⟩

/-- A resolution that succeeds asks exactly the references of the nodes outside instances, in
preorder, and its snapshot mirrors the design with the answers in their places. With a library
as its source every resolution succeeds. -/
theorem resolve_mirrors (source : Source) (n : Node) :
    (∀ s, (n.resolve source).result = .ok s →
      (n.resolve source).asked = n.reached.flatMap questions ∧ Mirrors source n s) ∧
    ∀ library : Library, ∃ s, (n.resolve library.source).result = .ok s ∧
      (n.resolve library.source).asked = n.reached.flatMap questions ∧
      Mirrors library.source n s := by
  refine ⟨fun s h => mirrors_of_resolve n h, fun library => ?_⟩
  obtain ⟨s, hs⟩ := resolve_library library n
  exact ⟨s, hs, mirrors_of_resolve n hs⟩

/-- A cluster with a button, which swaps in two icons and holds a label, and a frame. -/
private def cluster : Node where
  id := ⟨"1"⟩
  kind := .group
  children := [
    { id := ⟨"2"⟩
      kind := .componentInstance
      properties := .ofList [
        ("Icon-Left", ⟨.instanceSwap, .string "104:925"⟩), ("Label", ⟨.text, .string "Go"⟩),
        ("Icon-Right", ⟨.instanceSwap, .string "104:926"⟩)]
      children := [{ id := ⟨"3"⟩, kind := .text, text := { boundFill := some ⟨"V:1"⟩ } }] },
    { id := ⟨"4"⟩, kind := .frame, fillStyle := some ⟨"S:1"⟩ }]

/-- A source of one component and one style that fails at every variable. -/
private def unsteady : Source where
  mainComponent _ := .ok none
  component id := .ok (if id = "104:925" then some ⟨id, "Arrow Right"⟩ else none)
  style _ := .ok (some "Surface/Primary")
  boundVariable id := .error (.lookup "variable" id.text "connection reset")

theorem resolve_mirrors_cluster :
    ∃ s, (cluster.resolve unsteady).result = .ok s ∧ Mirrors unsteady cluster s ∧
      (cluster.resolve unsteady).asked.map (·.reference) = [.mainComponent ⟨"2"⟩,
        .component "104:925", .component "104:926", .style ⟨"S:1"⟩] := by
  have hok : (cluster.resolve unsteady).result.isOk := by decide +kernel
  obtain ⟨s, hs⟩ := exists_ok_of_isOk hok
  obtain ⟨hasked, hmirrors⟩ := (resolve_mirrors unsteady cluster).1 s hs
  refine ⟨s, hs, hmirrors, ?_⟩
  rw [hasked]
  decide +kernel

end Node

end Mockup
