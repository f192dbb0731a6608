import Mockup.Proofs.Resolution.Task

/-!
# Schedules of a resolution

The children of a group wait for their answers beside each other, and these may come in any order.
Whatever the order is, a resolution comes to an end, its result is that of the resolution in order,
and the questions of the two are the same but for their order.
-/

namespace Mockup

open LookupTask (proceed inquire_proceed inquireEach_eq_map)

namespace LookupTask

/-- One step of a task. Some waiting part of it is given its answer, or the parts of a join have all
finished and are gathered in the order in which they stand: then the first fault among them counts.
A step tells the question that was answered. -/
inductive Step (source : Source) : LookupTask → Option Question → LookupTask → Prop where
  | answered (question : Question) (next : Option question.reference.Target → LookupTask) :
    Step source (.waiting question next) (some question)
      (proceed (source.answer question.reference) next)
  | part (before after : List LookupTask) (next : List Snapshot → LookupTask)
    {p p' : LookupTask} {question? : Option Question} (h : Step source p question? p') :
    Step source (.joining (before ++ p :: after) next) question?
      (.joining (before ++ p' :: after) next)
  | joined (results : List (Except SourceFault Snapshot)) (next : List Snapshot → LookupTask) :
    Step source (.joining (results.map .finished) next) none (proceed (results.mapM id) next)

/-- Steps one after the other, with the questions in the order in which they were answered. -/
inductive Runs (source : Source) : LookupTask → List Question → LookupTask → Prop where
  | nil (t : LookupTask) : Runs source t [] t
  | cons {t u v : LookupTask} {question? : Option Question} {asked : List Question}
    (head : Step source t question? u) (tail : Runs source u asked v) :
    Runs source t (question?.toList ++ asked) v

section

variable {source : Source}

/-- The inquiry that is left of another one when some questions have been answered: it ends alike,
and together they ask the same. -/
structure Leaves (q : Inquiry Snapshot) (answered : List Question) (rest : Inquiry Snapshot) :
    Prop where
  result : rest.result = q.result
  asked : (answered ++ rest.asked).Perm q.asked

private theorem Leaves.refl (q : Inquiry Snapshot) : Leaves q [] q :=
  ⟨rfl, .refl _⟩

private theorem Leaves.trans {p q r : Inquiry Snapshot} {a b : List Question} (hpq : Leaves p a q)
    (hqr : Leaves q b r) : Leaves p (a ++ b) r where
  result := hqr.result.trans hpq.result
  asked := by
    rw [List.append_assoc]
    exact (hqr.asked.append_left a).trans hpq.asked

private theorem result_together_part {q r : Inquiry Snapshot} (h : r.result = q.result)
    (before after : List (Inquiry Snapshot)) :
    (Inquiry.together (before ++ r :: after)).result =
      (Inquiry.together (before ++ q :: after)).result := by
  simp only [Inquiry.together, List.mapM_append, List.mapM_cons, h]

/-- What is left of one of several inquiries is left of all of them. -/
theorem Leaves.together {q r : Inquiry Snapshot} {a : List Question} (h : Leaves q a r)
    (before after : List (Inquiry Snapshot)) (next : List Snapshot → Inquiry Snapshot) :
    Leaves (Inquiry.together (before ++ q :: after) >>= next) a
      (Inquiry.together (before ++ r :: after) >>= next) := by
  have hresult := result_together_part h.result before after
  have hasked : (a ++ (Inquiry.together (before ++ r :: after)).asked).Perm
      (Inquiry.together (before ++ q :: after)).asked := by
    simp only [Inquiry.together, List.flatMap_append, List.flatMap_cons]
    calc a ++ (before.flatMap (·.asked) ++ (r.asked ++ after.flatMap (·.asked)))
      _ |>.Perm (before.flatMap (·.asked) ++ (a ++ (r.asked ++ after.flatMap (·.asked)))) :=
        List.perm_append_comm_assoc _ _ _
      _ |>.Perm (before.flatMap (·.asked) ++ (q.asked ++ after.flatMap (·.asked))) := by
        rw [← List.append_assoc a]
        exact (h.asked.append_right _).append_left _
  constructor
  · rw [Inquiry.result_bind, Inquiry.result_bind, hresult]
  · rw [Inquiry.asked_bind, Inquiry.asked_bind, hresult]
    cases (Inquiry.together (before ++ q :: after)).result with
    | error fault => exact hasked
    | ok ss =>
      dsimp only
      rw [← List.append_assoc]
      exact hasked.append_right _

private theorem inquireEach_append (a b : List LookupTask) :
    inquireEach source (a ++ b) = inquireEach source a ++ inquireEach source b := by
  simp only [inquireEach_eq_map, List.map_append]

theorem together_finished (results : List (Except SourceFault Snapshot)) :
    Inquiry.together (inquireEach source (results.map .finished)) = ⟨[], results.mapM id⟩ := by
  have heach : inquireEach source (results.map .finished) = results.map (⟨[], ·⟩) := by
    rw [inquireEach_eq_map, List.map_map]
    rfl
  have hasked : (results.map fun r => (⟨[], r⟩ : Inquiry Snapshot)).flatMap (·.asked) = [] := by
    simp
  rw [heach, Inquiry.together, hasked, List.mapM_map]
  rfl

private theorem Step.leaves {t u : LookupTask} {question? : Option Question}
    (h : Step source t question? u) :
    Leaves (t.inquire source) question?.toList (u.inquire source) := by
  induction h with
  | answered question next =>
    rw [inquire_proceed, inquire]
    cases source.answer question.reference with
    | error fault => exact ⟨rfl, .refl _⟩
    | ok found => exact ⟨rfl, .refl _⟩
  | part before after next h ih =>
    rw [inquire, inquire, inquireEach_append, inquireEach_append, inquireEach, inquireEach]
    exact ih.together _ _ _
  | joined results next =>
    rw [inquire_proceed, inquire, together_finished]
    exact .refl _

private theorem Runs.leaves {t u : LookupTask} {asked : List Question} (h : Runs source t asked u) :
    Leaves (t.inquire source) asked (u.inquire source) := by
  induction h with
  | nil t => exact .refl _
  | cons head tail ih => exact head.leaves.trans ih

mutual

/-- The number of steps that are left of a task. -/
def stepsLeft (source : Source) : LookupTask → Nat
  | .finished _ => 0
  | .waiting question next =>
    1 + match source.answer question.reference with
      | .ok found => (next found).stepsLeft source
      | .error _ => 0
  | .joining parts next =>
    stepsLeftEach source parts + 1 +
      match (Inquiry.together (inquireEach source parts)).result with
      | .ok ss => (next ss).stepsLeft source
      | .error _ => 0

def stepsLeftEach (source : Source) : List LookupTask → Nat
  | [] => 0
  | t :: ts => t.stepsLeft source + stepsLeftEach source ts

end

private theorem stepsLeftEach_append (a b : List LookupTask) :
    stepsLeftEach source (a ++ b) = stepsLeftEach source a + stepsLeftEach source b := by
  induction a with
  | nil => rw [List.nil_append, stepsLeftEach, Nat.zero_add]
  | cons t a ih => rw [List.cons_append, stepsLeftEach, stepsLeftEach, ih, Nat.add_assoc]

private theorem stepsLeftEach_finished (results : List (Except SourceFault Snapshot)) :
    stepsLeftEach source (results.map .finished) = 0 := by
  induction results with
  | nil => rfl
  | cons r results ih => rw [List.map_cons, stepsLeftEach, ih, stepsLeft]

private theorem stepsLeft_proceed {α : Type} (result : Except SourceFault α)
    (next : α → LookupTask) :
    (proceed result next).stepsLeft source = match result with
      | .ok a => (next a).stepsLeft source
      | .error _ => 0 := by
  cases result with
  | error fault => rw [proceed, stepsLeft]
  | ok a => rfl

private theorem Step.stepsLeft_eq {t u : LookupTask} {question? : Option Question}
    (h : Step source t question? u) : t.stepsLeft source = u.stepsLeft source + 1 := by
  induction h with
  | answered question next =>
    rw [stepsLeft_proceed, stepsLeft, Nat.add_comm]
    cases source.answer question.reference <;> rfl
  | part before after next h ih =>
    have hresult := result_together_part h.leaves.result (inquireEach source before)
      (inquireEach source after)
    simp only [stepsLeft, inquireEach_append, inquireEach, stepsLeftEach_append, stepsLeftEach,
      hresult, ih]
    omega
  | joined results next =>
    rw [stepsLeft_proceed, stepsLeft, together_finished, stepsLeftEach_finished, Nat.add_comm]
    cases results.mapM id <;> rfl

/-- No task takes steps for ever. -/
theorem no_endless_schedule (schedule : Nat → LookupTask) :
    ¬ ∀ i, ∃ question?, Step source (schedule i) question? (schedule (i + 1)) := by
  intro hsteps
  have hleft : ∀ i, (schedule i).stepsLeft source + i = (schedule 0).stepsLeft source := by
    intro i
    induction i with
    | zero => rfl
    | succ i ih =>
      obtain ⟨question?, hstep⟩ := hsteps i
      rw [← ih, hstep.stepsLeft_eq]
      omega
  have hend := hleft ((schedule 0).stepsLeft source + 1)
  omega

private theorem Runs.append {t u v : LookupTask} {a b : List Question} (h : Runs source t a u)
    (hrest : Runs source u b v) : Runs source t (a ++ b) v := by
  induction h with
  | nil t => exact hrest
  | cons head tail ih =>
    rw [List.append_assoc]
    exact .cons head (ih hrest)

private theorem Step.runs {t u : LookupTask} {question? : Option Question}
    (h : Step source t question? u) : Runs source t question?.toList u := by
  have hrun := Runs.cons h (.nil u)
  rwa [List.append_nil] at hrun

private theorem Runs.eq_or_step {t u : LookupTask} {asked : List Question}
    (h : Runs source t asked u) :
    t = u ∨ ∃ question? v, Step source t question? v := by
  cases h with
  | nil => exact Or.inl rfl
  | cons head tail => exact Or.inr ⟨_, _, head⟩

private theorem Runs.part {p p' : LookupTask} {asked : List Question} (h : Runs source p asked p')
    (before after : List LookupTask) (next : List Snapshot → LookupTask) :
    Runs source (.joining (before ++ p :: after) next) asked
      (.joining (before ++ p' :: after) next) := by
  induction h with
  | nil p => exact .nil _
  | cons head tail ih => exact .cons (.part before after next head) ih

/-- The parts of a join can be brought to their ends one after the other. -/
theorem runs_parts {parts : List LookupTask} (next : List Snapshot → LookupTask)
    (h : ∀ p ∈ parts, Runs source p (p.inquire source).asked
      (.finished (p.inquire source).result)) (done : List (Except SourceFault Snapshot)) :
    Runs source (.joining (done.map .finished ++ parts) next)
      ((inquireEach source parts).flatMap (·.asked))
      (.joining ((done ++ (inquireEach source parts).map (·.result)).map .finished) next) := by
  induction parts generalizing done with
  | nil =>
    rw [inquireEach, List.map_nil, List.append_nil, List.append_nil]
    exact .nil _
  | cons p parts ih =>
    obtain ⟨hp, hrest⟩ := List.forall_mem_cons.1 h
    have hfirst := hp.part (done.map .finished) parts next
    have hlast := ih hrest (done ++ [(p.inquire source).result])
    rw [List.map_append, List.append_assoc, List.append_assoc] at hlast
    rw [inquireEach, List.flatMap_cons, List.map_cons]
    exact hfirst.append hlast

/-- Every task can be brought to its end in order. -/
theorem runs_inquire (t : LookupTask) :
    Runs source t (t.inquire source).asked (.finished (t.inquire source).result) := by
  induction t using induct with
  | finished result => exact .nil _
  | waiting question next ih =>
    have hstep : Step source (.waiting question next) (some question)
        (proceed (source.answer question.reference) next) := .answered question next
    rw [inquire, Inquiry.asked_bind, Inquiry.result_bind]
    cases hanswer : source.answer question.reference with
    | error fault =>
      rw [hanswer] at hstep
      exact hstep.runs
    | ok found =>
      rw [hanswer] at hstep
      exact .cons hstep (ih found)
  | joining parts next hparts hnext =>
    have hall := runs_parts next hparts []
    have hjoin : Step source
        (.joining (((inquireEach source parts).map (·.result)).map .finished) next) none
        (proceed (((inquireEach source parts).map (·.result)).mapM id) next) := .joined _ next
    have hresult : ((inquireEach source parts).map (·.result)).mapM id =
        (Inquiry.together (inquireEach source parts)).result := by
      rw [List.mapM_map]
      rfl
    rw [hresult] at hjoin
    rw [inquire, Inquiry.asked_bind, Inquiry.result_bind]
    cases hgathered : (Inquiry.together (inquireEach source parts)).result with
    | error fault =>
      rw [hgathered] at hjoin
      have hrun := hall.append hjoin.runs
      rwa [Option.toList_none, List.append_nil] at hrun
    | ok ss =>
      rw [hgathered] at hjoin
      exact hall.append (.cons hjoin (hnext ss))

end
end LookupTask

open LookupTask

/-- The answers to the questions of a resolution may come in any order. A schedule of them that
comes to its end has the result of the resolution, and has asked the same questions; one that has
not can go on, and comes to its end. To ask in order is one of these schedules. -/
theorem Node.resolve_on_any_schedule (source : Source) (n : Node) :
    Runs source n.lookupTask (n.resolve source).asked (.finished (n.resolve source).result) ∧
    (∀ asked t, Runs source n.lookupTask asked t →
      (∀ result, t = .finished result →
        result = (n.resolve source).result ∧ asked.Perm (n.resolve source).asked) ∧
      (t = .finished (n.resolve source).result ∨ ∃ question? u, Step source t question? u)) ∧
    (∀ schedule : Nat → LookupTask, schedule 0 = n.lookupTask →
      ¬ ∀ i, ∃ question?, Step source (schedule i) question? (schedule (i + 1))) := by
  have hinquire := n.inquire_lookupTask source
  refine ⟨?inOrder, ?any, fun schedule _ => no_endless_schedule schedule⟩
  case inOrder =>
    rw [← hinquire]
    exact runs_inquire n.lookupTask
  case any =>
    intro asked t hrun
    have hleaves := hrun.leaves
    rw [hinquire] at hleaves
    constructor
    · rintro result rfl
      have hasked := hleaves.asked
      rw [inquire, List.append_nil] at hasked
      exact ⟨hleaves.result, hasked⟩
    · have hrest : Runs source t _ (.finished (t.inquire source).result) := runs_inquire t
      rw [hleaves.result] at hrest
      exact hrest.eq_or_step

/-- A group of two texts, each with a style that is asked for. -/
private def twoStyles : Node where
  id := ⟨"0"⟩
  kind := .group
  name := "Pair"
  children := [
    { id := ⟨"1"⟩, kind := .text, name := "A", fillStyle := some ⟨"S:1"⟩ },
    { id := ⟨"2"⟩, kind := .text, name := "B", fillStyle := some ⟨"S:2"⟩ }]

private def offlineStyles : Source where
  mainComponent _ := .ok none
  component _ := .ok none
  style id := .error (.lookup "style" id.text "offline")
  boundVariable _ := .ok none

/-- The second text fails before the first one, and yet the fault of the first one counts. -/
theorem Node.resolve_on_any_schedule_twoStyles :
    let result := .error (.lookup "style" "S:1" "offline")
    Runs offlineStyles twoStyles.lookupTask [⟨"B", .style ⟨"S:2"⟩⟩, ⟨"A", .style ⟨"S:1"⟩⟩]
      (.finished result) ∧ result = (twoStyles.resolve offlineStyles).result := by
  intro result
  have hrun : Runs offlineStyles twoStyles.lookupTask
      [⟨"B", .style ⟨"S:2"⟩⟩, ⟨"A", .style ⟨"S:1"⟩⟩] (.finished result) := by
    change Runs offlineStyles (.joining [.waiting _ _, .waiting _ _] _) _ _
    exact .cons (.part [_] [] _ (.answered _ _))
      (.cons (.part [] [_] _ (.answered _ _)) (.cons (.joined [_, _] _) (.nil _)))
  have hsame := ((resolve_on_any_schedule offlineStyles twoStyles).2.1 _ _ hrun).1 result rfl
  exact ⟨hrun, hsame.1⟩

end Mockup
