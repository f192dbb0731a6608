import Mockup.Proofs.Fault
import Mockup.Proofs.Node.Tree
import Mockup.Snapshot.Resolve

/-!
# Faults of a resolution

A resolution is compared with a depth-first one that gathers the children of every node in turn.
The two end alike, and the depth-first one asks the same questions up to the first that fails.
-/

namespace Mockup

/-- The fault that a source answers a reference with. -/
def Source.fault? (source : Source) : Reference → Option SourceFault
  | .mainComponent node => faultOf? (source.mainComponent node)
  | .component id => faultOf? (source.component id)
  | .style id => faultOf? (source.style id)
  | .boundVariable id => faultOf? (source.boundVariable id)

/-- The fault that a question is answered with. -/
def Question.fault? (source : Source) (q : Question) : Option SourceFault :=
  source.fault? q.reference

/-- The first fault that questions are answered with. -/
def firstFault? (source : Source) (qs : List Question) : Option SourceFault :=
  qs.findSome? (·.fault? source)

private theorem firstFault?_append (source : Source) (a b : List Question) :
    firstFault? source (a ++ b) = (firstFault? source a).or (firstFault? source b) :=
  List.findSome?_append

/-- The questions up to the first one that fails, which is the last of them. -/
def throughFault (source : Source) : List Question → List Question
  | [] => []
  | q :: rest => if (q.fault? source).isSome then [q] else q :: throughFault source rest

private theorem throughFault_append (source : Source) (a b : List Question) :
    throughFault source (a ++ b) =
      if (firstFault? source a).isSome then throughFault source a
      else throughFault source a ++ throughFault source b := by
  induction a with
  | nil => rfl
  | cons q a ih =>
    cases hq : q.fault? source with
    | some fault => simp [throughFault, firstFault?, hq]
    | none =>
      have hf : firstFault? source (q :: a) = firstFault? source a := by
        simp only [firstFault?, List.findSome?_cons, hq]
      rw [List.cons_append, hf]
      simp only [throughFault, hq, Option.isSome_none, Bool.false_eq_true, if_false, ih]
      split <;> rfl

private theorem throughFault_eq_self (source : Source) {qs : List Question}
    (h : firstFault? source qs = none) : throughFault source qs = qs := by
  induction qs with
  | nil => rfl
  | cons q qs ih =>
    rw [firstFault?, List.findSome?_cons] at h
    cases hq : q.fault? source with
    | some fault => simp [hq] at h
    | none =>
      rw [hq] at h
      simp only [throughFault, hq, Option.isSome_none, Bool.false_eq_true, if_false, ih h]

private theorem throughFault_isPrefix (source : Source) (qs : List Question) :
    throughFault source qs <+: qs := by
  induction qs with
  | nil => exact List.prefix_rfl
  | cons q qs ih =>
    rw [throughFault]
    split
    · exact ⟨qs, rfl⟩
    · exact (List.prefix_cons_inj q).2 ih

namespace Inquiry

variable {α β : Type} {source : Source}

/-- The result is the first fault among the answers, and no fault when there is none. -/
def EndsAtFault (source : Source) (q : Inquiry α) : Prop :=
  faultOf? q.result = firstFault? source q.asked

private theorem EndsAtFault.pure (a : α) : EndsAtFault source (Pure.pure a) := rfl

private theorem EndsAtFault.ask (asker : Node) {reference : Reference} {answer : Answer α}
    (h : faultOf? answer = source.fault? reference) :
    EndsAtFault source (Inquiry.ask asker reference answer) := by
  rw [EndsAtFault, Inquiry.ask, h, firstFault?, List.findSome?_cons]
  cases hf : source.fault? reference <;> simp [Question.fault?, hf]

theorem asked_bind (q : Inquiry α) (next : α → Inquiry β) :
    (q >>= next).asked = match q.result with
      | .error _ => q.asked
      | .ok a => q.asked ++ (next a).asked := by
  change (bind q next).asked = _
  rw [bind]
  cases q.result <;> rfl

theorem result_bind (q : Inquiry α) (next : α → Inquiry β) :
    (q >>= next).result = match q.result with
      | .error fault => .error fault
      | .ok a => (next a).result := by
  change (bind q next).result = _
  rw [bind]
  cases q.result <;> rfl

private theorem EndsAtFault.bind {q : Inquiry α} {next : α → Inquiry β} (hq : EndsAtFault source q)
    (hn : ∀ a, EndsAtFault source (next a)) : EndsAtFault source (q >>= next) := by
  unfold EndsAtFault at hq ⊢
  rw [asked_bind, result_bind]
  cases hr : q.result with
  | error fault =>
    rw [hr] at hq
    exact hq
  | ok a =>
    rw [hr] at hq
    change faultOf? (next a).result = firstFault? source (q.asked ++ (next a).asked)
    rw [firstFault?_append, ← hq, hn a]
    rfl

private theorem EndsAtFault.inTurn {qs : List (Inquiry α)} (h : ∀ q ∈ qs, EndsAtFault source q) :
    EndsAtFault source (inTurn qs) := by
  induction qs with
  | nil => exact .pure _
  | cons q qs ih =>
    rw [Inquiry.inTurn]
    have hrest := ih fun r hr => h r (List.mem_cons_of_mem q hr)
    exact (h q List.mem_cons_self).bind fun a => hrest.bind fun as => .pure _

theorem result_together_cons (q : Inquiry α) (qs : List (Inquiry α)) :
    (together (q :: qs)).result = match q.result with
      | .error fault => .error fault
      | .ok a => (together qs).result.map (a :: ·) := by
  simp only [together, List.mapM_cons]
  cases q.result with
  | error fault => rfl
  | ok a => cases qs.mapM (·.result) <;> rfl

private theorem asked_together_cons (q : Inquiry α) (qs : List (Inquiry α)) :
    (together (q :: qs)).asked = q.asked ++ (together qs).asked := by
  simp only [together, List.flatMap_cons]

private theorem EndsAtFault.together {qs : List (Inquiry α)} (h : ∀ q ∈ qs, EndsAtFault source q) :
    EndsAtFault source (together qs) := by
  induction qs with
  | nil => rfl
  | cons q qs ih =>
    have hq : faultOf? q.result = firstFault? source q.asked := h q List.mem_cons_self
    have hrest := ih fun r hr => h r (List.mem_cons_of_mem q hr)
    unfold EndsAtFault at hrest ⊢
    rw [asked_together_cons, result_together_cons, firstFault?_append, ← hq]
    cases q.result with
    | error fault => rfl
    | ok a =>
      change faultOf? ((Inquiry.together qs).result.map (a :: ·)) = _
      rw [faultOf?_map, hrest]
      rfl

/-- The first inquiry is the second one, made to stop at the first question that fails. -/
structure Curtails (source : Source) (p q : Inquiry α) : Prop where
  result : p.result = q.result
  asked : p.asked = throughFault source q.asked

private theorem Curtails.pure (a : α) : Curtails source (Pure.pure a) (Pure.pure a) := ⟨rfl, rfl⟩

private theorem Curtails.ask (asker : Node) (reference : Reference) (answer : Answer α) :
    Curtails source (Inquiry.ask asker reference answer) (Inquiry.ask asker reference answer) := by
  refine ⟨rfl, ?_⟩
  simp only [Inquiry.ask, throughFault]
  split <;> rfl

private theorem Curtails.bind {p q : Inquiry α} {f g : α → Inquiry β} (h : Curtails source p q)
    (hq : EndsAtFault source q) (hfg : ∀ a, Curtails source (f a) (g a)) :
    Curtails source (p >>= f) (q >>= g) := by
  have hq : faultOf? q.result = firstFault? source q.asked := hq
  constructor
  · rw [result_bind, result_bind, h.result]
    cases q.result with
    | error fault => rfl
    | ok a => exact (hfg a).result
  · rw [asked_bind, asked_bind, h.result, h.asked]
    cases hr : q.result with
    | error fault => rfl
    | ok a =>
      rw [hr] at hq
      have hnone : firstFault? source q.asked = none := hq.symm
      dsimp only
      rw [throughFault_append, hnone, (hfg a).asked]
      rfl

private theorem Curtails.inTurn {p : α → Inquiry β} {q : α → Inquiry β} {as : List α}
    (h : ∀ a ∈ as, Curtails source (p a) (q a)) (hq : ∀ a ∈ as, EndsAtFault source (q a)) :
    Curtails source (Inquiry.inTurn (as.map p)) (Inquiry.inTurn (as.map q)) := by
  induction as with
  | nil => exact .pure _
  | cons a as ih =>
    have hrest := ih (fun b hb => h b (List.mem_cons_of_mem a hb))
      fun b hb => hq b (List.mem_cons_of_mem a hb)
    have hends : EndsAtFault source (Inquiry.inTurn (as.map q)) := by
      apply EndsAtFault.inTurn
      intro r hr
      obtain ⟨b, hb, rfl⟩ := List.mem_map.1 hr
      exact hq b (List.mem_cons_of_mem a hb)
    rw [List.map_cons, List.map_cons, Inquiry.inTurn, Inquiry.inTurn]
    exact (h a List.mem_cons_self).bind (hq a List.mem_cons_self) fun b =>
      hrest.bind hends fun bs => .pure _

/-- To ask all and then take the first failure ends as asking in turn does, and only asks more
behind that failure. -/
theorem Curtails.together {p : α → Inquiry β} {q : α → Inquiry β} {as : List α}
    (h : ∀ a ∈ as, Curtails source (p a) (q a)) (hq : ∀ a ∈ as, EndsAtFault source (q a)) :
    Curtails source (Inquiry.inTurn (as.map p)) (Inquiry.together (as.map q)) := by
  induction as with
  | nil => exact ⟨rfl, rfl⟩
  | cons a as ih =>
    have ha := h a List.mem_cons_self
    have hends : faultOf? (q a).result = firstFault? source (q a).asked :=
      hq a List.mem_cons_self
    have hrest := ih (fun b hb => h b (List.mem_cons_of_mem a hb))
      fun b hb => hq b (List.mem_cons_of_mem a hb)
    rw [List.map_cons, List.map_cons, Inquiry.inTurn]
    constructor
    · rw [result_bind, ha.result, result_together_cons]
      cases (q a).result with
      | error fault => rfl
      | ok b =>
        dsimp only
        rw [result_bind, hrest.result]
        cases (Inquiry.together (as.map q)).result <;> rfl
    · rw [asked_bind, ha.result, ha.asked, asked_together_cons, throughFault_append, ← hends]
      cases (q a).result with
      | error fault => rfl
      | ok b =>
        dsimp only
        rw [asked_bind, hrest.asked, hrest.result]
        cases (Inquiry.together (as.map q)).result with
        | error fault => rfl
        | ok bs => exact congrArg _ (List.append_nil _)

end Inquiry

namespace Node

mutual

/-- The snapshot of a design, gathered depth first: no question is asked behind one that fails. -/
def resolveInTurn (source : Source) : Node → Inquiry Snapshot
  | n@⟨_, kind, _, children, _, _, _, _, _, _⟩ => do
    let s ← n.resolveSelf source
    if kind = .componentInstance then return { s with children := [] }
    else return { s with children := ← resolveAllInTurn source children }

def resolveAllInTurn (source : Source) : List Node → Inquiry (List Snapshot)
  | [] => return []
  | n :: rest => do return (← n.resolveInTurn source) :: (← resolveAllInTurn source rest)

end

theorem resolve_eq (source : Source) (n : Node) :
    n.resolve source = (do
      let s ← n.resolveSelf source
      return { s with
        children := ← gather n.kind (n.children.map (·.resolve source)) }) := by
  have heach (cs : List Node) : resolveEach source cs = cs.map (·.resolve source) := by
    induction cs with
    | nil => rfl
    | cons c cs ih => rw [resolveEach, ih, List.map_cons]
  rw [← heach]
  cases n
  rfl

private theorem resolveInTurn_eq (source : Source) (n : Node) :
    n.resolveInTurn source = (do
      let s ← n.resolveSelf source
      if n.kind = .componentInstance then return { s with children := [] }
      else return { s with
        children := ← Inquiry.inTurn (n.children.map (·.resolveInTurn source)) }) := by
  have hall (cs : List Node) : resolveAllInTurn source cs =
      Inquiry.inTurn (cs.map (·.resolveInTurn source)) := by
    induction cs with
    | nil => rfl
    | cons c cs ih => rw [resolveAllInTurn, ih, List.map_cons, Inquiry.inTurn]
  rw [← hall]
  cases n
  rfl

section

variable (source : Source)

/-- An inquiry that ends at its first fault and stops there. -/
private def Sequential {α : Type} (q : Inquiry α) : Prop :=
  q.EndsAtFault source ∧ Inquiry.Curtails source q q

private theorem Sequential.pure {α : Type} (a : α) : Sequential source (Pure.pure a) :=
  ⟨.pure a, .pure a⟩

private theorem Sequential.bind {α β : Type} {q : Inquiry α} {next : α → Inquiry β}
    (hq : Sequential source q) (hn : ∀ a, Sequential source (next a)) :
    Sequential source (q >>= next) :=
  ⟨hq.1.bind fun a => (hn a).1, hq.2.bind hq.1 fun a => (hn a).2⟩

private theorem Sequential.ask {α : Type} (asker : Node) {reference : Reference}
    {answer : Answer α} (h : faultOf? answer = source.fault? reference) :
    Sequential source (Inquiry.ask asker reference answer) :=
  ⟨.ask asker h, .ask asker reference answer⟩

private theorem askComponent_sequential (n : Node) : Sequential source (n.askComponent source) := by
  rw [askComponent]
  split
  · exact .ask source n rfl
  · exact .pure source none

private theorem askStyle_sequential (n : Node) (style : Option StyleId) :
    Sequential source (n.askStyle source style) := by
  cases style with
  | none => exact .pure source none
  | some id => exact .ask source n rfl

private theorem askVariable_sequential (n : Node) : Sequential source (n.askVariable source) := by
  rw [askVariable]
  split
  · exact .pure source none
  · exact .ask source n rfl

private theorem askSwap_sequential (n : Node) (swaps : OrderedMap String String)
    (property : String × Property) : Sequential source (n.askSwap source swaps property) := by
  rw [askSwap]
  split
  · apply Sequential.bind source (.ask source n rfl)
    intro component
    split <;> exact .pure source _
  · exact .pure source swaps

private theorem askSwaps_sequential (n : Node) : Sequential source (n.askSwaps source) := by
  rw [askSwaps]
  split
  · generalize n.properties.entries = entries
    generalize OrderedMap.empty = swaps
    induction entries generalizing swaps with
    | nil => exact .pure source swaps
    | cons entry entries ih =>
      rw [List.foldlM_cons]
      exact (askSwap_sequential source n swaps entry).bind source ih
  · exact .pure source _

private theorem resolveSelf_sequential (n : Node) : Sequential source (n.resolveSelf source) := by
  rw [resolveSelf]
  refine (askComponent_sequential source n).bind source fun component => ?_
  refine (askSwaps_sequential source n).bind source fun swaps => ?_
  refine (askStyle_sequential source n _).bind source fun fillStyle => ?_
  refine (askStyle_sequential source n _).bind source fun cornerStyle => ?_
  refine (askStyle_sequential source n _).bind source fun textStyle => ?_
  refine (askVariable_sequential source n).bind source fun fillVariable => ?_
  exact .pure source _

end

private theorem gather_endsAtFault (source : Source) (kind : NodeKind)
    {qs : List (Inquiry Snapshot)}
    (h : ∀ q ∈ qs, q.EndsAtFault source) : (gather kind qs).EndsAtFault source := by
  rw [gather.eq_def]
  split
  · exact .pure []
  · exact .together h
  · exact .inTurn h

theorem resolve_endsAtFault (source : Source) (n : Node) :
    (n.resolve source).EndsAtFault source := by
  induction n using induct with
  | step n ih =>
    rw [resolve_eq]
    refine (resolveSelf_sequential source n).1.bind fun s => ?_
    refine (gather_endsAtFault source n.kind ?_).bind fun children => .pure _
    intro q hq
    obtain ⟨c, hc, rfl⟩ := List.mem_map.1 hq
    exact ih c hc

theorem resolveInTurn_curtails (source : Source) (n : Node) :
    (n.resolveInTurn source).Curtails source (n.resolve source) := by
  induction n using induct with
  | step n ih =>
    have hends : ∀ c ∈ n.children, (c.resolve source).EndsAtFault source :=
      fun c _ => resolve_endsAtFault source c
    have hself := resolveSelf_sequential source n
    rw [resolve_eq, resolveInTurn_eq]
    refine hself.2.bind hself.1 fun s => ?_
    by_cases hi : n.kind = .componentInstance
    · rw [if_pos hi, hi]
      exact .pure _
    · rw [if_neg hi]
      have hgather : (gather n.kind (n.children.map (·.resolve source))).EndsAtFault source :=
        gather_endsAtFault source n.kind fun q hq => by
          obtain ⟨c, hc, rfl⟩ := List.mem_map.1 hq
          exact hends c hc
      refine Inquiry.Curtails.bind ?_ hgather fun children => .pure _
      rw [gather.eq_def]
      split
      · contradiction
      · exact .together ih hends
      · exact .inTurn ih hends

/-- A resolution fails exactly when a question does, with the first fault there is; and the
depth-first one ends alike and asks the same questions as far as the first that fails. -/
theorem resolve_fails_at_first_fault (source : Source) (n : Node) :
    (∀ fault, (n.resolve source).result = .error fault ↔
      firstFault? source (n.resolve source).asked = some fault) ∧
    ((∃ fault, (n.resolve source).result = .error fault) ↔
      ∃ q ∈ (n.resolve source).asked, (q.fault? source).isSome) ∧
    (n.resolveInTurn source).result = (n.resolve source).result ∧
    (n.resolveInTurn source).asked <+: (n.resolve source).asked ∧
    (n.resolveInTurn source).asked = throughFault source (n.resolve source).asked ∧
    ((∀ q ∈ (n.resolve source).asked, q.fault? source = none) →
      (n.resolveInTurn source).asked = (n.resolve source).asked) := by
  have hends : faultOf? (n.resolve source).result =
      firstFault? source (n.resolve source).asked := resolve_endsAtFault source n
  have hcut := resolveInTurn_curtails source n
  have hfault (fault : SourceFault) : (n.resolve source).result = .error fault ↔
      firstFault? source (n.resolve source).asked = some fault := by
    rw [← hends, faultOf?_eq_some_iff]
  refine ⟨hfault, ?_, hcut.result, ?_, hcut.asked, ?_⟩
  · simp only [hfault, ← Option.isSome_iff_exists]
    exact List.findSome?_isSome_iff
  · rw [hcut.asked]
    exact throughFault_isPrefix source _
  · intro hnone
    rw [hcut.asked]
    exact throughFault_eq_self source (List.findSome?_eq_none_iff.2 hnone)

end Node
end Mockup
