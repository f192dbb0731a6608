import Mockup.Generation
import Mockup.Proofs.Resolution.Faults
import Mockup.Proofs.View.Faults
import Mockup.Proofs.View.File

/-!
# Outcome of a generation

A generation hands out one diagnostic or both files, and which of them is decided by the questions
of the resolution and by the visible instances.
-/

namespace Mockup.Generation

theorem exists_generated {g : Generation} (h : g.hasFailed = false) :
    ∃ view model state, g = .generated view model state := by
  cases g with
  | generated view model state => exact ⟨view, model, state, rfl⟩
  | failed diagnostic => cases h

/-- What makes the generation for a node fail: a question answered with a fault, or a visible
instance that lacks a part. -/
def Fails (source : Source) (n : Node) (config : Config) : Prop :=
  (∃ q ∈ (n.resolve source).asked, (q.fault? source).isSome) ∨
  ∃ s, (n.resolve source).result = .ok s ∧ ∃ i ∈ s.visibleInstances config, i.Faulty config

/-- The two files of a view with this body and state. -/
def IsAssembly (root : Node) (config : Config) (body : String) (state : ModelState)
    (g : Generation) : Prop :=
  let typeName := Text.compactName root.name
  ∃ view model, viewFile typeName root.name body config = .ok view ∧
    modelFile typeName root.name state = .ok model ∧
    g = .generated (.swift (typeName ++ "View.swift") view)
      (.swift (typeName ++ "ViewModel.swift") model) state

private theorem assemble_succeeds (root : Node) (config : Config) (body : String)
    (state : ModelState) :
    ∃ g, assemble root config body state = .ok g ∧ IsAssembly root config body state g := by
  have hview := viewFile_eq (Text.compactName root.name) root.name body config
  have hmodel := modelFile_eq (Text.compactName root.name) root.name state
  refine ⟨_, ?_, _, _, hview, hmodel, rfl⟩
  rw [assemble, hview, hmodel]
  rfl

variable {source : Source} {n : Node} {config : Config}

private theorem attempt_of_fault {fault : SourceFault}
    (h : (n.resolve source).result = .error fault) :
    (attempt source n config).2 = .error (.source fault) := by
  simp only [attempt, h]

private theorem attempt_of_lack {s : Snapshot} {fault : WidgetFault}
    (h : (n.resolve source).result = .ok s)
    (hlack : (Composer.compose { config } s).1 = .error fault) :
    (attempt source n config).2 = .error (.widget fault) := by
  have hrun : (Composer.run { config } s).1 = .error fault := hlack
  simp only [attempt, h, hrun]

private theorem attempt_of_composed {s : Snapshot} {body : String}
    (h : (n.resolve source).result = .ok s)
    (hbody : (Composer.compose { config } s).1 = .ok body) :
    ∃ g, (attempt source n config).2 = .ok g ∧
      IsAssembly n config body (Composer.compose { config } s).2.state g := by
  have hrun : (Composer.run { config } s).1 = .ok body := hbody
  obtain ⟨g, hg, hassembly⟩ :=
    assemble_succeeds n config body (Composer.compose { config } s).2.state
  refine ⟨g, ?_, hassembly⟩
  have hstate : (Composer.compose { config } s).2.state = (Composer.run { config } s).2.state :=
    rfl
  rw [hstate] at hg
  simp only [attempt, h, hrun, hg]
  rfl

theorem fails_of_fault {fault : SourceFault} (h : (n.resolve source).result = .error fault) :
    Fails source n config := by
  have hends : faultOf? (n.resolve source).result =
      firstFault? source (n.resolve source).asked := n.resolve_endsAtFault source
  rw [h] at hends
  exact Or.inl (List.findSome?_isSome_iff.1 (Option.isSome_iff_exists.2 ⟨fault, hends.symm⟩))

/-- Once the node is resolved, only visible instances make the generation fail. -/
theorem fails_iff_of_resolved {s : Snapshot} (h : (n.resolve source).result = .ok s) :
    Fails source n config ↔ ∃ i ∈ s.visibleInstances config, i.Faulty config := by
  have hends : faultOf? (n.resolve source).result =
      firstFault? source (n.resolve source).asked := n.resolve_endsAtFault source
  rw [h] at hends
  have hasked : ∀ q ∈ (n.resolve source).asked, q.fault? source = none :=
    List.findSome?_eq_none_iff.1 hends.symm
  constructor
  · rintro (⟨q, hq, hfault⟩ | ⟨t, ht, hfaulty⟩)
    · rw [hasked q hq] at hfault
      contradiction
    · rw [h] at ht
      cases ht
      exact hfaulty
  · intro hfaulty
    exact Or.inr ⟨s, h, hfaulty⟩

private theorem artifacts_of_error {fault : GenerationFault}
    (h : (attempt source n config).2 = .error fault) :
    (run source (some n) config).artifacts = [.diagnostic aborted] := by
  simp only [run, runLogged]
  rcases hattempt : attempt source n config with ⟨log, result⟩
  rw [hattempt] at h
  cases h
  rfl

private theorem run_of_ok {g : Generation} (h : (attempt source n config).2 = .ok g) :
    run source (some n) config = g := by
  simp only [run, runLogged]
  rcases hattempt : attempt source n config with ⟨log, result⟩
  rw [hattempt] at h
  cases h
  rfl

/-- For a node there is one diagnostic when something fails, and both files else. -/
theorem run_some_cases (source : Source) (n : Node) (config : Config) :
    (Fails source n config ∧
      (run source (some n) config).artifacts = [.diagnostic aborted]) ∨
    (¬ Fails source n config ∧ ∃ s body, (n.resolve source).result = .ok s ∧
      (Composer.compose { config } s).1 = .ok body ∧
      IsAssembly n config body (Composer.compose { config } s).2.state
        (run source (some n) config)) := by
  cases h : (n.resolve source).result with
  | error fault => exact Or.inl ⟨fails_of_fault h, artifacts_of_error (attempt_of_fault h)⟩
  | ok s =>
    rw [fails_iff_of_resolved h, ← Composer.compose_fails_iff { config } s]
    cases hbody : (Composer.compose { config } s).1 with
    | error fault =>
      exact Or.inl ⟨⟨fault, rfl⟩, artifacts_of_error (attempt_of_lack h hbody)⟩
    | ok body =>
      obtain ⟨g, hg, hassembly⟩ := attempt_of_composed h hbody
      rw [run_of_ok hg]
      refine Or.inr ⟨?_, s, body, rfl, hbody, hassembly⟩
      rintro ⟨fault, hfault⟩
      cases hfault

/-- A generation says that nothing is selected without a node, that it is aborted when a question
fails or a visible instance lacks a part, and else hands out exactly both files. -/
theorem run_artifacts (source : Source) (root : Option Node) (config : Config) :
    let artifacts := (run source root config).artifacts
    (artifacts = [.diagnostic nothingSelected] ↔ root = none) ∧
    (artifacts = [.diagnostic aborted] ↔ ∃ n, root = some n ∧ Fails source n config) ∧
    (∀ n, root = some n → ¬ Fails source n config → ∃ s body view model,
      (n.resolve source).result = .ok s ∧ (Composer.compose { config } s).1 = .ok body ∧
      viewFile (Text.compactName n.name) n.name body config = .ok view ∧
      modelFile (Text.compactName n.name) n.name (Composer.compose { config } s).2.state =
        .ok model ∧
      artifacts = [.swift (Text.compactName n.name ++ "View.swift") view,
        .swift (Text.compactName n.name ++ "ViewModel.swift") model]) := by
  intro artifacts
  have hmessages : Artifact.diagnostic aborted ≠ .diagnostic nothingSelected := by decide
  cases root with
  | none =>
    have hnone : artifacts = [.diagnostic nothingSelected] := rfl
    refine ⟨⟨fun _ => rfl, fun _ => hnone⟩, ⟨fun h => ?_, ?_⟩, ?_⟩
    · rw [hnone] at h
      exact absurd (List.cons.inj h).1.symm hmessages
    · rintro ⟨n, hn, -⟩
      cases hn
    · intro n hn
      cases hn
  | some n =>
    rcases run_some_cases source n config with ⟨hfails, hrun⟩ | ⟨hsound, s, body, hs, hbody, h⟩
    · have hrun : artifacts = [.diagnostic aborted] := hrun
      refine ⟨⟨fun h => ?_, fun h => by cases h⟩, ⟨fun _ => ⟨n, rfl, hfails⟩, fun _ => hrun⟩, ?_⟩
      · rw [hrun] at h
        exact absurd (List.cons.inj h).1 hmessages
      · rintro m ⟨⟩ hsound
        exact absurd hfails hsound
    · obtain ⟨view, model, hview, hmodel, hg⟩ := h
      have hboth : artifacts = [.swift (Text.compactName n.name ++ "View.swift") view,
          .swift (Text.compactName n.name ++ "ViewModel.swift") model] :=
        congrArg Generation.artifacts hg
      refine ⟨⟨fun h => ?_, fun h => by cases h⟩, ⟨fun h => ?_, ?_⟩, ?_⟩
      · rw [hboth] at h
        cases h
      · rw [hboth] at h
        cases h
      · rintro ⟨m, ⟨⟩, hfails⟩
        exact absurd hfails hsound
      · rintro m ⟨⟩ -
        exact ⟨s, body, view, model, hs, hbody, hview, hmodel, hboth⟩

end Mockup.Generation
