import Mathlib.Tactic.Common
import Mockup.Proofs.CommandLine.Inputs
import Mockup.Proofs.Generation.Outcome
import Mockup.Proofs.Text.Words

/-!
# Delivery

What generating does to the files of a disk: nothing before both inputs are read, and then one
artifact after the other is written, up to the first whose write fails.
-/

namespace Mockup

private theorem Artifact.fileName_diagnostic (message : String) :
    (diagnostic message).fileName = "CodegenError.txt" := by
  have hname : Text.compactName "Codegen Error" ++ ".txt" = "CodegenError.txt" := by decide
  exact hname

private theorem Path.isPlain_of_mem {name : String} {c : Char} (hslash : '/' ∉ name.toList)
    (hmem : c ∈ name.toList) (hc : c ≠ '.') : IsPlain name := by
  have hne {other : String} (hother : c ∉ other.toList) : name ≠ other := by
    rintro rfl
    exact hother hmem
  refine ⟨hslash, ?_, hne (by simp [hc])⟩
  rw [staysThere, decide_eq_false (hne (by simp)), decide_eq_false (hne (by simp [hc]))]
  rfl

namespace Generation

/-- The names of the files that a generation is written to. Of the name of the root only letters and
digits are left. -/
theorem fileName_artifacts (source : Source) (root : Option Node) (config : Config) :
    let generation := run source root config
    (generation.hasFailed = true ∧
      generation.artifacts.map Artifact.fileName = ["CodegenError.txt"]) ∨
    (generation.hasFailed = false ∧ ∃ stem : String, (∀ c ∈ stem.toList, c.isAlphanum = true) ∧
      generation.artifacts.map Artifact.fileName =
        [stem ++ "View.swift", stem ++ "ViewModel.swift"]) := by
  intro generation
  have hfailed (message : String) (h : generation.artifacts = [.diagnostic message]) :
      generation.hasFailed = true ∧
        generation.artifacts.map Artifact.fileName = ["CodegenError.txt"] := by
    refine ⟨?_, by rw [h, List.map_singleton, Artifact.fileName_diagnostic]⟩
    cases hgeneration : generation with
    | generated view model state =>
      rw [hgeneration] at h
      cases h
    | failed diagnostic => rfl
  cases root with
  | none => exact Or.inl (hfailed nothingSelected rfl)
  | some n =>
    rcases run_some_cases source n config with ⟨-, h⟩ | ⟨-, s, body, -, -, h⟩
    · exact Or.inl (hfailed aborted h)
    · obtain ⟨view, model, -, -, hg⟩ := h
      have hg : generation = _ := hg
      rw [hg]
      exact Or.inr ⟨rfl, Text.compactName n.name, Text.isAlphanum_of_mem_compactName n.name, rfl⟩

private theorem artifacts_ne_nil (g : Generation) : g.artifacts ≠ [] := by
  cases g <;> exact List.cons_ne_nil _ _

theorem plain_fileNames (source : Source) (root : Option Node) (config : Config) :
    let artifacts := (run source root config).artifacts
    (artifacts.map Artifact.fileName).Nodup ∧ ∀ a ∈ artifacts, Path.IsPlain a.fileName := by
  intro artifacts
  have hplain {names : List String} (hnames : artifacts.map Artifact.fileName = names)
      (h : ∀ name ∈ names, Path.IsPlain name) : ∀ a ∈ artifacts, Path.IsPlain a.fileName :=
    fun a ha => h _ (hnames ▸ List.mem_map_of_mem ha)
  rcases fileName_artifacts source root config with ⟨-, hnames⟩ | ⟨-, stem, hstem, hnames⟩
  · refine ⟨hnames ▸ List.nodup_singleton _, hplain hnames ?_⟩
    rw [List.forall_mem_singleton]
    exact Path.isPlain_of_mem (c := 'C') (by decide) (by decide) (by decide)
  · have hslash : '/' ∉ stem.toList := fun hmem => absurd (hstem _ hmem) (by decide)
    have hends {ending : String} (h : '/' ∉ ending.toList) (hw : 'w' ∈ ending.toList) :
        Path.IsPlain (stem ++ ending) := by
      refine Path.isPlain_of_mem (c := 'w') ?_ ?_ (by decide)
      · rw [String.toList_append, List.mem_append, not_or]
        exact ⟨hslash, h⟩
      · rw [String.toList_append]
        exact List.mem_append_right _ hw
    refine ⟨?_, hplain hnames ?_⟩
    · have hnodup : [stem ++ "View.swift", stem ++ "ViewModel.swift"].Nodup := by simp
      exact hnames ▸ hnodup
    · rw [List.forall_mem_cons, List.forall_mem_singleton]
      exact ⟨hends (by decide) (by decide), hends (by decide) (by decide)⟩

end Generation

/-- The name and the content of the file for an artifact. -/
def Artifact.file (a : Artifact) : String × String :=
  (a.fileName, a.code)

/-- The artifacts are children of a directory, and every other file is what it was before. -/
structure FileTree.Receives (before after : FileTree) (directory : Place)
    (artifacts : List Artifact) : Prop where
  content : ∀ a ∈ artifacts, after.file? (directory.child a.fileName) = some a.code
  others : ∀ place, (∀ a ∈ artifacts, place ≠ directory.child a.fileName) →
    after.file? place = before.file? place

private theorem FileTree.receives_fill {before made : FileTree} (h : before.AddsDirectories made)
    (directory : Place) {artifacts : List Artifact}
    (hnodup : (artifacts.map Artifact.fileName).Nodup) :
    before.Receives (made.fill directory (artifacts.map Artifact.file)) directory artifacts where
  content a ha := by
    have hnodup : ((artifacts.map Artifact.file).map Prod.fst).Nodup := by
      rw [List.map_map]
      exact hnodup
    exact file?_fill_of_mem hnodup (List.mem_map_of_mem ha) made directory
  others place hplace := by
    rw [file?_fill_of_notMem (by rwa [List.forall_mem_map]), h.file?]

namespace Disk

open CommandLine

variable {σ : Type} (disk : Disk σ)

/-- How the delivery of artifacts to the directory at a path ends. Artifacts stay unwritten only if
the directory cannot be made, or if a write fails, which is the write of the first of them. -/
inductive Delivery (path : String) (before : FileTree) (after : σ) :
    (written unwritten : List Artifact) → Prop
  | complete {directory : Place} {written : List Artifact}
      (hdirectory : (disk.tree after).directory? path = some directory)
      (hreceives : before.Receives (disk.tree after) directory written) :
      Delivery path before after written []
  | cut {directory : Place} {written rest : List Artifact} {a : Artifact} {middle : σ}
      (hdirectory : (disk.tree middle).directory? path = some directory)
      (hreceives : before.Receives (disk.tree middle) directory written)
      (hfails : (disk.files.write (Path.join path a.fileName) a.code).run middle = (false, after))
      (hothers : ∀ place, place ≠ directory.child a.fileName →
        (disk.tree after).file? place = (disk.tree middle).file? place) :
      Delivery path before after written (a :: rest)
  | refused {artifacts : List Artifact} {start : σ} (hstart : disk.tree start = before)
      (hfails : (disk.files.makeDirectories path).run start = (false, after))
      (hothers : ∀ place, (disk.tree after).file? place = before.file? place) :
      Delivery path before after [] artifacts

/-- Artifacts are written up to the first whose write fails. -/
theorem run_writeAll {path : String} {directory : Place} {artifacts : List Artifact}
    (hplain : ∀ a ∈ artifacts, Path.IsPlain a.fileName) {s : σ}
    (hdirectory : (disk.tree s).directory? path = some directory) :
    ∃ written unwritten middle, artifacts = written ++ unwritten ∧
      (disk.tree middle).directory? path = some directory ∧
      disk.tree middle = (disk.tree s).fill directory (written.map Artifact.file) ∧
      match unwritten with
      | [] => ∃ paths, (writeAll disk.files path artifacts).run.run s = (.ok paths, middle)
      | a :: _ => ∃ fault after,
        (disk.files.write (Path.join path a.fileName) a.code).run middle = (false, after) ∧
        (writeAll disk.files path artifacts).run.run s = (.error fault, after) := by
  induction artifacts generalizing s with
  | nil => exact ⟨[], [], s, rfl, hdirectory, rfl, [], rfl⟩
  | cons a rest ih =>
    rw [List.forall_mem_cons] at hplain
    rcases hwrite : (disk.files.write (Path.join path a.fileName) a.code).run s with
      ⟨_ | _, after⟩
    · refine ⟨[], a :: rest, s, rfl, hdirectory, rfl,
        .unwritable (Path.join path a.fileName), after, hwrite, ?_⟩
      rw [writeAll, run_bind_ok (run_lift hwrite)]
      rfl
    · obtain ⟨htree, hentry⟩ :=
        FileTree.write?_join hplain.1 hdirectory (disk.written hwrite)
      have hafter : (disk.tree after).directory? path = some directory := by
        rw [htree, FileTree.directory?_put_file hentry, hdirectory]
      obtain ⟨written, unwritten, middle, hrest, hmiddle, hfill, hrun⟩ := ih hplain.2 hafter
      refine ⟨a :: written, unwritten, middle, by rw [hrest, List.cons_append], hmiddle, ?_, ?_⟩
      · rw [hfill, htree, List.map_cons]
        rfl
      · rw [writeAll, run_bind_ok (run_lift hwrite)]
        cases unwritten with
        | nil =>
          obtain ⟨paths, hrun⟩ := hrun
          exact ⟨_, run_bind_ok hrun⟩
        | cons b unwritten =>
          obtain ⟨fault, last, hfails, hrun⟩ := hrun
          exact ⟨fault, last, hfails, run_bind_error hrun⟩

/-- Artifacts with plain names of their own are delivered, all of them if there is no fault. -/
theorem run_deliver (path : String) {artifacts : List Artifact} (hne : artifacts ≠ [])
    (hnodup : (artifacts.map Artifact.fileName).Nodup)
    (hplain : ∀ a ∈ artifacts, Path.IsPlain a.fileName) (s : σ) :
    ∃ written unwritten after, artifacts = written ++ unwritten ∧
      disk.Delivery path (disk.tree s) after written unwritten ∧
      ((unwritten = [] ∧
        ∃ paths, (deliver disk.files path artifacts).run.run s = (.ok paths, after)) ∨
      (unwritten ≠ [] ∧
        ∃ fault, (deliver disk.files path artifacts).run.run s = (.error fault, after))) := by
  rcases hmake : (disk.files.makeDirectories path).run s with ⟨_ | _, made⟩
  · refine ⟨[], artifacts, made, rfl, .refused rfl hmake (disk.unmade hmake).file?,
      Or.inr ⟨hne, .noDirectory path, ?_⟩⟩
    rw [deliver, run_bind_ok (run_lift hmake)]
    rfl
  · have hdeliver : (deliver disk.files path artifacts).run.run s =
        (writeAll disk.files path artifacts).run.run made := by
      rw [deliver, run_bind_ok (run_lift hmake)]
      rfl
    have hmade := disk.made hmake
    have hadds : (disk.tree s).AddsDirectories (disk.tree made) := by
      have hadds := (disk.tree s).makeDirectories_addsDirectories path
      rwa [hmade] at hadds
    obtain ⟨directory, hdirectory⟩ := FileTree.exists_directory?_of_makeDirectories hmade
    obtain ⟨written, unwritten, middle, hartifacts, hmiddle, hfill, hrun⟩ :=
      disk.run_writeAll hplain hdirectory
    have hreceives : (disk.tree s).Receives (disk.tree middle) directory written := by
      rw [hartifacts, List.map_append] at hnodup
      rw [hfill]
      exact FileTree.receives_fill hadds directory (List.nodup_append.1 hnodup).1
    rw [hdeliver]
    cases unwritten with
    | nil =>
      exact ⟨written, [], middle, hartifacts, .complete hmiddle hreceives, Or.inl ⟨rfl, hrun⟩⟩
    | cons a rest =>
      obtain ⟨fault, after, hfails, hrun⟩ := hrun
      have hplace : Path.IsPlain a.fileName :=
        hplain a (hartifacts ▸ List.mem_append_right _ List.mem_cons_self)
      refine ⟨written, a :: rest, after, hartifacts, .cut hmiddle hreceives hfails ?_,
        Or.inr ⟨List.cons_ne_nil a rest, fault, hrun⟩⟩
      intro place hother
      refine disk.torn hfails place ?_
      rw [FileTree.filePlace?_join _ _ hplace, hmiddle]
      split_ifs
      · exact fun h => hother (Option.some.inj h).symm
      · exact nofun

/-- What is reported in the end. -/
def concluded : Except CommandFault Report → Report
  | .ok report => report
  | .error fault => { fault := some fault }

private theorem run_of_perform {command : Command} {s after : σ}
    {result : Except CommandFault Report}
    (h : (perform disk.files command).run.run s = (result, after)) :
    (run disk.files command).run s = (concluded result, after) := by
  rw [run, StateT.run_bind, h]
  cases result <;> rfl

/-- What is left to do when both inputs are read. -/
def generateFor (directory : String) (toOutput : Bool) (document : Document) (config : Config) :
    ExceptT CommandFault (StateM σ) Report := do
  let (log, generation) := Generation.runLogged document.library.source document.root config
  let printed ← handOut disk.files directory toOutput generation.artifacts
  return { printed := String.join printed, log, fault := generationFault? generation }

private theorem isSome_generationFault? (g : Generation) :
    (generationFault? g).isSome = g.hasFailed := by
  cases g <;> rfl

section

variable {directory : String} {document : Document} {config : Config} {s after : σ}
  {result : Except CommandFault Report}

private theorem generateFor_printed
    (h : (disk.generateFor directory true document config).run.run s = (result, after)) :
    after = s ∧ (concluded result).fault.isSome =
      (Generation.run document.library.source document.root config).hasFailed := by
  cases h
  exact ⟨rfl, isSome_generationFault? _⟩

private theorem generateFor_delivered
    (h : (disk.generateFor directory false document config).run.run s = (result, after)) :
    let generation := Generation.run document.library.source document.root config
    ∃ written unwritten, generation.artifacts = written ++ unwritten ∧
      disk.Delivery directory (disk.tree s) after written unwritten ∧
      ((concluded result).fault.isSome = true ↔
        generation.hasFailed = true ∨ unwritten ≠ []) := by
  intro generation
  obtain ⟨hnodup, hplain⟩ :=
    Generation.plain_fileNames document.library.source document.root config
  obtain ⟨written, unwritten, last, hartifacts, hdelivery, hrun⟩ :=
    disk.run_deliver directory generation.artifacts_ne_nil hnodup hplain s
  rcases hrun with ⟨hall, paths, hrun⟩ | ⟨hsome, fault, hrun⟩
  · cases h.symm.trans (run_bind_ok (run_bind_ok hrun))
    refine ⟨written, unwritten, hartifacts, hdelivery, ?_⟩
    rw [or_iff_left (not_not_intro hall)]
    exact Bool.eq_iff_iff.1 (isSome_generationFault? generation)
  · cases h.symm.trans (run_bind_error (run_bind_error hrun))
    exact ⟨written, unwritten, hartifacts, hdelivery, iff_of_true rfl (Or.inr hsome)⟩

end

/-- Generating changes no file before both inputs are read, and none when the artifacts are printed.
Else the artifacts are written, each right in the directory with a name of its own, up to the first
whose write fails. The command fails with the generation or with a write. -/
theorem run_generate (document directory : String) (config : Option String) (toOutput : Bool)
    (s : σ) :
    let outcome := (run disk.files (.generate document directory config toOutput)).run s
    match disk.inputs? document config s with
    | none => disk.tree outcome.2 = disk.tree s ∧ outcome.1.fault.isSome = true
    | some (document, config) =>
      let generation := Generation.run document.library.source document.root config
      if toOutput then
        disk.tree outcome.2 = disk.tree s ∧ outcome.1.fault.isSome = generation.hasFailed
      else
        (if generation.hasFailed then
          generation.artifacts.map Artifact.fileName = ["CodegenError.txt"]
        else
          ∃ stem : String, (∀ c ∈ stem.toList, c.isAlphanum = true) ∧
            generation.artifacts.map Artifact.fileName =
              [stem ++ "View.swift", stem ++ "ViewModel.swift"]) ∧
        ∃ written unwritten, generation.artifacts = written ++ unwritten ∧
          disk.Delivery directory (disk.tree s) outcome.2 written unwritten ∧
          (outcome.1.fault.isSome = true ↔ generation.hasFailed = true ∨ unwritten ≠ []) := by
  intro outcome
  obtain ⟨start, hstart, hrun⟩ :=
    disk.run_inputs document config s (disk.generateFor directory toOutput)
  cases hinputs : disk.inputs? document config s with
  | none =>
    rw [hinputs] at hrun
    obtain ⟨fault, hrun⟩ := hrun
    have houtcome : outcome = _ := disk.run_of_perform hrun
    rw [houtcome]
    exact ⟨hstart, rfl⟩
  | some inputs =>
    obtain ⟨document, config⟩ := inputs
    rw [hinputs] at hrun
    dsimp only at hrun ⊢
    rcases hgenerate : (disk.generateFor directory toOutput document config).run.run start with
      ⟨result, after⟩
    have houtcome : outcome = (concluded result, after) :=
      disk.run_of_perform (hrun.trans hgenerate)
    rw [houtcome, ← hstart]
    cases toOutput with
    | true =>
      obtain ⟨rfl, hfault⟩ := disk.generateFor_printed hgenerate
      exact ⟨rfl, hfault⟩
    | false =>
      refine ⟨?_, disk.generateFor_delivered hgenerate⟩
      rcases Generation.fileName_artifacts document.library.source document.root config with
        ⟨hfailed, hnames⟩ | ⟨hgenerated, hnames⟩
      · rw [if_pos hfailed]
        exact hnames
      · rw [if_neg (by rw [hgenerated]; decide)]
        exact hnames

/-- A document whose root is a line. Only the kernel evaluates a run on it. -/
@[irreducible] private def ruleTree : FileTree :=
  ({} : FileTree).put "/rule.json"
    (.file "\x7b\"root\": \x7b\"id\": \"1\", \"type\": \"LINE\", \"name\": \"Top Rule\"\x7d\x7d")

theorem run_generate_rule :
    let outcome := (run FileTree.disk.files (.generate "rule.json" "out" none false)).run ruleTree
    outcome.1.fault.isSome = false ∧
    ∃ artifacts : List Artifact,
      artifacts.map Artifact.fileName = ["TopRuleView.swift", "TopRuleViewModel.swift"] ∧
      FileTree.disk.Delivery "out" ruleTree outcome.2 artifacts [] := by
  intro outcome
  have hfault : outcome.1.fault.isSome = false := by decide +kernel
  have hnames : (FileTree.disk.inputs? "rule.json" none ruleTree).map (fun inputs =>
      (Generation.run inputs.1.library.source inputs.1.root inputs.2).artifacts.map
        Artifact.fileName) = some ["TopRuleView.swift", "TopRuleViewModel.swift"] := by
    decide +kernel
  have houtcome := run_generate FileTree.disk "rule.json" "out" none false ruleTree
  cases hinputs : FileTree.disk.inputs? "rule.json" none ruleTree with
  | none =>
    rw [hinputs] at hnames
    cases hnames
  | some inputs =>
    rw [hinputs] at hnames houtcome
    obtain ⟨-, written, unwritten, hartifacts, hdelivery, hiff⟩ := houtcome
    obtain ⟨-, hall⟩ := not_or.1 (mt hiff.2 (ne_true_of_eq_false hfault))
    obtain rfl := not_not.1 hall
    rw [List.append_nil] at hartifacts
    exact ⟨hfault, written, hartifacts ▸ Option.some.inj hnames, hdelivery⟩

end Disk
end Mockup
