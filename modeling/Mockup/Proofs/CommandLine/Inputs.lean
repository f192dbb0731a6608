import Mathlib.Tactic.Common
import Mockup.CommandLine.Run
import Mockup.Proofs.Disk.Tree

/-!
# Inputs of commands

Disks on which any operation may fail, and what a command gets to read from one: its document and
its config, or a fault, with the files as they were.
-/

namespace Mockup

/-- File access whose state holds a file tree. An operation that succeeds does to the tree what it
does to any. It may also fail where the tree allows it, and a file whose writing fails may be
left torn. -/
structure Disk (σ : Type) where
  files : FileAccess (StateM σ)
  tree : σ → FileTree
  read {path : String} {s s' : σ} {text? : Option String} :
    (files.read? path).run s = (text?, s') → tree s' = tree s
  made {path : String} {s s' : σ} : (files.makeDirectories path).run s = (true, s') →
    (tree s).makeDirectories path = (tree s', true)
  unmade {path : String} {s s' : σ} : (files.makeDirectories path).run s = (false, s') →
    (tree s).AddsDirectories (tree s')
  written {path content : String} {s s' : σ} : (files.write path content).run s = (true, s') →
    (tree s).write? path content = some (tree s')
  torn {path content : String} {s s' : σ} : (files.write path content).run s = (false, s') →
    ∀ place, (tree s).filePlace? path ≠ some place → (tree s').file? place = (tree s).file? place

/-- The disk that does all that the tree allows. -/
def FileTree.disk : Disk FileTree where
  files := access
  tree := id
  read h := (congrArg Prod.snd h).symm
  made h := Prod.ext (congrArg Prod.snd h) (congrArg Prod.fst h)
  unmade {path s s'} h := by
    have hs : (s.makeDirectories path).1 = s' := congrArg Prod.snd h
    exact hs ▸ s.makeDirectories_addsDirectories path
  written {path content s s'} h := by
    have hrun : (match s.write? path content with
      | some after => (true, after)
      | none => (false, s)) = (true, s') := h
    split at hrun
    · next hwrite => exact hwrite.trans (congrArg some (congrArg Prod.snd hrun))
    · cases hrun
  torn {path content s s'} h place _ := by
    have hrun : (match s.write? path content with
      | some after => (true, after)
      | none => (false, s)) = (false, s') := h
    split at hrun
    · cases hrun
    · rw [show s = s' from congrArg Prod.snd hrun]

namespace CommandLine

section

variable {σ ε α β : Type} {s s' : σ}

theorem run_bind_ok {x : ExceptT ε (StateM σ) α} {f : α → ExceptT ε (StateM σ) β} {a : α}
    (h : x.run.run s = (.ok a, s')) : (x >>= f).run.run s = (f a).run.run s' := by
  rw [ExceptT.run_bind, StateT.run_bind, h]
  rfl

theorem run_bind_error {x : ExceptT ε (StateM σ) α} {f : α → ExceptT ε (StateM σ) β}
    {e : ε} (h : x.run.run s = (.error e, s')) : (x >>= f).run.run s = (.error e, s') := by
  rw [ExceptT.run_bind, StateT.run_bind, h]
  rfl

theorem run_lift {x : StateM σ α} {a : α} (h : x.run s = (a, s')) :
    (liftM x : ExceptT ε (StateM σ) α).run.run s = (.ok a, s') :=
  congrArg (fun p : α × σ => ((Except.ok p.1, p.2) : Except ε α × σ)) h

end

/-- Reading a text and parsing it, with the faults for a text that is missing and for one that is
invalid. -/
def readAs {m : Type → Type} [Monad m] {α : Type} (files : FileAccess m)
    (parse : String → Except Json.DecodeError α) (missing : CommandFault)
    (invalid : Json.DecodeError → CommandFault) (path : String) : ExceptT CommandFault m α := do
  match ← files.read? path with
  | none => throw missing
  | some text =>
    match parse text with
    | .ok value => return value
    | .error error => throw (invalid error)

private theorem readDocument_eq {m : Type → Type} [Monad m] (files : FileAccess m) (path : String) :
    readDocument files path = readAs files Document.ofText (.unreadableDocument path)
      (.invalidDocument path) path := by
  rw [readDocument, readAs]
  refine congrArg _ (funext fun text? => ?_)
  cases text? with
  | none => rfl
  | some text =>
    dsimp only
    cases Document.ofText text <;> rfl

private theorem readConfig_some {m : Type → Type} [Monad m] (files : FileAccess m) (path : String) :
    readConfig files (some path) = readAs files Config.ofText (.unreadableConfig path)
      (.invalidConfig path) path := by
  rw [readConfig, readAs]
  refine congrArg _ (funext fun text? => ?_)
  cases text? with
  | none => rfl
  | some text =>
    dsimp only
    cases Config.ofText text <;> rfl

end CommandLine

namespace Disk

open CommandLine

variable {σ α : Type} (disk : Disk σ)

/-- What there is at a path, if it can be read and parsed, and the state after reading. -/
def parsed? (parse : String → Except Json.DecodeError α) (path : String) (s : σ) : Option α × σ :=
  let (text?, after) := (disk.files.read? path).run s
  (text?.bind fun text => (parse text).toOption, after)

def config? : Option String → σ → Option Config × σ
  | none, s => (some {}, s)
  | some path, s => disk.parsed? Config.ofText path s

/-- The document and the config that are read one after the other. -/
def inputs? (document : String) (config : Option String) (s : σ) : Option (Document × Config) := do
  let (document?, after) := disk.parsed? Document.ofText document s
  return (← document?, ← (disk.config? config after).1)

/-- A computation leaves the tree as it is, and gives what there is or fails. -/
def Gives (x : ExceptT CommandFault (StateM σ) α) (s : σ) (outcome : Option α × σ) : Prop :=
  disk.tree outcome.2 = disk.tree s ∧
    match outcome.1 with
    | none => ∃ fault, x.run.run s = (.error fault, outcome.2)
    | some value => x.run.run s = (.ok value, outcome.2)

private theorem gives_readAs (parse : String → Except Json.DecodeError α) (missing : CommandFault)
    (invalid : Json.DecodeError → CommandFault) (path : String) (s : σ) :
    disk.Gives (readAs disk.files parse missing invalid path) s (disk.parsed? parse path s) := by
  rcases hread : (disk.files.read? path).run s with ⟨text?, after⟩
  rw [Gives, parsed?, hread, readAs, run_bind_ok (run_lift hread)]
  refine ⟨disk.read hread, ?_⟩
  cases text? with
  | none => exact ⟨missing, rfl⟩
  | some text =>
    dsimp only [Option.bind_some]
    cases parse text with
    | error error => exact ⟨invalid error, rfl⟩
    | ok value => exact rfl

private theorem gives_readConfig (config : Option String) (s : σ) :
    disk.Gives (readConfig disk.files config) s (disk.config? config s) := by
  cases config with
  | none => exact ⟨rfl, rfl⟩
  | some path =>
    rw [readConfig_some]
    exact disk.gives_readAs ..

/-- A command that needs both inputs goes on with them, or fails with no change of the tree. -/
theorem run_inputs (document : String) (config : Option String) (s : σ)
    (rest : Document → Config → ExceptT CommandFault (StateM σ) α) :
    ∃ after, disk.tree after = disk.tree s ∧
      match disk.inputs? document config s with
      | none => ∃ fault, (do
          let document ← readDocument disk.files document
          let config ← readConfig disk.files config
          rest document config).run.run s = (.error fault, after)
      | some (value, settings) => (do
          let document ← readDocument disk.files document
          let config ← readConfig disk.files config
          rest document config).run.run s = (rest value settings).run.run after := by
  have hdocument := disk.gives_readAs Document.ofText (.unreadableDocument document)
    (.invalidDocument document) document s
  rw [← readDocument_eq] at hdocument
  rw [inputs?]
  rcases hparsed : disk.parsed? Document.ofText document s with ⟨_ | value, middle⟩
  all_goals rw [hparsed] at hdocument
  · obtain ⟨htree, fault, hrun⟩ := hdocument
    exact ⟨middle, htree, fault, run_bind_error hrun⟩
  obtain ⟨htree, hrun⟩ := hdocument
  rw [run_bind_ok hrun]
  have hconfig := disk.gives_readConfig config middle
  dsimp only
  rcases hsettings : disk.config? config middle with ⟨_ | settings, after⟩
  all_goals rw [hsettings] at hconfig
  · obtain ⟨htree', fault, hrun'⟩ := hconfig
    exact ⟨after, htree'.trans htree, fault, run_bind_error hrun'⟩
  · obtain ⟨htree', hrun'⟩ := hconfig
    exact ⟨after, htree'.trans htree, run_bind_ok hrun'⟩

end Disk

end Mockup
