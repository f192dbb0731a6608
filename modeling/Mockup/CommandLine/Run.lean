import Mockup.CommandLine.Arguments
import Mockup.Disk.Access
import Mockup.Generation

/-!
# Commands

What each command reads, prints and writes.
-/

namespace Mockup.CommandLine

open Json (DecodeError)

inductive CommandFault where
  | unreadableDocument (path : String)
  | invalidDocument (path : String) (error : DecodeError)
  | unreadableConfig (path : String)
  | invalidConfig (path : String) (error : DecodeError)
  | noRoot
  | unresolved (fault : SourceFault)
  | noDirectory (path : String)
  | unwritable (path : String)
  | notGenerated (message : String)
deriving DecidableEq, Repr

def CommandFault.message : CommandFault → String
  | unreadableDocument path => "Failed to read design document " ++ path
  | invalidDocument path _ => "Invalid design document " ++ path
  | unreadableConfig path => "Failed to read config " ++ path
  | invalidConfig path error =>
    "Invalid config " ++ path ++ ": Invalid configuration: " ++ error.message
  | noRoot => "Design document has no root node"
  | unresolved fault => "Failed to resolve design document: " ++ fault.message
  | noDirectory path => "Failed to create output directory " ++ path
  | unwritable path => "Failed to write " ++ path
  | notGenerated message => "Generation failed: " ++ message

structure Report where
  printed : String := ""
  /-- What was logged on the way. -/
  log : List LogRecord := []
  fault : Option CommandFault := none

section

variable {m : Type → Type} [Monad m] (files : FileAccess m)

def readDocument (path : String) : ExceptT CommandFault m Document := do
  match ← files.read? path with
  | none => throw (.unreadableDocument path)
  | some text =>
    match Document.ofText text with
    | .ok document => return document
    | .error error => throw (.invalidDocument path error)

def readConfig : Option String → ExceptT CommandFault m Config
  | none => return {}
  | some path => do
    match ← files.read? path with
    | none => throw (.unreadableConfig path)
    | some text =>
      match Config.ofText text with
      | .ok config => return config
      | .error error => throw (.invalidConfig path error)

/-- Writes artifacts into a directory that is there, up to the first that cannot be written. The
result is the paths written. -/
def writeAll (directory : String) : List Artifact → ExceptT CommandFault m (List String)
  | [] => return []
  | artifact :: rest => do
    let path := Path.join directory artifact.fileName
    if ← files.write path artifact.code then return path :: (← writeAll directory rest)
    else throw (.unwritable path)

/-- Writes artifacts into a directory, which is made if it is missing. -/
def deliver (directory : String) (artifacts : List Artifact) :
    ExceptT CommandFault m (List String) := do
  if ← files.makeDirectories directory then writeAll files directory artifacts
  else throw (.noDirectory directory)

def artifactText (a : Artifact) : String :=
  "// " ++ a.title ++ "\n" ++ a.code ++ "\n\n"

def handOut (directory : String) (toOutput : Bool) (artifacts : List Artifact) :
    ExceptT CommandFault m (List String) :=
  if toOutput then return artifacts.map artifactText
  else do return (← deliver files directory artifacts).map fun path => "Wrote " ++ path ++ "\n"

def generationFault? : Generation → Option CommandFault
  | .generated .. => none
  | .failed diagnostic => some (.notGenerated diagnostic.code)

/-- Generates the files for a document. A diagnostic is handed out like a file, and the command
fails then. -/
def runGenerate (document directory : String) (config : Option String) (toOutput : Bool) :
    ExceptT CommandFault m Report := do
  let document ← readDocument files document
  let config ← readConfig files config
  let (log, generation) := Generation.runLogged document.library.source document.root config
  let printed ← handOut files directory toOutput generation.artifacts
  return { printed := String.join printed, log, fault := generationFault? generation }

end

def widgetList (document : Document) (config : Config) :
    Except CommandFault (List (Snapshot × ComponentKind)) :=
  match document.root with
  | none => .error .noRoot
  | some root =>
    match (root.resolve document.library.source).result with
    | .ok snapshot => .ok (snapshot.widgets config.components)
    | .error fault => .error (.unresolved fault)

def widgetLine (widget : Snapshot × ComponentKind) : String :=
  widget.1.node.id.text ++ "\t" ++ widget.1.name ++ "\t" ++ widget.2.name ++
    (if widget.2.recordsState then " (stateful)" else "") ++ "\n"

section

variable {m : Type → Type} [Monad m] (files : FileAccess m)

def runClassify (document : String) (config : Option String) : ExceptT CommandFault m Report := do
  let document ← readDocument files document
  let config ← readConfig files config
  match widgetList document config with
  | .ok widgets => return { printed := String.join (widgets.map widgetLine) }
  | .error fault => throw fault

def perform : Command → ExceptT CommandFault m Report
  | .generate document directory config toOutput =>
    runGenerate files document directory config toOutput
  | .classify document config => runClassify files document config
  | .config => return { printed := Config.toText {} ++ "\n" }

def run (command : Command) : m Report := do
  match ← (perform files command).run with
  | .ok report => return report
  | .error fault => return { fault := some fault }

end
end Mockup.CommandLine
