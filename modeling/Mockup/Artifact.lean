import Mockup.Text.Words

/-!
# Artifacts

The named texts that a generation hands out.
-/

namespace Mockup

inductive Language where
  | swift
  | plaintext
deriving DecidableEq, Repr

def Language.name : Language → String
  | swift => "SWIFT"
  | plaintext => "PLAINTEXT"

structure Artifact where
  language : Language
  title : String
  code : String
deriving DecidableEq, Repr

namespace Artifact

def swift (title code : String) : Artifact :=
  ⟨.swift, title, code⟩

/-- What stands in for the files when there are none. -/
def diagnostic (message : String) : Artifact :=
  ⟨.plaintext, "Codegen Error", message⟩

/-- The title of a source file is its file name. -/
def fileName (a : Artifact) : String :=
  match a.language with
  | .swift => a.title
  | .plaintext => Text.compactName a.title ++ ".txt"

end Artifact
end Mockup
