/-!
# Component identities

A component id has the form `namespace:local`. The namespace selects a family of components.
-/

namespace Mockup

structure Identity where
  family : String
  localId : String
deriving DecidableEq, Repr

namespace Identity

/-- The texts before and after the first colon. -/
def splitColon : List Char → Option (List Char × List Char)
  | [] => none
  | ':' :: rest => some ([], rest)
  | c :: rest => (splitColon rest).map fun parts => (c :: parts.1, parts.2)

/-- The identity that an id spells: what stands before its first colon must not be empty. -/
def ofText? (s : String) : Option Identity :=
  match splitColon s.toList with
  | some (c :: family, localId) => some ⟨String.ofList (c :: family), String.ofList localId⟩
  | _ => none

def text (i : Identity) : String :=
  i.family ++ ":" ++ i.localId

end Identity

/-- A component: its id and its name, which is empty when it has none. -/
structure Component where
  id : String
  name : String
deriving DecidableEq, Repr

def Component.identity? (c : Component) : Option Identity :=
  Identity.ofText? c.id

end Mockup
