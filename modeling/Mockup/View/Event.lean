import Mockup.Component.Table
import Mockup.Layout.Arrangement
import Mockup.Log

/-!
# Events of an emission
-/

namespace Mockup

inductive Event where
  | entered (kind : NodeKind) (name : String)
  | skipped (name : String)
  | aligned (name : String) (alignment : RowRole)
  | classified (name : String) (kind : ComponentKind)
  | unhandled (kind name : String)
deriving DecidableEq, Repr

def Event.record : Event → LogRecord
  | entered kind name => ⟨.debug, "Emitting " ++ kind.name ++ " '" ++ name ++ "'"⟩
  | skipped name => ⟨.debug, "Skipping frame '" ++ name ++ "'"⟩
  | aligned name alignment => ⟨.debug, "Frame '" ++ name ++ "' alignment: " ++ alignment.name⟩
  | classified name kind => ⟨.debug, "Instance '" ++ name ++ "' classified as " ++ kind.name⟩
  | unhandled kind name => ⟨.warn, "Unhandled node type " ++ kind ++ " on '" ++ name ++ "'"⟩

end Mockup
