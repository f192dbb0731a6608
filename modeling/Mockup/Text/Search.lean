/-!
# Prefixes and fragments of a text
-/

namespace Mockup.Text

def startsWith (start s : String) : Bool :=
  start.toList.isPrefixOf s.toList

def occursIn (fragment : List Char) : List Char → Bool
  | [] => fragment.isEmpty
  | c :: rest => fragment.isPrefixOf (c :: rest) || occursIn fragment rest

def contains (fragment s : String) : Bool :=
  occursIn fragment.toList s.toList

end Mockup.Text
