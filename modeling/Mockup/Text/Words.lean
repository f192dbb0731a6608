/-!
# Words of a name

Names come as free text. An identifier is made of their words: the maximal runs of ASCII letters
and digits.
-/

namespace Mockup.Text

/-- The maximal runs of ASCII letters and digits. -/
def words (cs : List Char) : List (List Char) :=
  (cs.splitOnP (!·.isAlphanum)).filter (· ≠ [])

def capitalizeWord : List Char → List Char
  | [] => []
  | c :: rest => c.toUpper :: rest

/-- The words in lower case, every one but the first with a capital. -/
def camelWords : List (List Char) → List Char
  | [] => []
  | w :: ws => w.map Char.toLower ++ (ws.map fun w => capitalizeWord (w.map Char.toLower)).flatten

def camelCase (name : String) : String :=
  String.ofList (camelWords (words name.toList))

/-- The name without everything but ASCII letters and digits. -/
def compactName (name : String) : String :=
  String.ofList (name.toList.filter Char.isAlphanum)

end Mockup.Text
