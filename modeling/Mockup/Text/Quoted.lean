/-!
# String literals

A text in double quotes, in which a quote, a backslash and the three control characters with a
short escape are escaped.
-/

namespace Mockup.Text.Quoted

def escapeChar : Char → List Char
  | '"' => ['\\', '"']
  | '\\' => ['\\', '\\']
  | '\n' => ['\\', 'n']
  | '\r' => ['\\', 'r']
  | '\t' => ['\\', 't']
  | c => [c]

def encodeChars (cs : List Char) : List Char :=
  '"' :: cs.flatMap escapeChar ++ ['"']

def encode (s : String) : String :=
  String.ofList (encodeChars s.toList)

end Mockup.Text.Quoted
