import Mockup.Json.Decode

/-!
# Literals in tags

A literal is JSON written inside a tag; its strings may also stand between single quotes. Where a
literal ends is decided first, and then the text up to there has to be JSON.
-/

namespace Mockup.Template

def isLineBlank (c : Char) : Bool :=
  c = ' ' || c = '\t'

def isLineEnd (c : Char) : Bool :=
  c = '\n' || c = '\r'

def isTagBlank (c : Char) : Bool :=
  isLineBlank c || isLineEnd c

def skipBlanks (cs : List Char) : List Char :=
  cs.dropWhile isTagBlank

def isNameChar (c : Char) : Bool :=
  c.isAlphanum || c = '_' || c = '-' || c = '$' || 128 ≤ c.toNat

/-- A text behind a word, when no character of a name follows. -/
def wordEnd? (cs : List Char) : Option (List Char) :=
  if cs.head?.any isNameChar then none else some cs

def behind? (start cs : List Char) : Option (List Char) :=
  if start.isPrefixOf cs then some (cs.drop start.length) else none

/-- What may stand behind a backslash between quotes of a kind: only the quote of that kind. -/
def isEscape (quote c : Char) : Bool :=
  c = quote || (c ≠ '"' && (Json.unescape? c).isSome)

def quoted? (quote : Char) : List Char → Option (List Char × List Char)
  | [] => none
  | '\\' :: 'u' :: a :: b :: c :: d :: rest =>
    if [a, b, c, d].all fun digit => (Json.hexDigit? digit).isSome then
      (quoted? quote rest).map fun found =>
        ('\\' :: 'u' :: a :: b :: c :: d :: found.1, found.2)
    else
      none
  | '\\' :: c :: rest =>
    if isEscape quote c then
      (quoted? quote rest).map fun found => ('\\' :: c :: found.1, found.2)
    else
      none
  | c :: rest =>
    if c = quote then some ([], rest)
    else (quoted? quote rest).map fun found => (c :: found.1, found.2)

/-- Text between single quotes as it is written between double ones. -/
def requote : List Char → List Char
  | [] => []
  | '\\' :: '\'' :: rest => '\'' :: requote rest
  | '"' :: rest => '\\' :: '"' :: requote rest
  | c :: rest => c :: requote rest

/-- The text behind a number: digits, perhaps with a sign, a point and an exponent after `E`. -/
def numberEnd? (cs : List Char) : Option (List Char) :=
  let unsigned (cs : List Char) : List Char :=
    match cs with
    | '-' :: rest => rest
    | cs => cs
  match (unsigned cs).span Char.isDigit with
  | ([], _) => none
  | (_, rest) =>
    let rest := match rest with
      | '.' :: rest => rest.dropWhile Char.isDigit
      | rest => rest
    wordEnd? (match rest with
      | 'E' :: power =>
        if (unsigned power).head?.any Char.isDigit then (unsigned power).dropWhile Char.isDigit
        else 'E' :: power
      | rest => rest)

mutual

/-- The text behind a literal. Every second step passes a character, so fuel of twice the text's
length suffices. -/
def literalEnd? : Nat → List Char → Option (List Char)
  | 0, _ => none
  | _ + 1, '"' :: rest => (quoted? '"' rest).map (·.2)
  | _ + 1, '\'' :: rest => (quoted? '\'' rest).map (·.2)
  | fuel + 1, '[' :: rest => itemsEnd? fuel true rest
  | fuel + 1, '\x7b' :: rest => membersEnd? fuel true rest
  | _ + 1, cs =>
    let word (name : String) := (behind? name.toList cs).bind wordEnd?
    numberEnd? cs <|> word "null" <|> word "true" <|> word "false"

/-- The text behind the items and the end of a list; `first` when no item came yet. -/
def itemsEnd? : Nat → Bool → List Char → Option (List Char)
  | 0, _, _ => none
  | fuel + 1, first, cs =>
    match skipBlanks cs with
    | ']' :: rest => some rest
    | ',' :: rest => (literalEnd? fuel (skipBlanks rest)).bind (itemsEnd? fuel false)
    | cs => if first then (literalEnd? fuel cs).bind (itemsEnd? fuel false) else none

/-- The text behind the members and the end of an object; `first` when no member came yet. -/
def membersEnd? : Nat → Bool → List Char → Option (List Char)
  | 0, _, _ => none
  | fuel + 1, first, cs =>
    match skipBlanks cs with
    | '\x7d' :: rest => some rest
    | ',' :: rest => (memberEnd? fuel (skipBlanks rest)).bind (membersEnd? fuel false)
    | cs => if first then (memberEnd? fuel cs).bind (membersEnd? fuel false) else none

def memberEnd? : Nat → List Char → Option (List Char)
  | 0, _ => none
  | fuel + 1, cs => do
    let rest ← match cs with
      | '"' :: rest => (quoted? '"' rest).map (·.2)
      | '\'' :: rest => (quoted? '\'' rest).map (·.2)
      | _ => none
    literalEnd? fuel (skipBlanks (← behind? [':'] (skipBlanks rest)))

end

/-- What the text of a literal denotes; none when it is not JSON. -/
def literalValue? (text : List Char) : Option Json.Value :=
  let json := match text with
    | '\'' :: rest => '"' :: requote rest.dropLast ++ ['"']
    | text => text
  (Json.decodeText (fun v => v.whole.map fun _ => v) (String.ofList json)).toOption

end Mockup.Template
