import Mockup.Template.Helper
import Mockup.Template.Literal

/-!
# Tags

The grammar between double braces: a value to insert, a call of a helper, or a mark that opens,
parts or closes a block.
-/

namespace Mockup.Template

def name? (cs : List Char) : Option (String × List Char) :=
  match cs.span isNameChar with
  | ([], _) => none
  | (name, rest) => some (String.ofList name, rest)

/-- One step of a path: a name, or any text in brackets. -/
def pathStep? : List Char → Option (String × List Char)
  | '[' :: rest =>
    match rest.span (· ≠ ']') with
    | (name, _ :: rest) => some (String.ofList name, rest)
    | (_, []) => none
  | cs => name? cs

/-- The further steps of a path, each behind a point or a slash. Every step passes a character, so
fuel of the text's length suffices. -/
def pathSteps : Nat → List Char → List String × List Char
  | 0, cs => ([], cs)
  | _ + 1, [] => ([], [])
  | fuel + 1, c :: rest =>
    match (if c = '.' ∨ c = '/' then pathStep? rest else none) with
    | some (name, rest) =>
      let (names, rest) := pathSteps fuel rest
      (name :: names, rest)
    | none => ([], c :: rest)

/-- Passes the ways to where all data starts, which a path starts from anyway. -/
def skipUps : List Char → List Char
  | '.' :: '.' :: '.' :: rest => skipUps rest
  | '.' :: '.' :: '/' :: rest => skipUps rest
  | cs => cs

def skipOrigin (cs : List Char) : List Char :=
  let cs := (behind? ['.', '/'] cs).getD cs
  skipUps (((behind? "@root.".toList cs) <|> (behind? "@root/".toList cs)).getD cs)

/-- The path at the start of a text. A name behind `@` belongs to no data. -/
def path? (cs : List Char) : Option (Operand × List Char) := do
  let cs := skipOrigin cs
  let isLocal := cs.head? = some '@'
  let (first, rest) ← pathStep? (if isLocal then skipUps (cs.drop 1) else cs)
  let (others, rest) := pathSteps rest.length rest
  return (if isLocal then .literal .null else .path ((first :: others).filter (· ≠ "this")), rest)

/-- Whether a word stands here that is no operand. -/
def startsReserved (cs : List Char) : Bool :=
  ["as", "else"].any fun word =>
    (((behind? word.toList cs).map skipBlanks).bind wordEnd?).isSome

/-- The operand at the start of a text: a literal, else a path. -/
def operand? (cs : List Char) : Option (Operand × List Char) :=
  if startsReserved cs then none
  else
    match literalEnd? (2 * cs.length + 2) cs with
    | some rest =>
      (literalValue? (cs.take (cs.length - rest.length))).map fun v => (.literal v, rest)
    | none => path? cs

def namedOperand? (cs : List Char) : Option ((String × Operand) × List Char) := do
  let (name, rest) ← name? cs
  let (operand, rest) ← operand? (skipBlanks (← behind? ['='] (skipBlanks rest)))
  return ((name, operand), rest)

/-- Adds the operands at the start of a text to a call. Every operand passes a character, so fuel
of the text's length suffices. -/
def addOperands (call : Call) : Nat → List Char → Call × List Char
  | 0, cs => (call, cs)
  | fuel + 1, cs =>
    match namedOperand? (skipBlanks cs) with
    | some (entry, rest) => addOperands { call with named := call.named ++ [entry] } fuel rest
    | none =>
      match operand? (skipBlanks cs) with
      | some (operand, rest) =>
        addOperands { call with operands := call.operands ++ [operand] } fuel rest
      | none => (call, cs)

def call? (cs : List Char) : Option (Call × List Char) := do
  let (helper, rest) ← name? cs
  return addOperands ⟨helper, [], []⟩ rest.length rest

inductive Action where
  | insert (operand : Operand)
  | call (call : Call)
  | opening (call : Call)
  /-- What follows stands when nothing before it in the block did, and if there is a call, when
  that keeps it. -/
  | otherwise (call : Option Call)
  | closing (helper : String)
  | comment

def Action.isMark : Action → Bool
  | insert _ | call _ => false
  | _ => true

structure Tag where
  action : Action
  trimsBefore : Bool := false
  trimsAfter : Bool := false

/-- The value of a path; a reserved name alone is a call. -/
def value? (cs : List Char) : Option (Action × List Char) := do
  let (operand, rest) ← path? cs
  let name := String.ofList (cs.take (cs.length - rest.length))
  return (if name ∈ reservedNames then .call ⟨name, [], []⟩ else .insert operand, rest)

def expression? (cs : List Char) : Option (Action × List Char) :=
  match call? cs with
  | some (call, rest) =>
    if call.operands.isEmpty && call.named.isEmpty then value? cs else some (.call call, rest)
  | none => value? cs

/-- Passes blanks and the sign that trims; whether it was there. -/
def trimSign (cs : List Char) : Bool × List Char :=
  match skipBlanks cs with
  | '~' :: rest => (true, skipBlanks rest)
  | cs => (false, cs)

/-- The tag that ends here, and the text behind its braces. -/
def tagEnd? (action : Action) (trimsBefore : Bool) (cs : List Char) : Option (Tag × List Char) := do
  let (trimsAfter, cs) := trimSign cs
  return (⟨action, trimsBefore, trimsAfter⟩, ← behind? ['\x7d', '\x7d'] cs)

/-- A value in braces of its own, behind the opening one. -/
def bracedEnd? (trimsBefore : Bool) (cs : List Char) : Option (Tag × List Char) := do
  let (trimsInside, cs) := trimSign cs
  let (action, cs) ← expression? cs
  let (trimsAfter, cs) := trimSign cs
  let (tag, rest) ← tagEnd? action (trimsBefore || trimsInside) (← behind? ['\x7d'] cs)
  return ({ tag with trimsAfter := trimsAfter || tag.trimsAfter }, rest)

/-- The text behind the first place where a word stands. -/
def behindFirst? (word : List Char) : List Char → Option (List Char)
  | [] => behind? word []
  | c :: rest => behind? word (c :: rest) <|> behindFirst? word rest

/-- The text behind a comment. Between double hyphens it may hold anything. -/
def commentEnd? (cs : List Char) : Option (List Char) :=
  ((behind? ['-', '-'] cs).bind (behindFirst? "--\x7d\x7d".toList)) <|>
    behindFirst? ['\x7d', '\x7d'] cs

/-- The rest of a mark that parts a block, perhaps with a call, from which no blank has to part
the word in front. -/
def partingEnd? (trimsBefore : Bool) (cs : List Char) : Option (Tag × List Char) :=
  tagEnd? (.otherwise none) trimsBefore cs <|> do
    let (call, rest) ← call? (skipBlanks cs)
    tagEnd? (.otherwise call) trimsBefore rest

/-- The tag whose opening braces precede the text, and the text behind it. -/
def tag? (cs : List Char) : Option (Tag × List Char) :=
  match cs with
  | '!' :: rest => (commentEnd? rest).map (⟨.comment, false, false⟩, ·)
  | cs =>
    let (trimsBefore, cs) := trimSign cs
    match cs with
    | '#' :: rest => do
      let (call, rest) ← call? (skipBlanks rest)
      tagEnd? (.opening call) trimsBefore rest
    | '/' :: rest => do
      let (helper, rest) ← name? (skipBlanks rest)
      tagEnd? (.closing helper) trimsBefore rest
    | '^' :: rest => partingEnd? trimsBefore rest
    | '&' :: rest => do
      let (action, rest) ← value? (skipBlanks rest)
      tagEnd? action trimsBefore rest
    | '\x7b' :: rest => bracedEnd? trimsBefore rest
    | cs =>
      ((behind? "else".toList cs).bind (partingEnd? trimsBefore)) <|> do
        let (action, rest) ← expression? cs
        tagEnd? action trimsBefore rest

end Mockup.Template
