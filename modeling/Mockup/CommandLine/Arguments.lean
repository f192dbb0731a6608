/-!
# Arguments

What the words after the program's name ask for.
-/

namespace Mockup.CommandLine

inductive Command where
  | generate (document outputDirectory : String) (config : Option String) (toOutput : Bool)
  | classify (document : String) (config : Option String)
  | config
deriving DecidableEq, Repr

inductive Stop where
  | help
  | version
  | misuse
deriving DecidableEq, Repr

inductive OptionName where
  | help
  | version
  | verbose
  | outputDirectory
  | config
  | toOutput
deriving DecidableEq, Repr

namespace OptionName

def takesValue : OptionName → Bool
  | outputDirectory | config => true
  | _ => false

def short? : OptionName → Option Char
  | help => some 'h'
  | version => some 'V'
  | verbose => some 'v'
  | outputDirectory => some 'o'
  | config => some 'c'
  | toOutput => none

def long : OptionName → String
  | help => "help"
  | version => "version"
  | verbose => "verbose"
  | outputDirectory => "output-dir"
  | config => "config"
  | toOutput => "stdout"

end OptionName

structure Grammar where
  options : List OptionName
  /-- How many words there may be that are no options. -/
  words : Nat
  /-- Whether the first such word starts the next level. -/
  nests : Bool := false

structure Said where
  options : List (OptionName × String) := []
  words : List String := []

namespace Said

def value? (s : Said) (name : OptionName) : Option String :=
  s.options.lookup name

/-- An option with its value, empty for a switch. None may be repeated, and no value that is asked
for may be empty. -/
def addOption (s : Said) (name : OptionName) (value : String) : Except Stop Said :=
  match name with
  | .help => .error .help
  | .version => .error .version
  | name =>
    if (s.value? name).isSome ∨ (name.takesValue ∧ value = "") then .error .misuse
    else .ok { s with options := s.options ++ [(name, value)] }

def addWord (g : Grammar) (s : Said) (word : String) : Except Stop Said :=
  if s.words.length < g.words ∧ word ≠ "" then .ok { s with words := s.words ++ [word] }
  else .error .misuse

end Said

namespace Grammar

inductive Reading where
  | word
  /-- Only words follow. -/
  | wordsOnly
  /-- Switches, and an option that still needs a value. -/
  | options (switches : List OptionName) (valued : Option (OptionName × Option String))
  | nonsense

def withShort? (g : Grammar) (c : Char) : Option OptionName :=
  g.options.find? (·.short? == some c)

def withLong? (g : Grammar) (name : String) : Option OptionName :=
  g.options.find? (·.long == name)

/-- Letters behind a hyphen: switches, of which the last may be an option with a value. -/
def readLetters (g : Grammar) (switches : List OptionName) : List Char → Reading
  | [] => .options switches none
  | c :: rest =>
    match g.withShort? c with
    | none => .nonsense
    | some name =>
      if name.takesValue then
        let value := match rest with
          | '=' :: rest => rest
          | rest => rest
        .options switches (some (name, if rest = [] then none else some (String.ofList value)))
      else
        g.readLetters (switches ++ [name]) rest

/-- A name behind two hyphens, perhaps with a value behind `=`. -/
def readName (g : Grammar) (cs : List Char) : Reading :=
  let (name, rest) := cs.span (· ≠ '=')
  match g.withLong? (String.ofList name), rest with
  | none, _ => .nonsense
  | some option, [] =>
    if option.takesValue then .options [] (some (option, none)) else .options [option] none
  | some option, _ :: value =>
    if option.takesValue then .options [] (some (option, some (String.ofList value))) else .nonsense

def read (g : Grammar) (argument : String) : Reading :=
  match argument.toList with
  | ['-', '-'] => .wordsOnly
  | '-' :: '-' :: cs => g.readName cs
  | ['-'] => .word
  | '-' :: cs => g.readLetters [] cs
  | _ => .word

def isValue (argument : String) : Bool :=
  argument = "-" || argument.toList.head? ≠ some '-'

/-- Reads one level, and returns what is left for the next. -/
def parse (g : Grammar) (said : Said) : List String → Except Stop (Said × List String)
  | [] => .ok (said, [])
  | argument :: rest =>
    match g.read argument with
    | .nonsense => .error .misuse
    | .word =>
      if g.nests then .ok (said, argument :: rest)
      else do g.parse (← said.addWord g argument) rest
    | .wordsOnly => do return (← rest.foldlM (Said.addWord g) said, [])
    | .options switches valued => do
      let said ← switches.foldlM (fun said name => said.addOption name "") said
      match valued, rest with
      | none, rest => g.parse said rest
      | some (name, some value), rest => g.parse (← said.addOption name value) rest
      | some (name, none), value :: rest =>
        if isValue value then g.parse (← said.addOption name value) rest else .error .misuse
      | some (_, none), [] => .error .misuse

end Grammar

def rootGrammar : Grammar where
  options := [.help, .version, .verbose]
  words := 0
  nests := true

def generateGrammar : Grammar where
  options := [.help, .verbose, .outputDirectory, .config, .toOutput]
  words := 1

def classifyGrammar : Grammar where
  options := [.help, .verbose, .config]
  words := 1

def configGrammar : Grammar where
  options := [.help, .verbose]
  words := 0

def defaultDirectory : String := "./generated"

/-- The only word of a level. -/
def Said.word (s : Said) : Except Stop String :=
  match s.words with
  | [word] => .ok word
  | _ => .error .misuse

def Said.isVerbose (s : Said) : Bool :=
  (s.value? .verbose).isSome

/-- The command of the next level, and whether it is to report its progress. `help` shows the help
of a command, or of the program. -/
def parseCommand (name : String) (arguments : List String) : Except Stop (Command × Bool) :=
  match name with
  | "generate" => do
    let (said, _) ← generateGrammar.parse {} arguments
    let command : Command := .generate (← said.word)
      ((said.value? .outputDirectory).getD defaultDirectory) (said.value? .config)
      (said.value? .toOutput).isSome
    return (command, said.isVerbose)
  | "classify" => do
    let (said, _) ← classifyGrammar.parse {} arguments
    return (.classify (← said.word) (said.value? .config), said.isVerbose)
  | "config" => do
    let (said, _) ← configGrammar.parse {} arguments
    return (.config, said.isVerbose)
  | "help" =>
    match arguments with
    | [] => .error .help
    | [topic] =>
      .error (if topic ∈ ["generate", "classify", "config", "help"] then .help else .misuse)
    | _ => .error .misuse
  | _ => .error .misuse

/-- The command that the arguments ask for, and whether it is to report its progress. -/
def parse (arguments : List String) : Except Stop (Command × Bool) := do
  match ← rootGrammar.parse {} arguments with
  | (said, name :: rest) =>
    let (command, verbose) ← parseCommand name rest
    return (command, said.isVerbose || verbose)
  | (_, []) => .error .misuse

end Mockup.CommandLine
