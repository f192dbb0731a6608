import Mockup.CommandLine.Run

/-!
# Program

The commands on the files of the machine.
-/

namespace Mockup.Program

def succeeds (action : IO Unit) : IO Bool := do
  try
    action
    return true
  catch _ =>
    return false

def machineFiles : FileAccess IO where
  read? path := do
    try
      return some (← IO.FS.readFile path)
    catch _ =>
      return none
  makeDirectories path := succeeds (IO.FS.createDirAll path)
  write path content := succeeds (IO.FS.writeFile path content)

def usage : String :=
  "Usage: mockup [-v] generate DOCUMENT [-o DIRECTORY] [-c CONFIG] [--stdout]\n" ++
  "       mockup [-v] classify DOCUMENT [-c CONFIG]\n" ++
  "       mockup [-v] config\n"

def isShown (verbose : Bool) (r : LogRecord) : Bool :=
  verbose || r.severity == .error || r.severity == .warn

def run (arguments : List String) : IO UInt32 := do
  match CommandLine.parse arguments with
  | .error .misuse =>
    IO.eprint usage
    return 2
  | .error .help =>
    IO.print usage
    return 0
  | .error .version =>
    IO.println "mockup 0.1.0"
    return 0
  | .ok (command, verbose) =>
    let report ← CommandLine.run machineFiles command
    for r in report.log do
      if isShown verbose r then
        IO.eprintln r.text
    IO.print report.printed
    match report.fault with
    | none => return 0
    | some fault =>
      IO.eprintln ("Error: " ++ fault.message)
      return 1

end Mockup.Program

def main (arguments : List String) : IO UInt32 :=
  Mockup.Program.run arguments
