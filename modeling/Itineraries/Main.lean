import Itineraries.CommandLine

/-!
# The program

Files are read as they are asked for by the arguments; everything else is in
`Itineraries.CommandLine`.
-/

open Itineraries

/-- What is found under the name of a file.  A file that cannot be read counts
as missing: the command reports both in the same words. -/
def Itineraries.FileContent.ofPath (path : String) : IO FileContent := do
  try
    return .bytes (← IO.FS.readBinFile path)
  catch _ =>
    return .missing

/-- Read the files that the arguments name and run the command. -/
def main (arguments : List String) : IO UInt32 := do
  let named := [arguments[0]?, arguments[3]?].filterMap fun path => path
  let contents ← named.mapM fun path => return (path, ← FileContent.ofPath path)
  let outcome := CommandLine.run (fun path => (contents.lookup path).getD .missing) arguments
  IO.print outcome.output
  match outcome.error? with
  | some line => IO.eprintln line
  | none => pure ()
  return outcome.exitCode
