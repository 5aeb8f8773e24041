import Itineraries.File
import Itineraries.Json.Writer
import Itineraries.Rebuild.Coordinator

namespace Itineraries

/-!
# The command line

The command reads an inventory file, rebuilds once, and prints the itineraries
between two places.  A fourth argument names a configuration file.  The first
stage that fails decides the error that is reported: arguments, configuration,
rebuild, search.
-/

/-- Why the command fails, by the stage that fails first.  Too few arguments fail before
any file is read. -/
inductive CommandFault where
  | usage
  | config (path : String) (fault : ConfigFault)
  | engine (violation : ConfigViolation)
  | rebuild (fault : Fault)
  | search (fault : Fault)
deriving DecidableEq, Repr

/-- The stage in words.  The cause within the stage is not repeated here. -/
def CommandFault.message : CommandFault → String
  | usage => "usage: route_engine <inventory.json> <SOURCE> <DESTINATION> [config.json]"
  | config path _ => s!"failed to load config from {path}"
  | engine _ => "invalid engine configuration"
  | rebuild _ => "initial rebuild failed"
  | search _ => "route search failed"

/-- What the command prints and how it ends. -/
inductive CommandOutcome where
  | success (output : String)
  | failure (fault : CommandFault)
deriving DecidableEq, Repr

namespace CommandOutcome

def exitCode : CommandOutcome → UInt32
  | success _ => 0
  | failure _ => 1

def output : CommandOutcome → String
  | success output => output
  | failure _ => ""

/-- The line that goes to standard error, if there is one. -/
def error? : CommandOutcome → Option String
  | success _ => none
  | failure fault => some s!"Error: {fault.message}"

end CommandOutcome

namespace CommandLine

def rebuildOnce (engine : Engine) (content : FileContent) : Except Fault Engine :=
  let coordinator : Rebuild.Coordinator := { engine := engine, inventory := .file content }
  let (number, calling) := coordinator.call .startup
  let rebuilt := (calling.serveFirst.endRead .loaded).finish
  match rebuilt.answer? number with
  | some (.error fault) => .error fault
  | _ => .ok rebuilt.engine

def report (itineraries : List Itinerary) : String :=
  (Itinerary.listToJson itineraries).renderIndented ++ "\n"

def runWith (config : Config) (content : FileContent) (pair : Pair) : CommandOutcome :=
  match Engine.ofConfig config with
  | .error broken => .failure (.engine broken)
  | .ok engine =>
    match rebuildOnce engine content with
    | .error fault => .failure (.rebuild fault)
    | .ok rebuilt =>
      match (rebuilt.search pair none).1 with
      | .error fault => .failure (.search fault)
      | .ok itineraries => .success (report itineraries)

/-- The command with its arguments and a way to look up files. -/
def run (files : String → FileContent) : List String → CommandOutcome
  | inventory :: source :: destination :: rest =>
    match rest with
    | [] => runWith {} (files inventory) ⟨source, destination⟩
    | path :: _ =>
      match (files path).config with
      | .error fault => .failure (.config path fault)
      | .ok config => runWith config (files inventory) ⟨source, destination⟩
  | _ => .failure .usage

end CommandLine
end Itineraries
