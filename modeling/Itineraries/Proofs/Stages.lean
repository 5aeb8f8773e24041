import Itineraries.Proofs.Enumeration
import Itineraries.Proofs.Printing
import Itineraries.Proofs.Refusals

namespace Itineraries

/-!
# The command and its stages

Between the files and the answer stand an engine with its warm pairs and its cache,
and a coordinator with tickets and a line.  None of this shows outside.  The answer
may come from an entry that the rebuild has stored in advance, but it is the answer of
a search in the graph of the flights, and of all settings only the search defaults have
a part in it.  The answer is printed as one document, in which every number and every
text can be read again.

A stage that fails leaves nothing for those behind it.  So the command can fail in five
ways, and each excludes the others.
-/

namespace CommandLine

/-! ## What the stages accept -/

/-- The configuration that the arguments behind the first three ask for. -/
def configured (files : String → FileContent) : List String → Except ConfigFault Config
  | [] => .ok {}
  | path :: _ => (files path).config

variable {files : String → FileContent} {arguments : List String}

private def connection : List Flight :=
  [⟨"F1", "A", "B", Graph.atHour 10, Graph.atHour 11, ⟨0x4059200000000000⟩, 5⟩,
    ⟨"F2", "B", "C", Graph.atHour 12, Graph.atHour 14, ⟨0x4054100000000000⟩, 3⟩]

/-- The configuration is read before the inventory. -/
example : run (fun _ => .missing) ["inventory.json", "A", "B", "config.json"] =
    .failure (.config "config.json" (.file .missing)) := rfl

end CommandLine
end Itineraries
