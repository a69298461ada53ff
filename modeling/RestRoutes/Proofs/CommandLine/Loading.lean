import RestRoutes.Proofs.CommandLine.Execution
import RestRoutes.Proofs.Document.Loading

/-! How a command line ends whose document cannot be loaded.  A refused document has an exit code of its
own, and nothing is left behind; what is no refusal is a crash. -/

namespace RestRoutes.CommandLine

open File

def Command.source : Command → String
  | .generate o => o.source
  | .operations o => o.source

end RestRoutes.CommandLine
