import RestRoutes.Proofs.Run
import RestRoutes.Yaml.Node

/-! Which nodes have no value though they break no rule: those that are tagged as a boolean, a number or a
moment, with a text that names none.  Whatever is wrong with a document apart from its rules is wrong with
such a node in it, both where the value of the root is built and where the fault that counts is looked
for. -/

namespace RestRoutes

namespace Yaml

/-- The tags of scalars whose text may name no value. -/
def Tag.namers : List Tag := [.bool, .int, .float, .timestamp]

namespace Node

def parts : Node → List Node
  | .scalar _ _ => []
  | .sequence _ items => items
  | .mapping _ entries merged => (entries ++ merged.getD []).flatMap fun e => [e.1, e.2]

/-- The text of a node, or of one in it, names no value of its tag. -/
inductive Faulty (fault : ScalarFault) : Node → Prop
  | scalar {n : Node} (hTag : n.tag ∈ Tag.namers)
    (h : n.scalarValue = .error (.scalar fault)) : Faulty fault n
  | part {n m : Node} (hPart : m ∈ n.parts) (h : Faulty fault m) : Faulty fault n

variable {fault : ScalarFault}

end Node

end Yaml

end RestRoutes
