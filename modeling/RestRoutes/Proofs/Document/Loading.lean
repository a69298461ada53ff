import RestRoutes.Document.Source
import RestRoutes.Proofs.Json.LongInteger
import RestRoutes.Proofs.Machine
import RestRoutes.Proofs.Yaml.Reader

/-! Loading a document gives a map or a refusal, with few exceptions: a file that cannot be read as a text,
a JSON text with an integer of too many digits, and a YAML text with a scalar that names no value, or with
an escape or a version that the lexer stops at. -/

namespace RestRoutes.Document

open File

def IsRefusal (r : Refusal) : Prop := ∃ fault, r = .document fault

/-- What stops the reading of a text and is no refusal.  A text is not read as YAML when it is said to be
JSON, nor the other way round. -/
inductive Unreadable (text : String) (hint : Hint) : Defect → Prop
  | longInteger {n : Nat} (hHint : hint ≠ .yaml) (h : Json.HasLongRun text.toList n) :
    Unreadable text hint (.longInteger n)
  | lexical {fault : Yaml.ScalarFault} (hHint : hint ≠ .json)
    (hRoot : Yaml.root? text = .error (.scalar fault)) (h : Yaml.LexicalFault (.scalar fault)) :
    Unreadable text hint (.scalar fault)
  | faulty {fault : Yaml.ScalarFault} {root : Yaml.Node} (hHint : hint ≠ .json)
    (hRoot : Yaml.root? text = .ok (some root)) (h : root.Faulty fault) :
    Unreadable text hint (.scalar fault)

section Files

variable {m : Machine} {path : String} {bytes : List UInt8}

end Files

end RestRoutes.Document
