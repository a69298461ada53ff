import RestRoutes.Document
import RestRoutes.Machine

/-! Where documents come from: the standard input, an address, or a file. -/

namespace RestRoutes.Document

open File

inductive Source
  | input
  | address (url : String)
  | file (path : String)
deriving DecidableEq, Repr

namespace Source

/-- The source that a text names: a single dash is the standard input, and a text that starts as the
address of a page is one. -/
def ofText (text : String) : Source :=
  if text = "-" then .input
  else if Text.startsWith "http://" text || Text.startsWith "https://" text then .address text
  else .file text

def name : Source → String
  | input => "stdin"
  | address url => url
  | file path => path

end Source

/-- A text with what is known about its format. -/
structure Content where
  text : String
  hint : Hint
deriving DecidableEq, Repr

/-- What the ending of a path says about the format. -/
def suffixHint (suffix : String) : Hint :=
  if suffix = ".json" then .json
  else if suffix = ".yaml" || suffix = ".yml" then .yaml
  else .none

/-- What the type of a page says about the format. -/
def typeHint (contentType : String) : Hint :=
  if Text.mentions "json" contentType then .json
  else if Text.mentions "yaml" contentType || Text.mentions "yml" contentType then .yaml
  else .none

def fetched (url : String) : Response → Except Failure Content
  | .unreachable reason => refuse (.unreachable url reason)
  | .answer status contentType body =>
    if 200 ≤ status ∧ status < 300 then .ok ⟨body, typeHint contentType⟩
    else refuse (.status status url)

def fileContent (m : Machine) (path : String) : Except Failure Content := do
  let p := Path.ofText path
  if !(← (m.isFile p).mapError (.defect ∘ .file)) then refuse (.notFound path)
  else
    match m.tree.read m.directory p with
    | .error fault => refuse (.unreadableFile path fault)
    | .ok bytes =>
      let text ← (Machine.textOf bytes).mapError (.defect ∘ .encoding)
      return ⟨text, suffixHint p.suffix⟩

def content (m : Machine) : Source → Except Failure Content
  | .input => .ok ⟨m.input, .none⟩
  | .address url => fetched url (m.fetch url)
  | .file path => fileContent m path

/-- Loads the document that a text names the source of. -/
def load (m : Machine) (source : String) : Except Failure Value := do
  let origin := Source.ofText source
  let content ← content m origin
  if Text.isBlank content.text then refuse (.noContent origin.name)
  read content.text content.hint

end RestRoutes.Document
