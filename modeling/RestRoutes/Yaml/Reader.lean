import RestRoutes.Yaml.Lexer
import RestRoutes.Yaml.Node

/-! Reading a YAML text: its tokens are put together to nodes by the grammar, with anchors and
aliases resolved on the way, and the root node gives the value. -/

namespace RestRoutes.Yaml

/-- The state of a reader of nodes: the tokens left, the fault that ends them if there is one, the
handles of tags, and the nodes with names so far.  While a collection is being read, its name stands
for an empty one: what holds itself is cut off there. -/
structure Reading where
  tokens : List Token
  fault : Option Error
  handles : List (String × String)
  anchors : List (String × Node)

/-- A reader of nodes. -/
abbrev Read := StateT Reading (Except Error)

namespace Read

def fail {α : Type} (what : Problem) : Read α := throw (.problem what)

def peek : Read Token := do
  let s ← get
  match s.tokens with
  | token :: _ => return token
  | [] => throw (s.fault.getD (.problem .unexpectedToken))

def skip : Read Unit := modify fun s => { s with tokens := s.tokens.drop 1 }

/-- Passes over the next token, if it is the given one. -/
def skipIf (token : Token) : Read Bool := do
  if (← peek) == token then
    skip
    return true
  else return false

def expect (token : Token) : Read Unit := do
  if !(← skipIf token) then fail .unexpectedToken

/-- The node where none is written. -/
def emptyNode : Node := .scalar .null ""

/-- The handles that are always defined. -/
def standardHandles : List (String × String) := [("!", "!"), ("!!", Tag.stem)]

/-! ### Properties of a node -/

def tagName (handle : Option String) (suffix : String) : Read String := do
  match handle with
  | none => return suffix
  | some h =>
    match (← get).handles.lookup h with
    | some target => return target ++ suffix
    | none => fail .undefinedHandle

/-- Reads an anchor and a tag in either order, each if it is there. -/
def properties : Read (Option String × Option String) := do
  match ← peek with
  | .anchor name =>
    skip
    match ← peek with
    | .tag handle suffix => skip; return (some name, some (← tagName handle suffix))
    | _ => return (some name, none)
  | .tag handle suffix =>
    skip
    match ← peek with
    | .anchor name => skip; return (some name, some (← tagName handle suffix))
    | _ => return (none, some (← tagName handle suffix))
  | _ => return (none, none)

/-- The tag of a node with the given name, or `standard` where it has none of its own. -/
def resolve (standard : Tag) : Option String → Tag
  | none => standard
  | some "!" => standard
  | some name => Tag.ofName name

def resolveScalar (text : String) (plain : Bool) : Option String → Tag
  | none => if plain then Tag.ofPlain text else .str
  | some "!" => Tag.ofPlain text
  | some name => Tag.ofName name

/-- Gives a name to a node. -/
def bind (anchor : Option String) (node : Node) : Read Unit := do
  if let some name := anchor then
    modify fun s => { s with anchors := (name, node) :: s.anchors }

/-- Refuses a name that has been given already. -/
def checkUnused (anchor : Option String) : Read Unit := do
  if let some name := anchor then
    if ((← get).anchors.lookup name).isSome then fail .duplicateAnchor

def aliased (name : String) : Read Node := do
  match (← get).anchors.lookup name with
  | some node => return node
  | none => fail .undefinedAlias

/-- The name of a sequence that is about to be read. -/
def bindSequence (anchor tag : Option String) : Read Unit :=
  bind anchor (.sequence (resolve .seq tag) [])

/-- The name of a mapping that is about to be read. -/
def bindMapping (anchor tag : Option String) : Read Unit :=
  bind anchor (.ofEntries (resolve .map tag) [])

/-! ### Nodes -/

/-- How a node may be written where it stands: in flow style only, as a block too, or also as a
sequence whose entries are not indented. -/
inductive Position
  | flow
  | block
  | unindented
deriving DecidableEq

/-- The node ends before the next token, with nothing written for it. -/
def isAbsent (enders : List Token) : Read Bool := return enders.contains (← peek)

mutual

def node (position : Position) : (fuel : Nat) → Read Node
  | 0 => fail .unexpectedToken
  | fuel + 1 => do
    if let .alias name := ← peek then
      skip
      return ← aliased name
    let (anchor, tag) ← properties
    checkUnused anchor
    let token ← peek
    let node ←
      match token with
      | .scalar text plain =>
        skip
        pure (.scalar (resolveScalar text plain tag) text)
      | .flowSequenceStart =>
        skip
        bindSequence anchor tag
        pure (.sequence (resolve .seq tag) (← flowItems true fuel))
      | .flowMappingStart =>
        skip
        bindMapping anchor tag
        pure (.ofEntries (resolve .map tag) (← flowEntries true fuel))
      | _ =>
        if position == .unindented && token == .blockEntry then do
          bindSequence anchor tag
          pure (.sequence (resolve .seq tag) (← unindentedItems fuel))
        else if position != .flow && token == .blockSequenceStart then do
          skip
          bindSequence anchor tag
          pure (.sequence (resolve .seq tag) (← blockItems fuel))
        else if position != .flow && token == .blockMappingStart then do
          skip
          bindMapping anchor tag
          pure (.ofEntries (resolve .map tag) (← blockEntries fuel))
        else if anchor.isSome || tag.isSome then
          pure (.scalar (resolveScalar "" (tag.isNone) tag) "")
        else fail .unexpectedToken
    bind anchor node
    return node

/-- Reads a node, which is empty before any of the given tokens. -/
def optionalNode (position : Position) (enders : List Token) : (fuel : Nat) → Read Node
  | 0 => fail .unexpectedToken
  | fuel + 1 => do
    if ← isAbsent enders then return emptyNode
    node position fuel

def blockItems : (fuel : Nat) → Read (List Node)
  | 0 => fail .unexpectedToken
  | fuel + 1 => do
    if ← skipIf .blockEntry then
      let item ← optionalNode .block [.blockEntry, .blockEnd] fuel
      return item :: (← blockItems fuel)
    expect .blockEnd
    return []

def unindentedItems : (fuel : Nat) → Read (List Node)
  | 0 => fail .unexpectedToken
  | fuel + 1 => do
    if ← skipIf .blockEntry then
      let item ← optionalNode .block [.blockEntry, .key, .value, .blockEnd] fuel
      return item :: (← unindentedItems fuel)
    return []

def blockEntries : (fuel : Nat) → Read (List (Node × Node))
  | 0 => fail .unexpectedToken
  | fuel + 1 => do
    if ← skipIf .key then
      let enders := [.key, .value, .blockEnd]
      let key ← optionalNode .unindented enders fuel
      let value ←
        if ← skipIf .value then optionalNode .unindented enders fuel else pure emptyNode
      return (key, value) :: (← blockEntries fuel)
    expect .blockEnd
    return []

/-- Reads the value of an entry in flow style, if a colon is next. -/
def flowValue (ender : Token) : (fuel : Nat) → Read Node
  | 0 => fail .unexpectedToken
  | fuel + 1 => do
    if ← skipIf .value then optionalNode .flow [.flowEntry, ender] fuel
    else return emptyNode

/-- Reads the items of a flow sequence and its closing bracket. A key among them starts a mapping of
one entry. -/
def flowItems (first : Bool) : (fuel : Nat) → Read (List Node)
  | 0 => fail .unexpectedToken
  | fuel + 1 => do
    if ← skipIf .flowSequenceEnd then return []
    if !first then
      expect .flowEntry
      if ← skipIf .flowSequenceEnd then return []
    let item ←
      if ← skipIf .key then do
        let key ← optionalNode .flow [.value, .flowEntry, .flowSequenceEnd] fuel
        let value ← flowValue .flowSequenceEnd fuel
        pure (Node.ofEntries .map [(key, value)])
      else node .flow fuel
    return item :: (← flowItems false fuel)

/-- Reads the entries of a flow mapping and its closing brace. A node without the mark of a key has an
empty value. -/
def flowEntries (first : Bool) : (fuel : Nat) → Read (List (Node × Node))
  | 0 => fail .unexpectedToken
  | fuel + 1 => do
    if ← skipIf .flowMappingEnd then return []
    if !first then
      expect .flowEntry
      if ← skipIf .flowMappingEnd then return []
    let entry ←
      if ← skipIf .key then do
        let key ← optionalNode .flow [.value, .flowEntry, .flowMappingEnd] fuel
        let value ← flowValue .flowMappingEnd fuel
        pure (key, value)
      else do
        let key ← node .flow fuel
        pure (key, emptyNode)
    return entry :: (← flowEntries false fuel)

end

/-! ### Documents -/

def directives (versioned : Bool) (handles : List (String × String)) :
    (fuel : Nat) → Read (List (String × String))
  | 0 => fail .badDirective
  | fuel + 1 => do
    match ← peek with
    | .directive d =>
      skip
      match d with
      | .version major =>
        if versioned || major != 1 then fail .badDirective
        directives true handles fuel
      | .handle name target =>
        if (handles.lookup name).isSome then fail .badDirective
        directives versioned ((name, target) :: handles) fuel
      | .other => directives versioned handles fuel
    | _ => return handles ++ standardHandles

def skipDocumentEnds : (fuel : Nat) → Read Unit
  | 0 => return ()
  | fuel + 1 => do if ← skipIf .documentEnd then skipDocumentEnds fuel

/-- Reads a document behind its directives and its mark. -/
def explicitDocument (fuel : Nat) : Read Node := do
  let handles ← directives false [] fuel
  expect .documentStart
  modify fun s => { s with handles }
  match ← peek with
  | .directive _ | .documentStart | .documentEnd | .streamEnd => return emptyNode
  | _ => node .block fuel

def document (fuel : Nat) : Read (Option Node) := do
  let root ←
    match ← peek with
    | .streamEnd => return none
    | .directive _ | .documentStart => explicitDocument fuel
    | _ => node .block fuel
  skipDocumentEnds fuel
  match ← peek with
  | .streamEnd => return some root
  | .directive _ =>
    let _ ← directives false [] fuel
    expect .documentStart
    fail .severalDocuments
  | .documentStart => fail .severalDocuments
  | _ => fail .unexpectedToken

end Read

def root? (text : String) : Except Error (Option Node) :=
  let (tokens, fault) := tokens text
  let fuel := 3 * tokens.length + 10
  ((Read.document fuel).run ⟨tokens, fault, Read.standardHandles, []⟩).map (·.1)

/-- The value that a YAML text writes. An empty text writes null. -/
def read (text : String) : Except Error Value := do
  match ← root? text with
  | none => return .null
  | some root =>
    match root.value with
    | .ok v => return v
    | .error e => throw ((Node.firstFault (text.length + 2) [.part root]).getD e)

end RestRoutes.Yaml
