import RestRoutes.Yaml.Scalar

/-! The nodes of a YAML document and their values. -/

namespace RestRoutes.Yaml

/-- A node.  A mapping has its entries as they are written, and its entries after merging: those of
the mappings under its merge keys come first. `none` when a merge key holds anything but mappings. -/
inductive Node
  | scalar (tag : Tag) (text : String)
  | sequence (tag : Tag) (items : List Node)
  | mapping (tag : Tag) (entries : List (Node × Node)) (merged : Option (List (Node × Node)))

namespace Node

instance : Inhabited Node := ⟨.scalar .null ""⟩

def tag : Node → Tag
  | .scalar tag _ => tag
  | .sequence tag _ => tag
  | .mapping tag _ _ => tag

/-! ### Merging -/

def merged? : Node → Option (List (Node × Node))
  | .mapping _ _ merged => merged
  | _ => none

/-- The entries that a merge key brings in: those of a mapping, or those of a list of mappings, the
last of these first. -/
def mergedIn? : Node → Option (List (Node × Node))
  | .mapping _ _ merged => merged
  | .sequence _ items => (items.mapM merged?).map fun parts => parts.reverse.flatten
  | .scalar _ _ => none

/-- A key after merging: the value key is a text there. -/
def mergedKey : Node → Node
  | .scalar .value text => .scalar .str text
  | .sequence .value items => .sequence .str items
  | .mapping .value entries merged => .mapping .str entries merged
  | key => key

/-- The entries of a mapping after merging. -/
def mergeEntries? (entries : List (Node × Node)) : Option (List (Node × Node)) := do
  let broughtIn ← (entries.filter (·.1.tag == .merge)).mapM fun e => mergedIn? e.2
  let own := (entries.filter (·.1.tag != .merge)).map fun e => (mergedKey e.1, e.2)
  return broughtIn.flatten ++ own

def ofEntries (tag : Tag) (entries : List (Node × Node)) : Node :=
  .mapping tag entries (mergeEntries? entries)

/-! ### Values -/

/-- The text that a node stands for where a scalar is asked for: a mapping stands for the scalar
under its value key. -/
def scalarText? : Node → Option String
  | .scalar _ text => some text
  | .sequence _ _ => none
  | .mapping _ entries _ => scalarTextIn? entries
where
  scalarTextIn? : List (Node × Node) → Option String
    | [] => none
    | (k, v) :: rest => if k.tag == .value then scalarText? v else scalarTextIn? rest

def scalarValue (n : Node) : Except Error Value :=
  match n.scalarText? with
  | some text => n.tag.scalarValue text
  | none => .error (.problem (if n.tag == .unknown then .unknownTag else .wrongKind))

mutual

def value : Node → Except Error Value
  | .sequence .seq items => (values items).map .list
  | .sequence .omap items => (pairs items).map .list
  | .sequence .pairs items => (pairs items).map .list
  | .mapping .map _ (some merged) => (entryValues merged).map Value.ofEntries
  | .mapping .set _ (some merged) =>
    (entryValues merged).map fun es => .set ((Assoc.ofEntries Value.sameKey es).map (·.1))
  | .mapping .map _ none => .error (.problem .badMerge)
  | .mapping .set _ none => .error (.problem .badMerge)
  | n => if n.tag.isCollection then .error (.problem .wrongKind) else n.scalarValue

def values : List Node → Except Error (List Value)
  | [] => .ok []
  | n :: rest => do return (← value n) :: (← values rest)

def entryValues : List (Node × Node) → Except Error (List (Value × Value))
  | [] => .ok []
  | (k, v) :: rest => do
    let key ← value k
    if !key.isScalar then throw (.problem .unhashableKey)
    return (key, ← value v) :: (← entryValues rest)

/-- The pairs that mappings of one entry each stand for. -/
def pairs : List Node → Except Error (List Value)
  | [] => .ok []
  | .mapping _ [(k, v)] _ :: rest => do
    return .tuple [← value k, ← value v] :: (← pairs rest)
  | _ => .error (.problem .wrongKind)

end

/-! ### Which fault counts

The nodes of a document are looked at level by level, so of several faults the one nearest to the
root counts, and among these the first. -/

/-- One thing done for the value of a collection: to look at a part, or to refuse. -/
inductive Visit
  | part (n : Node)
  | refusal (what : Problem)

def entryVisits (entries : List (Node × Node)) : List Visit :=
  entries.flatMap fun (k, v) =>
    if k.tag.isCollection then [.part k, .refusal .unhashableKey] else [.part k, .part v]

/-- What is done for a sequence of mappings of one entry each. -/
def pairVisits : List Node → List Visit
  | [] => []
  | .mapping _ [(k, v)] _ :: rest => .part k :: .part v :: pairVisits rest
  | _ => [.refusal .wrongKind]

/-- What is done for the value of a collection. -/
def visits : Node → List Visit
  | .sequence .seq items => items.map .part
  | .sequence .omap items => pairVisits items
  | .sequence .pairs items => pairVisits items
  | .mapping .map _ (some merged) => entryVisits merged
  | .mapping .set _ (some merged) => entryVisits merged
  | _ => [.refusal .wrongKind]

/-- The collections among the parts to look at, unless a scalar among them has no value. -/
def collectionsAmong : List Visit → Except Error (List Node)
  | [] => .ok []
  | .refusal what :: _ => .error (.problem what)
  | .part n :: rest =>
    if n.tag.isCollection then do return n :: (← collectionsAmong rest)
    else do
      let _ ← n.scalarValue
      collectionsAmong rest

/-- The first fault of the nodes at one level and of all below it. -/
def firstFault : (fuel : Nat) → List Visit → Option Error
  | 0, _ => none
  | fuel + 1, level =>
    match collectionsAmong level with
    | .error e => some e
    | .ok [] => none
    | .ok nodes => firstFault fuel (nodes.flatMap visits)

end Node

end RestRoutes.Yaml
