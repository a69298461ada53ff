import RestRoutes.Proofs.Yaml.Lexer
import RestRoutes.Proofs.Yaml.Node
import RestRoutes.Yaml.Reader

/-! What stops the reading of a YAML text.  The readers of nodes stop where the tokens break the grammar, or
at the fault that ends the tokens; they never change that fault.  Beyond them only a node without a value
stops the reading. -/

namespace RestRoutes.Yaml

open Std.Do

set_option mvcgen.warning false

namespace Read

/-- The tokens end with those of the text, or in a fault of the lexer. -/
def EndsLexically (s : Reading) : Prop := ∀ e, s.fault = some e → LexicalFault e

abbrev starting : Assertion (.arg Reading (.except Error .pure)) := fun s => ⌜EndsLexically s⌝

/-- What follows a reader. -/
abbrev keeping {α : Type} : PostCond α (.arg Reading (.except Error .pure)) :=
  post⟨fun _ s => ⌜EndsLexically s⌝, fun e => ⌜LexicalFault e⌝⟩

variable {α : Type}

@[spec] theorem fail_keeping (what : Problem) :
    ⦃starting⦄ (fail what : Read α) ⦃keeping⦄ := fun _ _ => .problem what

theorem lexicalFault_getD {s : Reading} (h : EndsLexically s) (what : Problem) :
    LexicalFault (s.fault.getD (.problem what)) := by
  cases hFault : s.fault with
  | none => exact .problem what
  | some e => exact h e hFault

@[spec] theorem peek_keeping : ⦃starting⦄ peek ⦃keeping⦄ := by
  mvcgen [peek, -Spec.throw_MonadExcept, -throw_lexical]
  exact lexicalFault_getD ‹_› .unexpectedToken

@[spec] theorem skip_keeping : ⦃starting⦄ skip ⦃keeping⦄ := by mvcgen [skip]

@[spec] theorem skipIf_keeping (token : Token) : ⦃starting⦄ skipIf token ⦃keeping⦄ := by
  mvcgen [skipIf]

@[spec] theorem expect_keeping (token : Token) : ⦃starting⦄ expect token ⦃keeping⦄ := by
  mvcgen [expect]

/-! ### Properties of a node -/

@[spec] theorem tagName_keeping (handle : Option String) (suffix : String) :
    ⦃starting⦄ tagName handle suffix ⦃keeping⦄ := by mvcgen [tagName]

@[spec] theorem properties_keeping : ⦃starting⦄ properties ⦃keeping⦄ := by mvcgen [properties]

@[spec] theorem bind_keeping (anchor : Option String) (node : Node) :
    ⦃starting⦄ bind anchor node ⦃keeping⦄ := by mvcgen [bind]

@[spec] theorem checkUnused_keeping (anchor : Option String) :
    ⦃starting⦄ checkUnused anchor ⦃keeping⦄ := by mvcgen [checkUnused]

@[spec] theorem aliased_keeping (name : String) : ⦃starting⦄ aliased name ⦃keeping⦄ := by
  mvcgen [aliased]

/-! ### Nodes -/

/-- What all readers of nodes keep to with a given fuel. -/
structure NodesKeep (fuel : Nat) : Prop where
  node (position : Position) : ⦃starting⦄ node position fuel ⦃keeping⦄
  optionalNode (position : Position) (enders : List Token) :
    ⦃starting⦄ optionalNode position enders fuel ⦃keeping⦄
  blockItems : ⦃starting⦄ blockItems fuel ⦃keeping⦄
  unindentedItems : ⦃starting⦄ unindentedItems fuel ⦃keeping⦄
  blockEntries : ⦃starting⦄ blockEntries fuel ⦃keeping⦄
  flowValue (ender : Token) : ⦃starting⦄ flowValue ender fuel ⦃keeping⦄
  flowItems (first : Bool) : ⦃starting⦄ flowItems first fuel ⦃keeping⦄
  flowEntries (first : Bool) : ⦃starting⦄ flowEntries first fuel ⦃keeping⦄

theorem nodesKeep (fuel : Nat) : NodesKeep fuel := by
  induction fuel with
  | zero =>
    constructor
    · intro position
      mvcgen [node]
    · intro position enders
      mvcgen [optionalNode]
    · mvcgen [blockItems]
    · mvcgen [unindentedItems]
    · mvcgen [blockEntries]
    · intro ender
      mvcgen [flowValue]
    · intro first
      mvcgen [flowItems]
    · intro first
      mvcgen [flowEntries]
  | succ fuel ih =>
    obtain ⟨hNode, hOptionalNode, hBlockItems, hUnindentedItems, hBlockEntries, hFlowValue,
      hFlowItems, hFlowEntries⟩ := ih
    constructor
    · intro position
      mvcgen [node, bindSequence, bindMapping, hFlowItems, hFlowEntries, hUnindentedItems,
        hBlockItems, hBlockEntries]
    · intro position enders
      mvcgen [optionalNode, isAbsent, hNode]
    · mvcgen [blockItems, hOptionalNode, hBlockItems]
    · mvcgen [unindentedItems, hOptionalNode, hUnindentedItems]
    · mvcgen [blockEntries, hOptionalNode, hBlockEntries]
    · intro ender
      mvcgen [flowValue, hOptionalNode]
    · intro first
      mvcgen [flowItems, hNode, hOptionalNode, hFlowValue, hFlowItems]
    · intro first
      mvcgen [flowEntries, hNode, hOptionalNode, hFlowValue, hFlowEntries]

@[spec] theorem node_keeping (position : Position) (fuel : Nat) :
    ⦃starting⦄ node position fuel ⦃keeping⦄ := (nodesKeep fuel).node position

/-! ### Documents -/

@[spec] theorem directives_keeping (versioned : Bool) (handles : List (String × String)) (fuel : Nat) :
    ⦃starting⦄ directives versioned handles fuel ⦃keeping⦄ := by
  induction fuel generalizing versioned handles with
  | zero => mvcgen [directives]
  | succ fuel ih => mvcgen [directives, ih]

@[spec] theorem skipDocumentEnds_keeping (fuel : Nat) :
    ⦃starting⦄ skipDocumentEnds fuel ⦃keeping⦄ := by
  induction fuel with
  | zero => mvcgen [skipDocumentEnds]
  | succ fuel ih => mvcgen [skipDocumentEnds, ih]

@[spec] theorem explicitDocument_keeping (fuel : Nat) :
    ⦃starting⦄ explicitDocument fuel ⦃keeping⦄ := by
  mvcgen [explicitDocument]

end Read

end RestRoutes.Yaml
