import Mathlib
import RestRoutes.Yaml.Lexer

/-! What ends the tokens of a YAML text.  A lexer stops where the text breaks the rules of YAML, and in two
more places: at an escape beyond the last character, and at a directive whose version has a number of too
many digits.  Every step of it keeps to this, so the whole run does. -/

namespace RestRoutes.Yaml

open Std.Do

set_option mvcgen.warning false

/-- A fault that a lexer stops at. -/
inductive LexicalFault : Error → Prop
  | problem (what : Problem) : LexicalFault (.problem what)
  | codePoint ( wide : Bool) : LexicalFault (.scalar (.codePoint wide))
  | longVersion {digits : Nat} (h : integerDigitLimit < digits) :
    LexicalFault (.scalar (.longInteger digits))

/-- What follows any step: if it fails, its fault is one of these. -/
abbrev lexically {σ α : Type} : PostCond α (.arg σ (.except Error .pure)) :=
  post⟨fun _ => ⌜True⌝, fun e => ⌜LexicalFault e⌝⟩

section Steps

variable {σ α : Type}

@[spec] theorem throw_lexical {e : Error} (h : LexicalFault e) :
    ⦃⌜True⌝⦄ (throw e : StateT σ (Except Error) α) ⦃lexically⦄ := fun _ _ => h

theorem lexical_iff {x : StateT σ (Except Error) α} :
    ⦃⌜True⌝⦄ x ⦃lexically⦄ ↔ ∀ s e, x s = .error e → LexicalFault e := by
  have hStep (s : σ) : (wp⟦x⟧ lexically s).down ↔ ∀ e, x s = .error e → LexicalFault e := by
    change (wp⟦x.run s⟧ _).down ↔ ∀ e, x.run s = .error e → LexicalFault e
    cases x.run s with
    | ok p => exact iff_of_true trivial nofun
    | error e =>
      constructor
      · rintro h _ ⟨⟩
        exact h
      · intro h
        exact h e rfl
  exact ⟨fun h s => (hStep s).mp (h s trivial), fun h s _ => (hStep s).mpr (h s)⟩

end Steps

namespace Scan

attribute [local spec] peek peekAt skip takeWhile skipBlanks

@[spec] theorem fail_lexical {α : Type} (what : Problem) :
    ⦃⌜True⌝⦄ (fail what : Scan α) ⦃lexically⦄ := throw_lexical (.problem what)

@[spec] theorem lineBreak_lexical : ⦃⌜True⌝⦄ lineBreak ⦃lexically⦄ := by mvcgen [lineBreak]

@[spec] theorem skipComment_lexical : ⦃⌜True⌝⦄ skipComment ⦃lexically⦄ := by mvcgen [skipComment]

@[spec] theorem finishLine_lexical (what : Problem) : ⦃⌜True⌝⦄ finishLine what ⦃lexically⦄ := by
  mvcgen [finishLine]

@[spec] theorem atDocumentMark_lexical : ⦃⌜True⌝⦄ atDocumentMark ⦃lexically⦄ := by
  mvcgen [atDocumentMark]

@[spec] theorem name_lexical (what : Problem) : ⦃⌜True⌝⦄ name what ⦃lexically⦄ := by mvcgen [name]

/-! ### Tags, directives and anchors -/

@[spec] theorem uriPieces_lexical (what : Problem) (fuel : Nat) :
    ⦃⌜True⌝⦄ uriPieces what fuel ⦃lexically⦄ := by
  induction fuel with
  | zero => mvcgen [uriPieces]
  | succ fuel ih => mvcgen [uriPieces, ih]

@[spec] theorem uri_lexical (what : Problem) (fuel : Nat) : ⦃⌜True⌝⦄ uri what fuel ⦃lexically⦄ := by
  mvcgen [uri]

@[spec] theorem handle_lexical (what : Problem) : ⦃⌜True⌝⦄ handle what ⦃lexically⦄ := by
  mvcgen [handle]

@[spec] theorem tag_lexical (fuel : Nat) : ⦃⌜True⌝⦄ tag fuel ⦃lexically⦄ := by mvcgen [tag]

@[spec] theorem versionNumber_lexical : ⦃⌜True⌝⦄ versionNumber ⦃lexically⦄ := by
  mvcgen [versionNumber, -Spec.throw_MonadExcept]
  · exact .longVersion ‹_›
  · exact .longVersion ‹_›

@[spec] theorem directive_lexical (fuel : Nat) : ⦃⌜True⌝⦄ directive fuel ⦃lexically⦄ := by
  mvcgen [directive]

@[spec] theorem anchorName_lexical : ⦃⌜True⌝⦄ anchorName ⦃lexically⦄ := by mvcgen [anchorName]

/-! ### Scalars -/

@[spec] theorem indentation_lexical : ⦃⌜True⌝⦄ indentation ⦃lexically⦄ := by mvcgen [indentation]

@[spec] theorem chomping_lexical : ⦃⌜True⌝⦄ chomping ⦃lexically⦄ := by mvcgen [chomping]

@[spec] theorem blockHeader_lexical : ⦃⌜True⌝⦄ blockHeader ⦃lexically⦄ := by mvcgen [blockHeader]

@[spec] theorem leadingBreaks_lexical (fuel widest : Nat) :
    ⦃⌜True⌝⦄ leadingBreaks fuel widest ⦃lexically⦄ := by
  induction fuel generalizing widest with
  | zero => mvcgen [leadingBreaks]
  | succ fuel ih => mvcgen [leadingBreaks, ih]

@[spec] theorem breaksWithin_lexical (indent fuel : Nat) :
    ⦃⌜True⌝⦄ breaksWithin indent fuel ⦃lexically⦄ := by
  induction fuel with
  | zero => mvcgen [breaksWithin]
  | succ fuel ih => mvcgen [breaksWithin, skipIndent, ih]

@[spec] theorem blockLines_lexical (folded : Bool) (indent fuel : Nat) :
    ⦃⌜True⌝⦄ blockLines folded indent fuel ⦃lexically⦄ := by
  induction fuel with
  | zero => mvcgen [blockLines]
  | succ fuel ih => mvcgen [blockLines, atBlockLine, ih]

@[spec] theorem blockScalar_lexical (folded : Bool) (parentIndent : Int) (fuel : Nat) :
    ⦃⌜True⌝⦄ blockScalar folded parentIndent fuel ⦃lexically⦄ := by
  mvcgen [blockScalar, atBlockLine]

@[spec] theorem codePoint_lexical (width : Nat) : ⦃⌜True⌝⦄ codePoint width ⦃lexically⦄ := by
  mvcgen [codePoint, -Spec.throw_MonadExcept]
  · exact .codePoint _
  · exact .codePoint _

@[spec] theorem quotedBreaks_lexical (fuel : Nat) : ⦃⌜True⌝⦄ quotedBreaks fuel ⦃lexically⦄ := by
  induction fuel with
  | zero => mvcgen [quotedBreaks]
  | succ fuel ih => mvcgen [quotedBreaks, ih]

@[spec] theorem numericEscape_lexical (width : Nat) : ⦃⌜True⌝⦄ numericEscape width ⦃lexically⦄ := by
  mvcgen [numericEscape]

@[spec] theorem quotedEscape_lexical (fuel : Nat) : ⦃⌜True⌝⦄ quotedEscape fuel ⦃lexically⦄ := by
  mvcgen [quotedEscape]

@[spec] theorem quotedBlanks_lexical (fuel : Nat) : ⦃⌜True⌝⦄ quotedBlanks fuel ⦃lexically⦄ := by
  mvcgen [quotedBlanks]

@[spec] theorem quotedText_lexical (double : Bool) (fuel : Nat) :
    ⦃⌜True⌝⦄ quotedText double fuel ⦃lexically⦄ := by
  induction fuel with
  | zero => mvcgen [quotedText]
  | succ fuel ih => mvcgen [quotedText, ih]

@[spec] theorem quotedScalar_lexical (double : Bool) (fuel : Nat) :
    ⦃⌜True⌝⦄ quotedScalar double fuel ⦃lexically⦄ := by mvcgen [quotedScalar]

@[spec] theorem plainBreaks_lexical (fuel : Nat) : ⦃⌜True⌝⦄ plainBreaks fuel ⦃lexically⦄ := by
  induction fuel with
  | zero => mvcgen [plainBreaks]
  | succ fuel ih => mvcgen [plainBreaks, ih]

@[spec] theorem plainText_lexical (flow : Bool) (indent fuel : Nat) :
    ⦃⌜True⌝⦄ plainText flow indent fuel ⦃lexically⦄ := by
  induction fuel with
  | zero => mvcgen [plainText]
  | succ fuel ih => mvcgen [plainText, plainBlanks, ih]

@[spec] theorem plainScalar_lexical (flow : Bool) (parentIndent : Int) (fuel : Nat) :
    ⦃⌜True⌝⦄ plainScalar flow parentIndent fuel ⦃lexically⦄ := by mvcgen [plainScalar]

end Scan

namespace Lexer

attribute [local spec] emit emitAt allowKey inFlow indent column

@[spec] theorem fail_lexical {α : Type} (what : Problem) :
    ⦃⌜True⌝⦄ (fail what : Step α) ⦃lexically⦄ := throw_lexical (.problem what)

@[spec] theorem scan_lexical {α : Type} {reader : Scan α} (h : ⦃⌜True⌝⦄ reader ⦃lexically⦄) :
    ⦃⌜True⌝⦄ scan reader ⦃lexically⦄ := by
  rw [lexical_iff] at h ⊢
  intro s e hError
  unfold scan at hError
  cases hRead : reader s.cursor with
  | error e' =>
    rw [hRead] at hError
    cases hError
    exact h _ _ hRead
  | ok p =>
    rw [hRead] at hError
    cases hError

/-! ### Keys and blocks -/

@[spec] theorem dropStaleKeys_lexical : ⦃⌜True⌝⦄ dropStaleKeys ⦃lexically⦄ := by
  mvcgen [dropStaleKeys]

@[spec] theorem dropKey_lexical : ⦃⌜True⌝⦄ dropKey ⦃lexically⦄ := by mvcgen [dropKey]

@[spec] theorem saveKey_lexical : ⦃⌜True⌝⦄ saveKey ⦃lexically⦄ := by mvcgen [saveKey]

@[spec] theorem unwind_lexical (column : Int) : ⦃⌜True⌝⦄ unwind column ⦃lexically⦄ := by
  mvcgen [unwind]

@[spec] theorem openBlock_lexical (column : Nat) : ⦃⌜True⌝⦄ openBlock column ⦃lexically⦄ := by
  mvcgen [openBlock]

@[spec] theorem skipToToken_lexical (fuel : Nat) : ⦃⌜True⌝⦄ skipToToken fuel ⦃lexically⦄ := by
  induction fuel with
  | zero => mvcgen [skipToToken]
  | succ fuel ih => mvcgen [skipToToken, ih]

/-! ### Tokens -/

@[spec] theorem streamEnd_lexical : ⦃⌜True⌝⦄ streamEnd ⦃lexically⦄ := by mvcgen [streamEnd]

@[spec] theorem directive_lexical (fuel : Nat) : ⦃⌜True⌝⦄ directive fuel ⦃lexically⦄ := by
  mvcgen [directive]

@[spec] theorem documentMark_lexical (token : Token) :
    ⦃⌜True⌝⦄ documentMark token ⦃lexically⦄ := by mvcgen [documentMark]

@[spec] theorem flowStart_lexical (token : Token) : ⦃⌜True⌝⦄ flowStart token ⦃lexically⦄ := by
  mvcgen [flowStart]

@[spec] theorem flowEnd_lexical (token : Token) : ⦃⌜True⌝⦄ flowEnd token ⦃lexically⦄ := by
  mvcgen [flowEnd]

@[spec] theorem flowEntry_lexical : ⦃⌜True⌝⦄ flowEntry ⦃lexically⦄ := by mvcgen [flowEntry]

@[spec] theorem blockEntry_lexical : ⦃⌜True⌝⦄ blockEntry ⦃lexically⦄ := by mvcgen [blockEntry]

@[spec] theorem key_lexical : ⦃⌜True⌝⦄ key ⦃lexically⦄ := by mvcgen [key]

@[spec] theorem value_lexical : ⦃⌜True⌝⦄ value ⦃lexically⦄ := by mvcgen [value]

@[spec] theorem keyStart_lexical {reader : Scan Token} (h : ⦃⌜True⌝⦄ reader ⦃lexically⦄) :
    ⦃⌜True⌝⦄ keyStart reader ⦃lexically⦄ := by mvcgen [keyStart, h]

@[spec] theorem blockScalar_lexical (folded : Bool) (fuel : Nat) :
    ⦃⌜True⌝⦄ blockScalar folded fuel ⦃lexically⦄ := by mvcgen [blockScalar]

@[spec] theorem plainScalar_lexical (fuel : Nat) : ⦃⌜True⌝⦄ plainScalar fuel ⦃lexically⦄ := by
  mvcgen [plainScalar]

end Lexer

end RestRoutes.Yaml
