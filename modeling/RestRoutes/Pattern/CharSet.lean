import RestRoutes.Text.Blank
import RestRoutes.Text.Case
import RestRoutes.Text.Digit
import RestRoutes.Text.Word

/-! Tests on single characters, as they are written in regular expressions. -/

namespace RestRoutes.Pattern

/-- How a test takes capital and small letters: apart, or for one another in ASCII or in every
script. -/
inductive Folding
  | exact
  | ascii
  | full
deriving DecidableEq, Repr

/-- A class of characters that has a name. -/
inductive Category
  | digit
  | space
  | word
deriving DecidableEq, Repr

/-- A character belongs to a category, in ASCII or in every script. -/
def Category.has (ascii : Bool) (c : Char) : Category → Bool
  | .digit => if ascii then '0' ≤ c && c ≤ '9' else Text.isDigit c
  | .space => if ascii then c == ' ' || (0x09 ≤ c.toNat && c.toNat ≤ 0x0D) else Text.isSpace c
  | .word => if ascii then c.isAlphanum || c == '_' else Text.isWord c

/-- A member of a set: a range of characters, or a category or its complement. -/
inductive SetItem
  | range (low high : Nat)
  | category (kind : Category) (ascii negated : Bool)
deriving DecidableEq, Repr

def SetItem.has (c : Char) : SetItem → Bool
  | .range low high => decide (low ≤ c.toNat) && decide (c.toNat ≤ high)
  | .category kind ascii negated => kind.has ascii c != negated

/-- The set of one code point.  One that is no character is in the set for the sake of ranges. -/
def SetItem.code (n : Nat) : SetItem := .range n n

def SetItem.single (c : Char) : SetItem := .code c.toNat

/-- A test on one character: a set or its complement, with a folding of letters. -/
structure CharSet where
  negated : Bool
  items : List SetItem
  folding : Folding
deriving DecidableEq, Repr

namespace CharSet

/-- The characters that count as `c` under a folding. -/
def variants (folding : Folding) (c : Char) : List Char :=
  match folding with
  | .exact => [c]
  | .ascii => [c, c.toLower, c.toUpper]
  | .full => c :: Text.caseVariants c

def has (set : CharSet) (c : Char) : Bool :=
  ((variants set.folding c).any fun v => set.items.any (·.has v)) != set.negated

/-- The test for one code point, which nothing passes if it is no character. -/
def code (folding : Folding) (n : Nat) : CharSet := ⟨false, [.code n], folding⟩

def single (folding : Folding) (c : Char) : CharSet := code folding c.toNat

theorem has_single (c d : Char) : (single .exact c).has d = true ↔ d = c := by
  simp only [has, single, code, variants, SetItem.has, SetItem.code, List.any_cons, List.any_nil,
    Bool.or_false, Bool.bne_false, Bool.and_eq_true, decide_eq_true_eq]
  rw [← Char.toNat_inj]
  omega

def any : CharSet := ⟨true, [], .exact⟩

/-- The test that every character but a line feed passes. -/
def anyInLine : CharSet := ⟨true, [.single '\n'], .exact⟩

end CharSet

end RestRoutes.Pattern
