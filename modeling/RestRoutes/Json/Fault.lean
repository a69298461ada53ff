/-! Why a text is no JSON document. -/

namespace RestRoutes.Json

/-- What the reader was missing, or refused. -/
inductive Expected
  | value
  | name
  | colon
  | comma
  | stringEnd
  | plainCharacter
  | escape
  | unicodeEscape
  | documentEnd
  | noByteOrderMark
deriving DecidableEq, Repr

def Expected.message : Expected → String
  | .value => "Expecting value"
  | .name => "Expecting property name enclosed in double quotes"
  | .colon => "Expecting ':' delimiter"
  | .comma => "Expecting ',' delimiter"
  | .stringEnd => "Unterminated string starting at"
  | .plainCharacter => "Invalid control character at"
  | .escape => "Invalid \\escape"
  | .unicodeEscape => "Invalid \\uXXXX escape"
  | .documentEnd => "Extra data"
  | .noByteOrderMark => "Unexpected UTF-8 BOM (decode using utf-8-sig)"

/-- A fault and its place: the offset counts characters from 0, line and column count from 1. -/
structure Fault where
  expected : Expected
  offset : Nat
  line : Nat
  column : Nat
deriving DecidableEq, Repr

def Fault.message (fault : Fault) : String :=
  fault.expected.message ++ ": line " ++ toString fault.line ++ " column " ++
    toString fault.column ++ " (char " ++ toString fault.offset ++ ")"

def Fault.at (expected : Expected) (text : List Char) (offset : Nat) : Fault :=
  let before := text.take offset
  { expected, offset
    line := before.count '\n' + 1
    column := (before.reverse.takeWhile (· != '\n')).length + 1 }

/-- Why no value was read. -/
inductive Stop
  /-- The text breaks the grammar where `left` characters are still to be read. -/
  | grammar (expected : Expected) (left : Nat)
  /-- An integer has more digits than are allowed. -/
  | longInteger (digits : Nat)
deriving DecidableEq, Repr

/-- The outcome of reading a whole text. -/
inductive Error
  | fault (fault : Fault)
  | longInteger (digits : Nat)
deriving DecidableEq, Repr

end RestRoutes.Json
