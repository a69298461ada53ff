import RestRoutes.Text.Hex
import RestRoutes.Text.Printable

/-! Texts as quoted literals.  Single quotes are preferred; double quotes are used for a text that
holds a single quote and no double quote.  Characters that are not printable are escaped. -/

namespace RestRoutes.Text

def literalQuote (cs : List Char) : Char :=
  if cs.contains '\'' && !cs.contains '"' then '"' else '\''

/-- One character inside a literal delimited by `quote`. -/
def literalChar (quote c : Char) : List Char :=
  if c == quote || c == '\\' then ['\\', c]
  else if c == '\t' then ['\\', 't']
  else if c == '\n' then ['\\', 'n']
  else if c == '\r' then ['\\', 'r']
  else if isPrintable c then [c]
  else if c.toNat ≤ 0xFF then '\\' :: 'x' :: hex false 2 c.toNat
  else if c.toNat ≤ 0xFFFF then '\\' :: 'u' :: hex false 4 c.toNat
  else '\\' :: 'U' :: hex false 8 c.toNat

def literal (s : String) : String :=
  let quote := literalQuote s.toList
  String.ofList (quote :: s.toList.flatMap (literalChar quote) ++ [quote])

/-- A byte inside a literal delimited by `quote`. -/
def literalByte (quote : Char) (b : UInt8) : List Char :=
  if b.toNat < 0x80 then literalChar quote (Char.ofNat b.toNat)
  else '\\' :: 'x' :: hex false 2 b.toNat

/-- A byte string as a quoted literal with the mark `b` in front. -/
def byteLiteral (bytes : List UInt8) : String :=
  let quote := literalQuote (bytes.map fun b => Char.ofNat b.toNat)
  String.ofList ('b' :: quote :: bytes.flatMap (literalByte quote) ++ [quote])

end RestRoutes.Text
