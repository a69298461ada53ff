import RestRoutes.Calendar
import RestRoutes.Text.Literal
import RestRoutes.Value.Text

/-! Why a text is no YAML document, or writes a value that does not exist. -/

namespace RestRoutes.Yaml

/-- How a text breaks the rules of YAML. -/
inductive Problem
  | unprintable
  | badDirective
  | badAnchor
  | badTag
  | badBlockHeader
  | badEscape
  | unclosedQuote
  | documentMark
  | misplacedEntry
  | misplacedKey
  | misplacedValue
  | missingColon
  | strayCharacter
  | unexpectedToken
  | undefinedHandle
  | undefinedAlias
  | duplicateAnchor
  | severalDocuments
  | unknownTag
  | wrongKind
  | unhashableKey
  | badMerge
  | badBinary
deriving DecidableEq, Repr

def Problem.message : Problem → String
  | .unprintable => "special characters are not allowed"
  | .badDirective => "malformed directive"
  | .badAnchor => "malformed anchor or alias"
  | .badTag => "malformed tag"
  | .badBlockHeader => "malformed header of a block scalar"
  | .badEscape => "unknown escape in a double-quoted scalar"
  | .unclosedQuote => "quoted scalar without its closing quote"
  | .documentMark => "document mark inside a quoted scalar"
  | .misplacedEntry => "sequence entries are not allowed here"
  | .misplacedKey => "mapping keys are not allowed here"
  | .misplacedValue => "mapping values are not allowed here"
  | .missingColon => "could not find expected ':'"
  | .strayCharacter => "found a character that cannot start any token"
  | .unexpectedToken => "found an unexpected token"
  | .undefinedHandle => "found undefined tag handle"
  | .undefinedAlias => "found undefined alias"
  | .duplicateAnchor => "found duplicate anchor"
  | .severalDocuments => "expected a single document in the stream"
  | .unknownTag => "could not determine a constructor for a tag"
  | .wrongKind => "found a node of the wrong kind for its tag"
  | .unhashableKey => "found unhashable key"
  | .badMerge => "expected a mapping or list of mappings for merging"
  | .badBinary => "failed to decode base64 data"

/-- Why a scalar that is tagged as a number, a boolean or a moment, or an escape in it, names
none. -/
inductive ScalarFault
  | notInteger (base : Nat) (text : String)
  | notFloat (text : String)
  | notBoolean (text : String)
  | emptyNumber
  | longInteger (digits : Nat)
  | hugeFloat
  | noMoment
  | calendar (fault : CalendarFault)
  /-- An escape beyond the last character; `wide` when it does not even fit 31 bits. -/
  | codePoint ( wide : Bool)
deriving DecidableEq, Repr

def ScalarFault.message : ScalarFault → String
  | .notInteger base text =>
    "invalid literal for int() with base " ++ toString base ++ ": " ++
      String.ofList ((Text.literal text).toList.take 200)
  | .notFloat text => "could not convert string to float: " ++ Text.literal text
  | .notBoolean text => Text.literal text
  | .emptyNumber => "string index out of range"
  | .longInteger digits => longIntegerMessage digits
  | .hugeFloat => "int too large to convert to float"
  | .noMoment => "'NoneType' object has no attribute 'groupdict'"
  | .calendar fault => fault.message
  | .codePoint true => "Python int too large to convert to C int"
  | .codePoint false => "chr() arg not in range(0x110000)"

/-- Why no value was read. -/
inductive Error
  | problem (what : Problem)
  | scalar (fault : ScalarFault)
deriving DecidableEq, Repr

end RestRoutes.Yaml
