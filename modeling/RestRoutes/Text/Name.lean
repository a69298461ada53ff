/-! The names of characters, as far as those of Basic Latin go. -/

namespace RestRoutes.Text

/-- The marks with their names. -/
def nameOfMark : List (Nat × String) := [
  (0x21, "EXCLAMATION MARK"), (0x22, "QUOTATION MARK"), (0x23, "NUMBER SIGN"),
  (0x24, "DOLLAR SIGN"), (0x25, "PERCENT SIGN"), (0x26, "AMPERSAND"), (0x27, "APOSTROPHE"),
  (0x28, "LEFT PARENTHESIS"), (0x29, "RIGHT PARENTHESIS"), (0x2A, "ASTERISK"), (0x2B, "PLUS SIGN"),
  (0x2C, "COMMA"), (0x2D, "HYPHEN-MINUS"), (0x2E, "FULL STOP"), (0x2F, "SOLIDUS"), (0x3A, "COLON"),
  (0x3B, "SEMICOLON"), (0x3C, "LESS-THAN SIGN"), (0x3D, "EQUALS SIGN"),
  (0x3E, "GREATER-THAN SIGN"), (0x3F, "QUESTION MARK"), (0x40, "COMMERCIAL AT"),
  (0x5B, "LEFT SQUARE BRACKET"), (0x5C, "REVERSE SOLIDUS"), (0x5D, "RIGHT SQUARE BRACKET"),
  (0x5E, "CIRCUMFLEX ACCENT"), (0x5F, "LOW LINE"), (0x60, "GRAVE ACCENT"),
  (0x7B, "LEFT CURLY BRACKET"), (0x7C, "VERTICAL LINE"), (0x7D, "RIGHT CURLY BRACKET"),
  (0x7E, "TILDE")]

/-- The names of the digits, from zero on. -/
def digitNames : List String :=
  ["ZERO", "ONE", "TWO", "THREE", "FOUR", "FIVE", "SIX", "SEVEN", "EIGHT", "NINE"]

/-- The names of the control characters, from zero on, with their abbreviations. -/
def controlNames : List (List String) := [
  ["NULL", "NUL"], ["START OF HEADING", "SOH"], ["START OF TEXT", "STX"], ["END OF TEXT", "ETX"],
  ["END OF TRANSMISSION", "EOT"], ["ENQUIRY", "ENQ"], ["ACKNOWLEDGE", "ACK"], ["ALERT", "BEL"],
  ["BACKSPACE", "BS"], ["CHARACTER TABULATION", "HORIZONTAL TABULATION", "HT", "TAB"],
  ["LINE FEED", "NEW LINE", "END OF LINE", "LF", "NL", "EOL"],
  ["LINE TABULATION", "VERTICAL TABULATION", "VT"], ["FORM FEED", "FF"], ["CARRIAGE RETURN", "CR"],
  ["SHIFT OUT", "LOCKING-SHIFT ONE", "SO"], ["SHIFT IN", "LOCKING-SHIFT ZERO", "SI"],
  ["DATA LINK ESCAPE", "DLE"], ["DEVICE CONTROL ONE", "DC1"], ["DEVICE CONTROL TWO", "DC2"],
  ["DEVICE CONTROL THREE", "DC3"], ["DEVICE CONTROL FOUR", "DC4"],
  ["NEGATIVE ACKNOWLEDGE", "NAK"], ["SYNCHRONOUS IDLE", "SYN"],
  ["END OF TRANSMISSION BLOCK", "ETB"], ["CANCEL", "CAN"], ["END OF MEDIUM", "EOM"],
  ["SUBSTITUTE", "SUB"], ["ESCAPE", "ESC"], ["INFORMATION SEPARATOR FOUR", "FILE SEPARATOR", "FS"],
  ["INFORMATION SEPARATOR THREE", "GROUP SEPARATOR", "GS"],
  ["INFORMATION SEPARATOR TWO", "RECORD SEPARATOR", "RS"],
  ["INFORMATION SEPARATOR ONE", "UNIT SEPARATOR", "US"]]

/-- The names of a character of Basic Latin. -/
def namesOf (c : Char) : List String :=
  if c.isUpper then ["LATIN CAPITAL LETTER " ++ c.toString]
  else if c.isLower then ["LATIN SMALL LETTER " ++ c.toUpper.toString]
  else if c.isDigit then (digitNames[c.toNat - '0'.toNat]?.map ("DIGIT " ++ ·)).toList
  else if c = ' ' then ["SPACE", "SP"]
  else if c = '\x7f' then ["DELETE", "DEL"]
  else (controlNames[c.toNat]?).getD (nameOfMark.lookup c.toNat).toList

/-- The character with a name. Case does not count in names. -/
def named? (name : String) : Option Char :=
  ((List.range 0x80).map Char.ofNat).find? fun c => (namesOf c).contains (name.map Char.toUpper)

example : named? "Digit One" = some '1' := by decide +kernel

end RestRoutes.Text
