import RestRoutes.Text.Literal
import RestRoutes.Url.Address

/-! The path of a URL: what is left of it without scheme, authority, parameters, query and
fragment. -/

namespace RestRoutes.Url

open Text

/-- Why a text is no URL. -/
inductive Fault
  | brackets
  | futureAddress
  | bracketedIPv4
  | noAddress (host : String)
  | authority (text : String)
deriving DecidableEq, Repr

def Fault.message : Fault → String
  | .brackets => "Invalid IPv6 URL"
  | .futureAddress => "IPvFuture address is invalid"
  | .bracketedIPv4 => "An IPv4 address cannot be in brackets"
  | .noAddress host => Text.literal host ++ " does not appear to be an IPv4 or IPv6 address"
  | .authority text =>
    "netloc '" ++ text ++ "' contains invalid characters under NFKC normalization"

/-- A control character or a blank, which may stand in front of a URL. -/
def isLeading (c : Char) : Bool := c.toNat ≤ 0x20

/-- A character that counts as missing wherever it stands. -/
def isIgnored (c : Char) : Bool := c == '\t' || c == '\n' || c == '\r'

def isSchemeChar (c : Char) : Bool := c.isAlphanum || c == '+' || c == '-' || c == '.'

/-- The scheme, in small letters and empty where there is none, and the rest. -/
def splitScheme (cs : List Char) : List Char × List Char :=
  match cutFirst (· == ':') cs with
  | some (scheme, rest) =>
    if scheme.head?.any (·.isAlpha) && scheme.all isSchemeChar then (scheme.map (·.toLower), rest)
    else ([], cs)
  | none => ([], cs)

def endsAuthority (c : Char) : Bool := c == '/' || c == '?' || c == '#'

/-- The authority after two slashes, and the rest. -/
def splitAuthority : List Char → List Char × List Char
  | '/' :: '/' :: rest => spanWhile (!endsAuthority ·) rest
  | cs => ([], cs)

def bracketed (authority : List Char) : List Char :=
  ((authority.dropWhile (· != '[')).drop 1).takeWhile (· != ']')

def checkBracketed (host : List Char) : Except Fault Unit :=
  if host.head? == some 'v' then
    if isFutureAddress host then .ok () else .error .futureAddress
  else if isIPv4 host then .error .bracketedIPv4
  else if isIPv6 host then .ok ()
  else .error (.noAddress (String.ofList host))

/-- A character that stands for a text with a delimiter of URLs in it (Unicode 14.0). -/
def hidesDelimiter (c : Char) : Bool :=
  [0x2047, 0x2048, 0x2049, 0x2100, 0x2101, 0x2105, 0x2106, 0x2A74, 0xFE13, 0xFE16, 0xFE55, 0xFE56,
    0xFE5F, 0xFE6B, 0xFF03, 0xFF0F, 0xFF1A, 0xFF1F, 0xFF20].contains c.toNat

def checkBrackets (authority : List Char) : Except Fault Unit :=
  if authority.contains '[' != authority.contains ']' then .error .brackets
  else if authority.contains '[' then checkBracketed (bracketed authority)
  else .ok ()

/-- Checks that no character of an authority hides a delimiter. -/
def checkCharacters (authority : List Char) : Except Fault Unit :=
  if authority.any hidesDelimiter then .error (.authority (String.ofList authority)) else .ok ()

/-- The schemes whose paths may end in parameters. -/
def schemesWithParameters : List String :=
  ["", "ftp", "hdl", "prospero", "http", "imap", "https", "shttp", "rtsp", "rtsps", "rtspu", "sip",
    "sips", "mms", "sftp", "tel"]

/-- A path without the parameters after its last segment. -/
def withoutParameters (path : List Char) : List Char :=
  match cutLast (· == '/') path with
  | some (before, segment) => before ++ '/' :: segment.takeWhile (· != ';')
  | none => path.takeWhile (· != ';')

def path (url : String) : Except Fault String := do
  let cs := (url.toList.dropWhile isLeading).filter (!isIgnored ·)
  let (scheme, rest) := splitScheme cs
  let (authority, rest) := splitAuthority rest
  checkBrackets authority
  checkCharacters authority
  let hierarchy := (rest.takeWhile (· != '#')).takeWhile (· != '?')
  if schemesWithParameters.contains (String.ofList scheme) then
    return String.ofList (withoutParameters hierarchy)
  else return String.ofList hierarchy

end RestRoutes.Url
