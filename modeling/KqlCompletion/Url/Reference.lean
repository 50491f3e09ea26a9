import KqlCompletion.Url.Basic

/-! References: addresses that leave out what they share with another one. -/
namespace KqlCompletion.Url

open Text (quoted)

inductive BracketFault where
  | unbalanced
  | future
  | ipv4
  | noAddress (host : String)
  deriving DecidableEq, Repr

def BracketFault.message : BracketFault → String
  | .unbalanced => "Invalid IPv6 URL"
  | .future => "IPvFuture address is invalid"
  | .ipv4 => "An IPv4 address cannot be in brackets"
  | .noAddress host => quoted host ++ " does not appear to be an IPv4 or IPv6 address"

/-- An address of a version to come: `v`, the version in hexadecimal digits, a dot and more. -/
def isFuture (text : List Char) : Bool :=
  match text with
  | 'v' :: text =>
    let behind := text.dropWhile fun c => (Text.hexValue? c).isSome
    behind.length < text.length && behind.head? == some '.' && 1 < behind.length
  | _ => false

def checkBracketed (host : List Char) : Except BracketFault Unit :=
  if host.head? == some 'v' then if isFuture host then .ok () else .error .future
  else if isIpv4 host then .error .ipv4
  else if isIpv6 host then .ok ()
  else .error (.noAddress (String.ofList host))

/-- Brackets of an authority come in pairs and hold the whole host. -/
def checkBrackets (authority : List Char) : Except BracketFault Unit :=
  let behind := (authority.reverse.takeWhile (· != '@')).reverse
  if authority.contains '[' != authority.contains ']' then .error .unbalanced
  else if !authority.contains '[' then .ok ()
  else if !behind.contains '[' then checkBracketed (behind.takeWhile (· != ':'))
  else
    let inside := (behind.dropWhile (· != '[')).drop 1
    let digits := (inside.dropWhile (· != ']')).drop 1
    if behind.head? != some '[' || digits.head?.any (· != ':') then .error .unbalanced
    else checkBracketed (inside.takeWhile (· != ']'))

/-- A path that starts at the root stands for itself; any other one starts where `base` has its last
segment. -/
def mergePath (base path : List Char) : List Char :=
  let segments :=
    if path.head? == some '/' then path.splitOn '/'
    else (base.splitOn '/').dropLast ++ path.splitOn '/'
  joinSegments (resolveDots [] segments)

def rooted (path : List Char) : List Char :=
  if path.isEmpty || path.head? == some '/' then path else '/' :: path

def joined (base reference : Parts) : Parts :=
  if !reference.authority.isEmpty then
    { reference with scheme := base.scheme, path := rooted reference.path }
  else if reference.path.isEmpty then
    let query := if reference.query.all List.isEmpty then base.query else reference.query
    { base with query, fragment := reference.fragment }
  else
    { base with
      path := rooted (mergePath base.path reference.path)
      query := reference.query
      fragment := reference.fragment }

def marked (mark : Char) (part : Option (List Char)) : List Char :=
  match part with
  | none | some [] => []
  | some text => mark :: text

def Parts.text (parts : Parts) : List Char :=
  parts.scheme ++ ':' :: '/' :: '/' :: parts.authority ++ parts.path ++ marked '?' parts.query ++
    marked '#' parts.fragment

/-- Why a reference leads nowhere: it is malformed, it makes no address, or the address has no host
name. -/
inductive Unreachable where
  | malformed (fault : Fault)
  | noAddress (fault : Fault)
  | brackets (fault : BracketFault)
  | hostName (fault : NameFault)
  deriving DecidableEq, Repr

def Unreachable.message : Unreachable → String
  | .malformed fault => "Invalid URL in location header: " ++ fault.message ++ "."
  | .noAddress fault => fault.message
  | .brackets fault => fault.message
  | .hostName fault => fault.message

/-- The text that a reference stands for next to `base`. A reference without a scheme may read as
one with a scheme once it is in normal form; it stands for itself if that is another one than the
scheme of `base`. -/
def joinedText (base reference : Url) : Except BracketFault String := do
  if reference.text == "" then return base.text
  let parts := Parts.of reference.text.toList
  checkBrackets base.authority.toList
  checkBrackets parts.authority
  if !parts.scheme.isEmpty &&
      Text.asciiLower (String.ofList parts.scheme) != Text.of base.scheme then
    return reference.text
  return String.ofList (joined (Parts.of base.text.toList) parts).text

def ofReference (base reference : Url) : Except Unreachable Url := do
  let text ← (joinedText base reference).mapError .brackets
  (parse text).mapError .noAddress

/-- An address with a scheme but without a host means the host of `base`. -/
def withHostOf (base url : Url) : Except Unreachable Url := do
  if (← url.shownHost.mapError .hostName) != "" then return url
  let host ← base.shownHost.mapError .hostName
  ({ url with host }.rebuild).mapError .noAddress

def withFragmentOf (base url : Url) : Except Unreachable Url :=
  if base.fragmentText == "" || url.fragmentText != "" then .ok url
  else ({ url with fragment := some base.fragmentText }.rebuild).mapError .noAddress

/-- The address that a text stands for next to `base`. -/
def follow (base : Url) (written : String) : Except Unreachable Url := do
  let reference ← (parse written).mapError .malformed
  let url ←
    if reference.scheme == "" then ofReference base reference else withHostOf base reference
  let url ← withFragmentOf base url
  discard (url.shownHost.mapError .hostName)
  return url

end KqlCompletion.Url
