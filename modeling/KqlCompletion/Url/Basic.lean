import KqlCompletion.Number.Literal
import KqlCompletion.Text.Ascii
import KqlCompletion.Text.Percent
import KqlCompletion.Text.Quoted
import KqlCompletion.Url.Address
import KqlCompletion.Url.HostName

/-! Addresses of the web in their normal form: scheme and host in lower case, no number behind the
host that the scheme implies, dot segments resolved, and what may not stand for itself
percent-encoded. Escapes that are already there are kept as they are. A reference without scheme or
host is an address in part and stays as it is but for the encoding. -/
namespace KqlCompletion

open Text (quoted)

structure Url where
  scheme : String
  userinfo : String
  host : String
  portNumber : Option Int
  path : String
  query : Option String
  fragment : Option String
  deriving DecidableEq, Repr

namespace Url

inductive Fault where
  | tooLong
  | unprintable (c : Char) (position : Nat)
  | ipv4 (host : String)
  | ipv6 (host : String)
  | hostName (host : String)
  | portNumber (text : String)
  | unrooted
  | emptyFirstSegment
  | colonFirst
  | partTooLong (part : String)
  | unprintableIn (part : String) (c : Char) (position : Nat)
  deriving DecidableEq, Repr

def Fault.message : Fault → String
  | .tooLong => "URL too long"
  | .unprintable c position =>
    "Invalid non-printable ASCII character in URL, " ++ quoted (String.singleton c) ++
      " at position " ++ toString position ++ "."
  | .ipv4 host => "Invalid IPv4 address: " ++ quoted host
  | .ipv6 host => "Invalid IPv6 address: " ++ quoted host
  | .hostName host => "Invalid IDNA hostname: " ++ quoted host
  | .portNumber text => "Invalid port: " ++ quoted text
  | .unrooted => "For absolute URLs, path must be empty or begin with '/'"
  | .emptyFirstSegment => "Relative URLs cannot have a path starting with '//'"
  | .colonFirst => "Relative URLs cannot have a path starting with ':'"
  | .partTooLong part => "URL component " ++ quoted part ++ " too long"
  | .unprintableIn part c position =>
    "Invalid non-printable ASCII character in URL " ++ part ++ " component, " ++
      quoted (String.singleton c) ++ " at position " ++ toString position ++ "."

def lengthLimit : Nat := 65536

def isUnprintable (c : Char) : Bool := c.toNat < 0x20 || c.toNat == 0x7F

/-- ASCII that may stand for itself: visible, and not in `others`. -/
def isVisibleBut (others : String) (c : Char) : Bool :=
  0x20 < c.toNat && c.toNat < 0x7F && !others.toList.contains c

def pathSafe : Char → Bool := isVisibleBut "\"#<>?\x60\x7b\x7d"
def querySafe : Char → Bool := isVisibleBut "\"#<>"
def fragmentSafe : Char → Bool := isVisibleBut "\"<>\x60"
def userinfoSafe : Char → Bool := isVisibleBut "\"#<>?\x60\x7b\x7d/;=@[\\]^|"

def hostSafe (c : Char) : Bool :=
  Text.Percent.isUnreserved c || "!$&'()*+,;=\"\x60\x7b\x7d%|\\".toList.contains c

structure Parts where
  scheme : List Char
  authority : List Char
  path : List Char
  query : Option (List Char)
  fragment : Option (List Char)

def isSchemeChar (c : Char) : Bool := c.isAlphanum || c == '+' || c == '.' || c == '-'

/-- The scheme in front of the first colon, if it is one or is left out, and the rest. -/
def splitScheme (text : List Char) : List Char × List Char :=
  let scheme := text.takeWhile isSchemeChar
  match text.dropWhile isSchemeChar with
  | ':' :: rest => if scheme.head?.all Char.isAlpha then (scheme, rest) else ([], text)
  | _ => ([], text)

def splitAuthority (text : List Char) : List Char × List Char :=
  match text with
  | '/' :: '/' :: rest =>
    let inside (c : Char) : Bool := c != '/' && c != '?' && c != '#'
    (rest.takeWhile inside, rest.dropWhile inside)
  | _ => ([], text)

def Parts.of (text : List Char) : Parts :=
  let (scheme, rest) := splitScheme text
  let (authority, rest) := splitAuthority rest
  let inPath (c : Char) : Bool := c != '?' && c != '#'
  let path := rest.takeWhile inPath
  let (query, rest) :=
    match rest.dropWhile inPath with
    | '?' :: rest => (some (rest.takeWhile (· != '#')), rest.dropWhile (· != '#'))
    | rest => (none, rest)
  ⟨scheme, authority, path, query, rest.tail?⟩

/-- User information, host and the number behind it as written. The user information ends at the
last `@`, and a host in brackets at the last `]`. -/
def splitHost (authority : List Char) : List Char × List Char × List Char :=
  let behind := (authority.reverse.takeWhile (· != '@')).reverse
  let userinfo := authority.take (authority.length - behind.length - 1)
  let host :=
    if behind.head? == some '[' && behind.contains ']' then
      (behind.reverse.dropWhile (· != ']')).reverse
    else behind.takeWhile (· != ':')
  let digits :=
    match behind.drop host.length with
    | ':' :: digits => digits
    | digits => digits
  (userinfo, host, digits)

def normalHost (written : List Char) : Except Fault String :=
  let host := String.ofList written
  if written.isEmpty then .ok ""
  else if looksIpv4 written then if isIpv4 written then .ok host else .error (.ipv4 host)
  else if written.head? == some '[' && written.getLast? == some ']' then
    let address := (written.drop 1).dropLast
    if isIpv6 address then .ok (String.ofList address) else .error (.ipv6 host)
  else if written.all (·.toNat < 0x80) then
    .ok (String.ofList (Text.Percent.encode hostSafe (written.map Char.toLower)))
  else
    (HostName.toAscii host).mapError fun _ => .hostName host

def defaultPortNumbers : List (String × Int) :=
  [("ftp", 21), ("http", 80), ("https", 443), ("ws", 80), ("wss", 443)]

def defaultPortNumber? (scheme : String) : Option Int :=
  (defaultPortNumbers.find? (·.1 == scheme)).map (·.2)

/-- The number that the scheme implies is dropped if the scheme is written in lower case. -/
def normalPortNumber (scheme : String) (written : List Char) : Except Fault (Option Int) :=
  if written.isEmpty then .ok none
  else
    match Number.readScriptInteger written with
    | none => .error (.portNumber (String.ofList written))
    | some n => .ok (if defaultPortNumber? scheme = some n then none else some n)

/-- A segment `.` is dropped, and `..` takes the segment before it away, up to the root. The
segments kept so far come last first. -/
def resolveDots (kept : List (List Char)) : List (List Char) → List (List Char)
  | [] => kept.reverse
  | segment :: segments =>
    if segment == ['.'] then resolveDots kept segments
    else if segment == ['.', '.'] then
      resolveDots (if kept == [[]] then kept else kept.drop 1) segments
    else resolveDots (segment :: kept) segments

def joinSegments (segments : List (List Char)) : List Char := ['/'].intercalate segments

/-- Refuses a path that could not be told from what is written in front of it. -/
def checkPath (hasScheme hasAuthority : Bool) (path : List Char) : Except Fault Unit :=
  if hasAuthority then
    if path.isEmpty || path.head? == some '/' then .ok () else .error .unrooted
  else if hasScheme then .ok ()
  else if path.take 2 == ['/', '/'] then .error .emptyFirstSegment
  else if path.head? == some ':' then .error .colonFirst
  else .ok ()

def encoded (safe : Char → Bool) (text : List Char) : String :=
  String.ofList (Text.Percent.encode safe text)

def unprintable? (text : List Char) : Option (Char × Nat) :=
  (text.findIdx? isUnprintable).map fun i => (text.getD i ' ', i)

def ofParts (parts : Parts) : Except Fault Url := do
  let (userinfo, writtenHost, writtenNumber) := splitHost parts.authority
  let scheme := String.ofList parts.scheme
  let host ← normalHost writtenHost
  let portNumber ← normalPortNumber scheme writtenNumber
  let hasScheme := scheme != ""
  let hasAuthority := !userinfo.isEmpty || host != "" || portNumber.isSome
  checkPath hasScheme hasAuthority parts.path
  let path :=
    if hasScheme || hasAuthority then joinSegments (resolveDots [] (parts.path.splitOn '/'))
    else parts.path
  return {
    scheme := (Text.asciiLower scheme).shown, userinfo := encoded userinfoSafe userinfo, host
    portNumber
    path := encoded pathSafe path
    query := parts.query.map (encoded querySafe)
    fragment := parts.fragment.map (encoded fragmentSafe) }

def parse (text : String) : Except Fault Url :=
  let characters := text.toList
  if lengthLimit < characters.length then .error .tooLong
  else
    match unprintable? characters with
    | some (c, position) => .error (.unprintable c position)
    | none => ofParts (Parts.of characters)

def bracketed (host : String) : String :=
  if host.toList.contains ':' then "[" ++ host ++ "]" else host

def hostText (url : Url) : String :=
  bracketed url.host ++ url.portNumber.elim "" fun n => ":" ++ toString n

def authority (url : Url) : String :=
  (if url.userinfo == "" then "" else url.userinfo ++ "@") ++ url.hostText

def text (url : Url) : String :=
  (if url.scheme == "" then "" else url.scheme ++ ":") ++
    (if url.authority == "" then "" else "//" ++ url.authority) ++ url.path ++
    url.query.elim "" ("?" ++ ·) ++ url.fragment.elim "" ("#" ++ ·)

def fragmentText (url : Url) : String :=
  url.fragment.elim "" fun fragment => String.ofList (Text.Percent.decode fragment.toList)

def shownHost (url : Url) : Except NameFault String :=
  if HostName.isEncoded url.host then HostName.ofAscii url.host else .ok url.host

/-- A part of an address has to be printable and of limited length by itself. -/
def checkPart (name : String) (part : Option String) : Except Fault Unit :=
  match part with
  | none => .ok ()
  | some text =>
    if lengthLimit < text.length then .error (.partTooLong name)
    else
      match unprintable? text.toList with
      | some (c, position) => .error (.unprintableIn name c position)
      | none => .ok ()

/-- The normal form of an address of which a part has been replaced. -/
def rebuild (url : Url) : Except Fault Url := do
  checkPart "scheme" url.scheme
  checkPart "authority" url.authority
  checkPart "path" url.path
  checkPart "query" url.query
  checkPart "fragment" url.fragment
  ofParts ⟨url.scheme.toList, url.authority.toList, url.path.toList, url.query.map String.toList,
    url.fragment.map String.toList⟩

end Url
end KqlCompletion
