import KqlCompletion.Text.Percent
import KqlCompletion.Url.Reference

/-! Hosts as requests name them: a name, or an address in brackets, and perhaps a number behind. -/
namespace KqlCompletion.Http

open Text (hexValue?)

def isNameChar (c : Char) : Bool :=
  Text.Percent.isUnreserved c || "!$&'()*+,;=".toList.contains c

/-- A percent sign of a name starts an escape. -/
def isHostName : List Char → Bool
  | [] => true
  | '%' :: a :: b :: name => (hexValue? a).isSome && (hexValue? b).isSome && isHostName name
  | c :: name => isNameChar c && isHostName name

/-- What may stand in brackets: an address of version 6 without a scope, or of a version to come. -/
def isHostAddress (address : List Char) : Bool :=
  (Url.isIpv6 address && !address.contains '%') ||
    (Url.isFuture address && address.all fun c => isNameChar c || c == ':')

def portNumberLimit : Nat := 65535

def isHostNumber : List Char → Bool
  | [] => true
  | ':' :: digits =>
    !digits.isEmpty && digits.all Number.isDigit && Number.natOf digits ≤ portNumberLimit
  | _ => false

def isHost (text : String) : Bool :=
  match text.toList with
  | '[' :: inside =>
    let address := inside.takeWhile (· != ']')
    match inside.dropWhile (· != ']') with
    | ']' :: number => isHostAddress address && isHostNumber number
    | _ => false
  | written =>
    let name := written.takeWhile (· != ':')
    !name.isEmpty && isHostName name && isHostNumber (written.dropWhile (· != ':'))

end KqlCompletion.Http
