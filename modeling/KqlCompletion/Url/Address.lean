import KqlCompletion.Text.Hex

/-! Numeric host addresses. -/
namespace KqlCompletion.Url

open Text (hexValue?)

def isDigit (c : Char) : Bool := '0' ≤ c && c ≤ '9'

def isOctet (text : List Char) : Bool :=
  !text.isEmpty && text.all isDigit && text.length ≤ 3 &&
    (text.length == 1 || text.head? != some '0') &&
    text.foldl (fun n c => n * 10 + (c.toNat - 48)) 0 ≤ 255

def isIpv4 (text : List Char) : Bool :=
  let octets := text.splitOn '.'
  octets.length == 4 && octets.all isOctet

/-- Four runs of digits with dots between them have to be an address of version 4. -/
def looksIpv4 (text : List Char) : Bool :=
  let runs := text.splitOn '.'
  runs.length == 4 && runs.all fun run => !run.isEmpty && run.all isDigit

def isHextet (text : List Char) : Bool :=
  !text.isEmpty && text.length ≤ 4 && text.all fun c => (hexValue? c).isSome

/-- Groups that end in an address of version 4 are as many as if it were two groups. -/
def widenLast (groups : List (List Char)) : Option (List (List Char)) :=
  match groups.getLast? with
  | some last =>
    if last.contains '.' then
      if isIpv4 last then some (groups.dropLast ++ [['0'], ['0']]) else none
    else some groups
  | none => none

/-- Groups of digits on one side of the gap `::`; none if that side is empty. -/
def gapSide (groups : List (List Char)) : List (List Char) := if groups == [[]] then [] else groups

/-- Eight groups, or fewer with one gap. -/
def areHextets (groups : List (List Char)) : Bool :=
  let inner := (groups.drop 1).dropLast
  match inner.findIdx? List.isEmpty with
  | none => groups.length == 8 && groups.all isHextet
  | some i =>
    let front := gapSide (groups.take (i + 1))
    let back := gapSide (groups.drop (i + 2))
    front.all isHextet && back.all isHextet && front.length + back.length ≤ 7

/-- A scope may follow behind one percent sign. -/
def isIpv6 (text : List Char) : Bool :=
  let address := text.takeWhile (· != '%')
  let scope := text.dropWhile (· != '%')
  let scopeFits := scope.isEmpty || (1 < scope.length && !(scope.drop 1).contains '%')
  let groups := address.splitOn ':'
  scopeFits && 3 ≤ groups.length &&
    match widenLast groups with
    | some groups => groups.length ≤ 9 && areHextets groups
    | none => false

end KqlCompletion.Url
