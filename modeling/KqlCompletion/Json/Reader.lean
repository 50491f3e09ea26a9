import KqlCompletion.Json.Value
import KqlCompletion.Text.Blank
import KqlCompletion.Text.Encoding

/-! JSON text read one character at a time. The state is what may come next and the containers
still open, so a fault is found at the first character that no continuation could save; its
position counts characters from zero.

Accepted beyond the standard: `NaN`, `Infinity` and `-Infinity`. Of members with one name the last
value counts. Half a surrogate pair is kept as it is. -/
namespace KqlCompletion.Json

open Number (Binary64)
open Text (CodePoint hexValue?)

inductive Complaint where
  | expectingValue
  | expectingName
  | expectingColon
  | expectingComma
  | extraData
  | unterminatedString
  | controlCharacter
  | badEscape
  | badCodeEscape
  | byteOrderMark
  deriving DecidableEq, Repr

def Complaint.message : Complaint → String
  | .expectingValue => "Expecting value"
  | .expectingName => "Expecting property name enclosed in double quotes"
  | .expectingColon => "Expecting ':' delimiter"
  | .expectingComma => "Expecting ',' delimiter"
  | .extraData => "Extra data"
  | .unterminatedString => "Unterminated string starting at"
  | .controlCharacter => "Invalid control character at"
  | .badEscape => "Invalid \\escape"
  | .badCodeEscape => "Invalid \\uXXXX escape"
  | .byteOrderMark => "Unexpected UTF-8 BOM (decode using utf-8-sig)"

/-- What no reader is asked to hold: containers nested too deep, an integer of too many digits. -/
inductive Limit where
  | depth
  | digits (count : Nat)
  deriving DecidableEq, Repr

inductive Stop where
  | malformed (complaint : Complaint) (position : Nat)
  | limit (limit : Limit)
  deriving DecidableEq, Repr

/-- Containers may be nested this deep. The number stands in for a limit that depends on how much of
the stack is in use when the reading starts. -/
def nestingLimit : Nat := 960

def digitLimit : Nat := 4300

def Limit.message : Limit → String
  | .depth => "nested too deep"
  | .digits count =>
    "Exceeds the limit (" ++ toString digitLimit ++
      " digits) for integer string conversion: value has " ++ toString count ++
      " digits; use sys.set_int_max_str_digits() to increase the limit"

namespace Reader

/-- A container that waits for a value. Elements come last first. -/
inductive Frame where
  | array (items : List Value)
  | object (members : Members) (name : Text)

/-- What a finished value is followed by: more of its container, or the end of the text. -/
inductive After where
  | item (items : List Value)
  | member (members : Members)
  | whole (value : Value)

/-- How far a number is read. Behind a point or an exponent mark without a digit the number has
ended before that mark, at position `mark`. -/
inductive Phase where
  | sign
  | leadingZero
  | whole
  | point (mark : Nat)
  | fraction
  | exponentMark (mark : Nat)
  | exponentSign (mark : Nat)
  | exponent

/-- `digits` holds the whole part and the fraction, `count` is their number, and `places` of them
stand behind the point. -/
structure Numeral where
  start : Nat
  negative : Bool
  phase : Phase
  digits : Nat := 0
  count : Nat := 0
  places : Nat := 0
  isFloat : Bool := false
  exponentNegative : Bool := false
  exponent : Nat := 0

/-- What an escape still needs. A code escape begins with the `u` at position `mark`. -/
inductive Escape where
  | none
  | kind
  | code (mark missing value : Nat)

/-- A string from its quote at `start`: the name of a member of `naming`, or a value. The characters
come last first, and `high` is the first half of a surrogate pair that waits for the second.
`ending` is the mark of the code escape that the string so far ends with, if it does. -/
structure Quote where
  start : Nat
  naming : Option Members
  text : Text := []
  high : Option Nat := none
  escape : Escape := .none
  ending : Option Nat := none

inductive Next where
  | value
  | firstItem
  | firstName
  | name (members : Members)
  | colon (members : Members) (name : Text)
  | after (a : After)
  | word (start : Nat) (missing : List Char) (value : Value)
  | numeral (n : Numeral)
  | quote (q : Quote)

/-- The containers that wait for a value come innermost first. -/
structure State where
  next : Next
  frames : List Frame

def initial : State := ⟨.value, []⟩

def isSpace (c : CodePoint) : Bool := c == ' ' || c == '\t' || c == '\n' || c == '\r'

def isDigit (c : CodePoint) : Bool := 48 ≤ c.toNat && c.toNat ≤ 57

def deliver (value : Value) : List Frame → After × List Frame
  | [] => (.whole value, [])
  | .array items :: frames => (.item (value :: items), frames)
  | .object members name :: frames => (.member (members.insert name value), frames)

def finished (value : Value) (frames : List Frame) : State :=
  let (after, frames) := deliver value frames
  ⟨.after after, frames⟩

def After.stray : After → Complaint
  | .whole _ => .extraData
  | _ => .expectingComma

def stepAfter (a : After) (frames : List Frame) (position : Nat) (c : CodePoint) :
    Except Stop State :=
  if isSpace c then .ok ⟨.after a, frames⟩
  else
    match a, c with
    | .item items, .char ',' => .ok ⟨.value, .array items :: frames⟩
    | .item items, .char ']' => .ok (finished (.arr items.reverse) frames)
    | .member members, .char ',' => .ok ⟨.name members, frames⟩
    | .member members, .char '}' => .ok (finished (.obj members) frames)
    | a, _ => .error (.malformed a.stray position)

def opened (next : Next) (frames : List Frame) : Except Stop State :=
  if frames.length < nestingLimit then .ok ⟨next, frames⟩ else .error (.limit .depth)

def beginValue (frames : List Frame) (position : Nat) (c : CodePoint) : Except Stop State :=
  let begun (next : Next) : Except Stop State := .ok ⟨next, frames⟩
  if c == '"' then begun (.quote { start := position, naming := none })
  else if c == '[' then opened .firstItem frames
  else if c == '{' then opened .firstName frames
  else if c == 'n' then begun (.word position "ull".toList .null)
  else if c == 't' then begun (.word position "rue".toList (.bool true))
  else if c == 'f' then begun (.word position "alse".toList (.bool false))
  else if c == 'N' then begun (.word position "aN".toList (.float .nan))
  else if c == 'I' then begun (.word position "nfinity".toList (.float (.infinite false)))
  else if c == '-' then begun (.numeral { start := position, negative := true, phase := .sign })
  else if isDigit c then
    begun (.numeral {
      start := position, negative := false, digits := c.toNat - 48, count := 1
      phase := if c == '0' then .leadingZero else .whole })
  else .error (.malformed .expectingValue position)

def Numeral.push (n : Numeral) (c : CodePoint) : Numeral :=
  { n with digits := n.digits * 10 + (c.toNat - 48), count := n.count + 1 }

def Numeral.extend? (n : Numeral) (position : Nat) (c : CodePoint) : Option Numeral :=
  let mark? : Option Numeral :=
    if c == 'e' || c == 'E' then some { n with phase := .exponentMark position } else none
  let exponent? : Option Numeral :=
    if isDigit c then
      some { n with
        isFloat := true, exponent := n.exponent * 10 + (c.toNat - 48), phase := .exponent }
    else none
  let afterWhole : Option Numeral :=
    if c == '.' then some { n with phase := .point position } else mark?
  let place : Numeral :=
    { n.push c with isFloat := true, places := n.places + 1, phase := .fraction }
  match n.phase with
  | .sign =>
    if c == '0' then some { n.push c with phase := .leadingZero }
    else if isDigit c then some { n.push c with phase := .whole }
    else none
  | .leadingZero => afterWhole
  | .whole => if isDigit c then some (n.push c) else afterWhole
  | .point _ => if isDigit c then some place else none
  | .fraction => if isDigit c then some place else mark?
  | .exponentMark mark =>
    if c == '+' || c == '-' then
      some { n with exponentNegative := c == '-', phase := .exponentSign mark }
    else exponent?
  | .exponentSign _ => exponent?
  | .exponent => exponent?

def Numeral.value (n : Numeral) : Except Stop Value :=
  if n.isFloat then
    let exponent := if n.exponentNegative then -Int.ofNat n.exponent else Int.ofNat n.exponent
    .ok (.float (Binary64.ofDecimal n.negative n.digits (exponent - Int.ofNat n.places)))
  else if digitLimit < n.count then .error (.limit (.digits n.count))
  else .ok (.int (if n.negative then -Int.ofNat n.digits else Int.ofNat n.digits))

/-- The number ends here, or has ended at its mark. -/
def Numeral.close (n : Numeral) (frames : List Frame) : Except Stop (After × List Frame) :=
  match n.phase with
  | .sign => .error (.malformed .expectingValue n.start)
  | .point mark | .exponentMark mark | .exponentSign mark => do
    let (after, _) := deliver (← n.value) frames
    .error (.malformed after.stray mark)
  | _ => return deliver (← n.value) frames

def stepNumeral (n : Numeral) (frames : List Frame) (position : Nat) (c : CodePoint) :
    Except Stop State :=
  match n.extend? position c with
  | some longer => .ok ⟨.numeral longer, frames⟩
  | none =>
    match n.phase, c with
    | .sign, .char 'I' => .ok ⟨.word n.start "nfinity".toList (.float (.infinite true)), frames⟩
    | _, _ => do
      let (after, frames) ← n.close frames
      stepAfter after frames position c

/-- The second half has not come: the first one stands on its own. -/
def Quote.flush (q : Quote) : Quote :=
  match q.high with
  | some high => { q with text := .ofNat high :: q.text, high := none }
  | none => q

def Quote.push (q : Quote) (c : CodePoint) : Quote :=
  { q.flush with text := c :: q.flush.text, escape := .none, ending := none }

def Quote.pushUnit (q : Quote) (mark unit : Nat) : Quote :=
  let single (q : Quote) : Quote :=
    if Text.Wide.isHigh unit then { q.flush with high := some unit } else q.push (.ofNat unit)
  let joined : Quote :=
    match q.high with
    | some high =>
      if Text.Wide.isLow unit then { q with high := none }.push (Text.Wide.join high unit)
      else single q
    | none => single q
  { joined with escape := .none, ending := some mark }

/-- The characters that may follow a backslash, but for `u`, and what they stand for. -/
def simpleEscape? : CodePoint → Option Char
  | .char '"' => some '"'
  | .char '\\' => some '\\'
  | .char '/' => some '/'
  | .char 'b' => some '\x08'
  | .char 'f' => some '\x0c'
  | .char 'n' => some '\n'
  | .char 'r' => some '\r'
  | .char 't' => some '\t'
  | _ => none

def Quote.close (q : Quote) (frames : List Frame) : State :=
  let text := q.flush.text.reverse
  match q.naming with
  | some members => ⟨.colon members text, frames⟩
  | none => finished (.str text) frames

def stepQuote (q : Quote) (frames : List Frame) (position : Nat) (c : CodePoint) :
    Except Stop State :=
  let on (q : Quote) : Except Stop State := .ok ⟨.quote q, frames⟩
  match q.escape with
  | .none =>
    if c == '"' then .ok (q.close frames)
    else if c == '\\' then on { q with escape := .kind }
    else if c.toNat < 0x20 then .error (.malformed .controlCharacter position)
    else on (q.push c)
  | .kind =>
    if c == 'u' then on { q with escape := .code position 4 0 }
    else
      match simpleEscape? c with
      | some plain => on (q.push plain)
      | none => .error (.malformed .badEscape (position - 1))
  | .code mark missing value =>
    match c.char?.bind hexValue? with
    | none => .error (.malformed .badCodeEscape mark)
    | some digit =>
      if missing ≤ 1 then on (q.pushUnit mark (value * 16 + digit))
      else on { q with escape := .code mark (missing - 1) (value * 16 + digit) }

def stepName (members : Members) (frames : List Frame) (position : Nat) (c : CodePoint) :
    Except Stop State :=
  if c == '"' then .ok ⟨.quote { start := position, naming := some members }, frames⟩
  else .error (.malformed .expectingName position)

def step (position : Nat) (c : CodePoint) (state : State) : Except Stop State :=
  let frames := state.frames
  match state.next with
  | .after a => stepAfter a frames position c
  | .word start missing value =>
    let mismatch : Except Stop State := .error (.malformed .expectingValue start)
    match missing with
    | [last] => if c == last then .ok (finished value frames) else mismatch
    | d :: rest => if c == d then .ok ⟨.word start rest value, frames⟩ else mismatch
    | [] => mismatch
  | .numeral n => stepNumeral n frames position c
  | .quote q => stepQuote q frames position c
  | next =>
    if isSpace c then .ok state
    else
      match next with
      | .firstItem =>
        if c == ']' then .ok (finished (.arr []) frames)
        else beginValue (.array [] :: frames) position c
      | .firstName =>
        if c == '}' then .ok (finished (.obj []) frames) else stepName [] frames position c
      | .name members => stepName members frames position c
      | .colon members name =>
        if c == ':' then .ok ⟨.value, .object members name :: frames⟩
        else .error (.malformed .expectingColon position)
      | _ => beginValue frames position c

def run (position : Nat) : Text → State → Except Stop State
  | [], state => .ok state
  | c :: text, state =>
    match step position c state with
    | .ok state => run (position + 1) text state
    | .error stop => .error stop

def finish (length : Nat) (state : State) : Except Stop Value :=
  let ended (a : After) : Except Stop Value :=
    match a with
    | .whole value => .ok value
    | _ => .error (.malformed .expectingComma length)
  match state.next with
  | .value | .firstItem => .error (.malformed .expectingValue length)
  | .firstName | .name _ => .error (.malformed .expectingName length)
  | .colon _ _ => .error (.malformed .expectingColon length)
  | .after a => ended a
  | .word start _ _ => .error (.malformed .expectingValue start)
  | .numeral n => do
    let (after, _) ← n.close state.frames
    ended after
  | .quote q =>
    match q.escape, q.ending with
    | .none, some mark => .error (.malformed .badCodeEscape mark)
    | .code mark _ _, _ => .error (.malformed .badCodeEscape mark)
    | _, _ => .error (.malformed .unterminatedString q.start)

end Reader

/-- Reads one value that fills the whole text, blanks aside. -/
def read (text : Text) : Except Stop Value :=
  match Reader.run 0 text Reader.initial with
  | .ok state => Reader.finish text.length state
  | .error stop => .error stop

/-- Lines and columns count from one. -/
structure Place where
  position : Nat
  line : Nat
  column : Nat
  deriving DecidableEq, Repr

def Place.of (text : Text) (position : Nat) : Place :=
  let before := text.take position
  ⟨position, before.count (.char '\n') + 1, (Text.lastLine before).length + 1⟩

inductive Failure where
  | encoding (error : Text.DecodeError)
  | malformed (complaint : Complaint) (place : Place)
  | limit (limit : Limit)
  deriving DecidableEq, Repr

def Failure.ofStop (text : Text) : Stop → Failure
  | .malformed complaint position => .malformed complaint (Place.of text position)
  | .limit reached => .limit reached

def malformedMessage (complaint : Complaint) (place : Place) : String :=
  complaint.message ++ ": line " ++ toString place.line ++ " column " ++ toString place.column ++
    " (char " ++ toString place.position ++ ")"

def Failure.message : Failure → String
  | .encoding error => error.message
  | .malformed complaint place => malformedMessage complaint place
  | .limit reached => reached.message

/-- A byte order mark in front of a text is refused. -/
def ofText (text : Text) : Except Failure Value :=
  if text.head? == some (.char '\uFEFF') then .error (.malformed .byteOrderMark (Place.of text 0))
  else (read text).mapError (Failure.ofStop text)

/-- The encoding is detected, and one byte order mark is skipped. -/
def ofBytes (bytes : List UInt8) : Except Failure Value :=
  match Text.decodeDetected bytes with
  | .error error => .error (.encoding error)
  | .ok text => (read text).mapError (Failure.ofStop text)

end KqlCompletion.Json
