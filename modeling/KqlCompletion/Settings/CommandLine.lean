import KqlCompletion.Json.Display
import KqlCompletion.Settings.Fault

/-! Values of fields that are given on a command line, as `--flag=value` or `--flag value`. Two
dashes alone end the flags. -/
namespace KqlCompletion.CommandLine

open Json (Value Members)
open Settings (Misuse flagNames)

/-- Flags that ask for the value of a field, or else for help. -/
structure Entry where
  flags : List String
  field : Option String
  deriving DecidableEq, Repr

inductive Fault where
  | noValue (entry : Entry)
  | ignoredValue (entry : Entry) (value : String)
  | ambiguous (argument : String) (flags : List String)
  | unknown (arguments : List String)
  | misused (misuse : Misuse)
  deriving DecidableEq, Repr

def Fault.message : Fault → String
  | .noValue entry => "argument " ++ flagNames entry.flags ++ ": expected one argument"
  | .ignoredValue entry value =>
    "argument " ++ flagNames entry.flags ++ ": ignored explicit argument " ++ Text.quoted value
  | .ambiguous argument flags =>
    "ambiguous option: " ++ argument ++ " could match " ++ ", ".intercalate flags
  | .unknown arguments => "unrecognized arguments: " ++ " ".intercalate arguments
  | .misused misuse => misuse.message

structure Grammar where
  opener : Opener
  entries : List Entry
  deriving DecidableEq, Repr

/-- A value that is attached to its flag stands behind an equals sign, or directly behind a short
flag. -/
inductive Attached where
  | none
  | toShort (value : List Char)
  | toLong (value : List Char)
  deriving DecidableEq, Repr

inductive Reading where
  | divider
  | plain
  | unknown
  | flag (entry : Entry) (attached : Attached)
  deriving DecidableEq, Repr

def isDecimal (c : Char) : Bool := (Text.digitValue? c).isSome

/-- A minus, digits, and perhaps a point in front of the last of them. A line end may follow. -/
def isNegativeNumber (argument : List Char) : Bool :=
  let line := if argument.getLast? == some '\n' then argument.dropLast else argument
  match line with
  | '-' :: text =>
    match text.dropWhile isDecimal with
    | [] => !text.isEmpty
    | '.' :: places => !places.isEmpty && places.all isDecimal
    | _ => false
  | _ => false

/-- What is given to fields, in the order in which it is given, and the arguments that are not
known. -/
structure Given where
  values : List (String × Value) := []
  unknown : List Value := []

def Given.withValue (field : String) (value : Value) (given : Given) : Given :=
  { given with values := (field, value) :: given.values }

def Given.withUnknown (argument : Value) (given : Given) : Given :=
  { given with unknown := argument :: given.unknown }

def help : Fault := .misused (.exit 0)

namespace Grammar

def entry? (grammar : Grammar) (flag : List Char) : Option Entry :=
  grammar.entries.find? (·.flags.contains (String.ofList flag))

def takesNegativeNumbers (grammar : Grammar) : Bool :=
  !grammar.entries.any (·.flags.any fun flag => isNegativeNumber flag.toList)

def isShort (grammar : Grammar) (argument : List Char) : Bool :=
  !(argument.drop 1).head?.any grammar.opener.contains

/-- The flag that an argument is, perhaps with a value behind an equals sign. -/
def flag? (grammar : Grammar) (argument : List Char) : Option (Entry × Attached) :=
  let whole := (grammar.entry? argument).map (·, Attached.none)
  match argument.dropWhile (· != '=') with
  | [] => whole
  | _ :: value =>
    let attached : Attached :=
      if grammar.isShort argument then .toShort value else .toLong value
    whole <|> (grammar.entry? (argument.takeWhile (· != '='))).map (·, attached)

/-- The flags that a short argument may stand for: one with a value directly behind it, and those
that the argument is the beginning of. -/
def completions (grammar : Grammar) (argument : List Char) : List (String × Entry × Attached) :=
  if !grammar.isShort argument then []
  else
    grammar.entries.flatMap fun entry => entry.flags.eraseDups.filterMap fun flag =>
      if flag.toList == argument.take 2 then some (flag, entry, .toShort (argument.drop 2))
      else if argument.isPrefixOf flag.toList then some (flag, entry, .none)
      else none

/-- What does not open as a flag does is plain, and so are negative numbers and what has a space,
unless it stands for a flag. -/
def readText (grammar : Grammar) (argument : List Char) : Except Fault Reading :=
  if !argument.head?.any grammar.opener.contains then .ok .plain
  else
    match grammar.flag? argument with
    | some (entry, attached) => .ok (.flag entry attached)
    | none =>
      if argument.length == 1 then .ok .plain
      else
        match grammar.completions argument with
        | [(_, entry, attached)] => .ok (.flag entry attached)
        | [] =>
          let isNumber := isNegativeNumber argument && grammar.takesNegativeNumbers
          .ok (if argument.contains ' ' || isNumber then .plain else .unknown)
        | found => .error (.ambiguous (String.ofList argument) (found.map (·.1)))

/-- What an argument is taken for that need not be text. Whatever is empty is plain; of a list the
first item decides. -/
def readValue (grammar : Grammar) (argument : Value) : Except Fault Reading :=
  match argument with
  | .str text => grammar.readText text.shown.toList
  | .arr (.str text :: _) =>
    if Text.occursIn text.shown.toList grammar.opener then
      .error (.misused (.unsuited .lookup argument.kind))
    else .ok .plain
  | .arr (item :: _) => .error (.misused (.unsuited .piece item.kind))
  | .obj (_ :: _) => .error (.misused .keyless)
  | v =>
    if v.isYes then .error (.misused (.unsuited .firstCharacter v.kind)) else .ok .plain

def readAll (grammar : Grammar) : List Value → Except Fault (List (Value × Reading))
  | [] => .ok []
  | argument :: rest => do
    if argument.string? = some "--" then
      return (argument, .divider) :: rest.map (·, .plain)
    let reading ← grammar.readValue argument
    return (argument, reading) :: (← grammar.readAll rest)

/-- Short flags may follow the one for help directly. -/
def checkFollowing (grammar : Grammar) (entry : Entry) (first : Char) (hasValue : Bool) :
    List Char → Except Fault Unit
  | [] => .ok ()
  | c :: text =>
    match grammar.entry? [first, c] with
    | none => .error (.ignoredValue entry (String.ofList (c :: text)))
    | some following =>
      match following.field, text with
      | none, text => grammar.checkFollowing following first hasValue text
      | some _, [] => if hasValue then .ok () else .error (.noValue following)
      | some _, _ :: _ => .ok ()

/-- Help is given unless what is attached to its flag forbids it. -/
def helpOutcome (grammar : Grammar) (entry : Entry) (attached : Attached) (hasValue : Bool) :
    Fault :=
  match attached with
  | .none => help
  | .toLong value => .ignoredValue entry (String.ofList value)
  | .toShort [] => .ignoredValue entry ""
  | .toShort value =>
    let first := (entry.flags.headD "").toList.headD '-'
    match grammar.checkFollowing entry first hasValue value with
    | .ok () => help
    | .error fault => fault

/-- The value that is attached to a flag. Two dashes alone stand for a list without items. -/
def attachedValue (value : List Char) : Value :=
  if value == "--".toList then .arr [] else .str (String.ofList value)

def isPlain : List (Value × Reading) → Bool
  | (_, .plain) :: _ => true
  | _ => false

/-- A flag without an attached value takes a plain argument behind it. -/
def collect (grammar : Grammar) : List (Value × Reading) → Except Fault Given
  | [] => .ok {}
  | (_, .flag ⟨_, some field⟩ .none) :: (value, .plain) :: rest =>
    (grammar.collect rest).map (.withValue field value)
  | (argument, reading) :: rest =>
    match reading with
    | .flag entry attached =>
      match entry.field, attached with
      | none, attached => .error (grammar.helpOutcome entry attached (isPlain rest))
      | some _, .none => .error (.noValue entry)
      | some field, .toShort value | some field, .toLong value =>
        (grammar.collect rest).map (.withValue field (attachedValue value))
    | _ => (grammar.collect rest).map (.withUnknown argument)

def read (grammar : Grammar) (arguments : List Value) : Except Fault Given := do
  grammar.collect (← grammar.readAll arguments)

end Grammar

/-- The complaint about arguments that are not known. It can only be made if all of them are
text. -/
def unknownFault (arguments : List Value) : Fault :=
  match arguments.findIdx? (·.str?.isNone) with
  | some index => .misused (.unsuited (.joining index) ((arguments[index]?.getD .null).kind))
  | none => .unknown (arguments.filterMap Value.string?)

end KqlCompletion.CommandLine
