import KqlCompletion.Settings.Opener
import KqlCompletion.Validation.Issue

/-! What is wrong with the options of composite settings. -/
namespace KqlCompletion.Settings

open Validation (Issue)

/-- What a value is used for. No use suits the values of all kinds. -/
inductive Use where
  | difference
  | repetition
  | comparison
  | size
  | items
  | pair
  | call
  | place
  | text
  | characters
  | firstCharacter
  | piece
  | lookup
  | removal
  | joining (index : Nat)
  deriving DecidableEq, Repr

def Use.message (kind : String) : Use → String
  | .difference => "unsupported operand type(s) for -: '" ++ kind ++ "' and 'int'"
  | .repetition => "unsupported operand type(s) for *: '" ++ kind ++ "' and 'int'"
  | .comparison => "'<=' not supported between instances of '" ++ kind ++ "' and 'int'"
  | .size => "object of type '" ++ kind ++ "' has no len()"
  | .items => "'" ++ kind ++ "' object is not iterable"
  | .pair => "cannot unpack non-iterable " ++ kind ++ " object"
  | .call => "'" ++ kind ++ "' object is not callable"
  | .place => "expected str, bytes or os.PathLike object, not " ++ kind
  | .text => "expected string or bytes-like object, got '" ++ kind ++ "'"
  | .characters => "argument of type '" ++ kind ++ "' is not iterable"
  | .firstCharacter => "'" ++ kind ++ "' object is not subscriptable"
  | .piece => "'in <string>' requires string as left operand, not " ++ kind
  | .lookup => "unhashable type: '" ++ kind ++ "'"
  | .removal => "lstrip arg must be None or str"
  | .joining index =>
    "sequence item " ++ toString index ++ ": expected str instance, " ++ kind ++ " found"

/-- A misuse of an option ends the reading of all settings. -/
inductive Misuse where
  | reserved
  | unsuited (use : Use) (kind : String)
  | featureless (feature kind : String)
  | outOfRange (kind : String)
  | keyless
  | pattern (fault : CommandLine.Opener.Fault)
  | clash (flags taken : List String)
  | exit (status : Nat)
  deriving DecidableEq, Repr

def reservedOption : String := "__pydantic_self__"

def flagNames (flags : List String) : String := "/".intercalate flags

def Misuse.message : Misuse → String
  | .reserved =>
    "BaseSettings.__init__() got multiple values for argument '" ++ reservedOption ++ "'"
  | .unsuited use kind => use.message kind
  | .featureless feature kind => "'" ++ kind ++ "' object has no attribute '" ++ feature ++ "'"
  | .outOfRange kind => kind ++ " index out of range"
  | .keyless => "0"
  | .pattern fault => fault.message
  | .clash flags taken =>
    "argument " ++ flagNames flags ++ ": conflicting option string" ++
      (if taken.length == 1 then ": " else "s: ") ++ ", ".intercalate taken
  | .exit status => toString status

/-- An option may be refused, which is an issue of the composite, or have issues of its own. -/
inductive OptionFault where
  | refused (message : String)
  | invalid (issues : List Issue)
  | misused (misuse : Misuse)
  deriving Repr

end KqlCompletion.Settings
