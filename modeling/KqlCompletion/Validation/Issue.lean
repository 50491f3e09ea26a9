import KqlCompletion.Json.Value

/-! What validation reports: a place in the input, the rule broken there and the offending value. -/
namespace KqlCompletion.Validation

open Json (Value)

inductive Step where
  | field (name : Text)
  | index (i : Nat)
  deriving DecidableEq, Repr

def Step.toJson : Step → Value
  | .field name => .str name
  | .index i => .int i

inductive Rule where
  | missing
  | string
  | characters
  | list
  | model (name : String)
  | modelAttributes
  | noExtra
  | tagPresent
  | tagKnown (tag : String) (known : List String)
  | integer
  | integerText
  | integerSize
  | integral
  | finite
  | boolean
  | booleanText
  | number
  | numberText
  | oneOf (known : List String)
  | custom (message : String)
  deriving DecidableEq, Repr

namespace Rule

def code : Rule → String
  | missing => "missing"
  | string => "string_type"
  | characters => "string_unicode"
  | list => "list_type"
  | model _ => "model_type"
  | modelAttributes => "model_attributes_type"
  | noExtra => "extra_forbidden"
  | tagPresent => "union_tag_not_found"
  | tagKnown _ _ => "union_tag_invalid"
  | integer => "int_type"
  | integerText => "int_parsing"
  | integerSize => "int_parsing_size"
  | integral => "int_from_float"
  | finite => "finite_number"
  | boolean => "bool_type"
  | booleanText => "bool_parsing"
  | number => "float_type"
  | numberText => "float_parsing"
  | oneOf _ => "literal_error"
  | custom _ => "value_error"

def alternatives : List String → String
  | [] => ""
  | [text] => text
  | [text, last] => text ++ " or " ++ last
  | text :: rest => text ++ ", " ++ alternatives rest

def message : Rule → String
  | missing => "Field required"
  | string => "Input should be a valid string"
  | characters =>
    "Input should be a valid string, unable to parse raw data as a unicode string"
  | list => "Input should be a valid list"
  | model name => "Input should be a valid dictionary or instance of " ++ name
  | modelAttributes => "Input should be a valid dictionary or object to extract fields from"
  | noExtra => "Extra inputs are not permitted"
  | tagPresent => "Unable to extract tag using discriminator 'type'"
  | tagKnown tag known =>
    "Input tag '" ++ tag ++ "' found using 'type' does not match any of the expected tags: " ++
      ", ".intercalate (known.map fun name => "'" ++ name ++ "'")
  | integer => "Input should be a valid integer"
  | integerText => "Input should be a valid integer, unable to parse string as an integer"
  | integerSize => "Unable to parse input string as an integer, exceeded maximum size"
  | integral => "Input should be a valid integer, got a number with a fractional part"
  | finite => "Input should be a finite number"
  | boolean => "Input should be a valid boolean"
  | booleanText => "Input should be a valid boolean, unable to interpret input"
  | number => "Input should be a valid number"
  | numberText => "Input should be a valid number, unable to parse string as a number"
  | oneOf known => "Input should be " ++ alternatives (known.map fun name => "'" ++ name ++ "'")
  | custom text => "Value error, " ++ text

end Rule

/-- `path` leads from the outermost value to the place of the issue. -/
structure Issue where
  path : List Step
  rule : Rule
  input : Value
  deriving Repr

end KqlCompletion.Validation
