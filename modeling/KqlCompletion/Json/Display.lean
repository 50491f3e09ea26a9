import KqlCompletion.Json.Value
import KqlCompletion.Text.Quoted

/-! JSON values as messages show them: on one line, with `None`, `True` and `False`, and with
strings in quotes unless the string is the whole value. -/
namespace KqlCompletion.Json

namespace Display

def item : String := ", "

mutual

def value : Value → String
  | .null => "None"
  | .bool true => "True"
  | .bool false => "False"
  | .int n => toString n
  | .float x => x.write "nan" "inf"
  | .str text => Text.quoted text
  | .arr items => "[" ++ item.intercalate (values items) ++ "]"
  | .obj members => "\x7b" ++ item.intercalate (entries members) ++ "\x7d"

def values : List Value → List String
  | [] => []
  | v :: items => value v :: values items

def entries : List (Text × Value) → List String
  | [] => []
  | (name, v) :: members => (Text.quoted name ++ ": " ++ value v) :: entries members

end

end Display

def Value.kind : Value → String
  | .null => "NoneType"
  | .bool _ => "bool"
  | .int _ => "int"
  | .float _ => "float"
  | .str _ => "str"
  | .arr _ => "list"
  | .obj _ => "dict"

def Value.display : Value → String
  | .str text => text.shown
  | v => Display.value v

end KqlCompletion.Json
