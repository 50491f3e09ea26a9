import KqlCompletion.Query.Context
import KqlCompletion.Schema.Basic

/-! The table a query reads from: the first line that starts with the name of a known table decides.
Blank lines, `//` comments and lines that continue a pipe name none. -/
namespace KqlCompletion.Query

open Schema (Table)

def sourceWord? (line : Text) : Option Text :=
  let stripped := Text.strip line
  if stripped.isEmpty || (Text.of "//").isPrefixOf stripped || pipe.isPrefixOf stripped then none
  else (Text.words stripped).head?

def lineTable? (schema : Schema) (line : Text) : Option Table :=
  (sourceWord? line).bind schema.findTable

def sourceTable (text : Text) (schema : Schema) : Option Table :=
  (Text.lines text).findSome? (lineTable? schema)

/-- No table without a schema, and none in what is no text. -/
def sourceTable? (text : Option Text) (schema : Option Schema) : Option Table :=
  text.bind fun text => schema.bind (sourceTable text)

end KqlCompletion.Query
