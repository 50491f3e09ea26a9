import KqlCompletion.Validation.Checked

/-! Example queries offered as starting points. They do not depend on any schema. -/
namespace KqlCompletion

structure Template where
  name : Text
  query : Text
  description : Text
  deriving DecidableEq, Repr

namespace Template

def ofLines (lines : List String) : String := "\n".intercalate lines

def all : List Template := [
  ⟨"Basic Query",
    ofLines [
      "TableName",
      "| where TimeGenerated >= ago(1d)",
      "| take 100"],
    "Simple query with time filter"⟩,
  ⟨"Count by Category",
    ofLines [
      "TableName",
      "| where TimeGenerated >= ago(7d)",
      "| summarize Count = count() by Category",
      "| order by Count desc"],
    "Count records grouped by category"⟩,
  ⟨"Time Series",
    ofLines [
      "TableName",
      "| where TimeGenerated >= ago(1d)",
      "| summarize Count = count() by bin(TimeGenerated, 1h)",
      "| render timechart"],
    "Create time series chart"⟩,
  ⟨"Top N by Field",
    ofLines [
      "TableName",
      "| where TimeGenerated >= ago(1d)",
      "| summarize Count = count() by FieldName",
      "| top 10 by Count desc"],
    "Get top 10 items by count"⟩,
  ⟨"Search Text",
    ofLines [
      "TableName",
      "| where TimeGenerated >= ago(1d)",
      "| where ColumnName contains \"searchtext\"",
      "| project TimeGenerated, ColumnName, OtherColumns"],
    "Search for specific text"⟩,
  ⟨"Join Tables",
    ofLines [
      "Table1",
      "| join kind=inner (",
      "    Table2",
      "    | where TimeGenerated >= ago(1d)",
      ") on CommonField",
      "| project Column1, Column2, Column3"],
    "Join two tables on common field"⟩,
  ⟨"Parse JSON",
    ofLines [
      "TableName",
      "| where TimeGenerated >= ago(1d)",
      "| extend ParsedData = parse_json(JsonColumn)",
      "| extend Field1 = ParsedData.field1, Field2 = ParsedData.field2",
      "| project TimeGenerated, Field1, Field2"],
    "Parse JSON column and extract fields"⟩,
  ⟨"Security Events",
    ofLines [
      "SecurityEvent",
      "| where TimeGenerated >= ago(1d)",
      "| where EventID == 4625 // Failed logon",
      "| summarize FailedLogons = count() by Account, Computer",
      "| where FailedLogons > 5"],
    "Find failed logon attempts"⟩,
  ⟨"Performance Metrics",
    ofLines [
      "Perf",
      "| where TimeGenerated >= ago(1h)",
      "| where ObjectName == \"Processor\" and CounterName == \"% Processor Time\"",
      "| summarize AvgCPU = avg(CounterValue) by Computer, bin(TimeGenerated, 5m)",
      "| where AvgCPU > 80"],
    "Monitor CPU usage"⟩,
  ⟨"M365 Defender Incidents",
    ofLines [
      "SecurityIncident",
      "| where TimeGenerated >= ago(7d)",
      "| where Status == \"Active\"",
      "| project IncidentNumber, Title, Severity, Owner, CreatedTime",
      "| order by CreatedTime desc"],
    "Get active security incidents"⟩]

/-- Names are exact. -/
def find? (name : Text) : Option Template := all.find? (·.name == name)

def toJson (template : Template) : Json.Value :=
  .obj [("name", .str template.name), ("template", .str template.query),
    ("description", .str template.description)]

def ofJson (v : Json.Value) : Validation.Checked Template := do
  let fields ← Validation.members (.model "TemplateResponse") v
  let field (name : Text) := Validation.required fields name Validation.text
  Validation.Checked.map3 Template.mk (field "name") (field "template") (field "description")

end Template
end KqlCompletion
