import KqlCompletion.Text.CodePoint

/-! The fixed vocabulary that suggestions draw from, in the order in which it is offered. -/
namespace KqlCompletion.Catalog

/-- Tabular operators that may follow a pipe. -/
def operators : List Text :=
  ["where", "project", "extend", "summarize", "take", "sort", "join", "union"].map Text.of

def keywords : List Text := [
  "where", "project", "extend", "summarize", "join", "union", "take", "top", "limit", "sort",
  "order", "by", "asc", "desc", "count", "sum", "avg", "min", "max", "distinct", "mv-expand",
  "parse", "make-series", "render", "with", "as", "on", "in",
  "contains", "startswith", "endswith", "matches", "regex",
  "and", "or", "not", "between",
  "ago", "now", "datetime", "timespan", "bin",
  "floor", "ceiling", "round", "abs", "sqrt", "log", "exp",
  "strcat", "strlen", "substring", "toupper", "tolower", "trim", "split", "extract", "replace",
  "format_datetime", "format_timespan",
  "iff", "iif", "case", "isempty", "isnotempty", "isnull", "isnotnull"].map Text.of

def aggregations : List Text := [
  "count()", "dcount()", "sum()", "avg()", "min()", "max()", "stdev()", "variance()",
  "percentile()", "percentiles()", "make_list()", "make_set()", "make_bag()", "arg_max()",
  "arg_min()", "any()", "anyif()", "countif()", "sumif()", "dcountif()"].map Text.of

/-- Aggregations first, then functions on dynamic values, parsers and encoders. -/
def functions : List Text := aggregations ++ [
  "array_length()", "bag_keys()", "bag_merge()", "bag_remove_keys()",
  "parse_json()", "parse_csv()", "parse_xml()", "parse_url()", "parse_path()",
  "base64_encode_tostring()", "base64_decode_tostring()", "hash()", "hash_sha256()"].map Text.of

def timeRanges : List Text := [
  "ago(1h)", "ago(1d)", "ago(7d)", "ago(30d)", "ago(90d)", "between(ago(7d)..now())",
  "between(ago(30d)..now())", "startofday(now())", "endofday(now())", "startofweek(now())",
  "startofmonth(now())", "startofyear(now())"].map Text.of

end KqlCompletion.Catalog
