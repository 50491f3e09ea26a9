import KqlCompletion.Settings.Environment
import KqlCompletion.Settings.Flags

/-! Members of composite settings that are no settings themselves, but say where settings come from:
how the environment is looked up, and what a command line gives. An option that is refused is an
issue of the composite. One that is misused ends the reading of all settings. -/
namespace KqlCompletion.Settings

open Json (Value Members)

/-- The settings that the command line gives, and how all others are looked up. -/
structure Options where
  lookup : Lookup := {}
  given : Members := []

namespace Options

def frontTarget : String := "_env_prefix_target"
def skipsEmpty : String := "_env_ignore_empty"
def nullText : String := "_env_parse_none_str"
def depth : String := "_env_nested_max_split"
def files : String := "_env_file"
def fileDepth : String := "_env_file_depth"
def secrets : String := "_secrets_dir"
def sources : String := "_build_sources"

def names : List Text := [
  front, frontTarget, exactCase, skipsEmpty, nullText, depth, files, fileDepth, secrets, sources,
  arguments, opener, argumentFront, hidesNull, dashes, shortcuts, showsVariables, argumentNull,
  argumentNoJson, ignoresUnknown, exits, "_nested_model_default_partial_update",
  "_env_file_encoding", "_env_nested_delimiter", "_env_parse_enums", "_cli_prog_name",
  "_cli_settings_source", "_cli_enforce_required", "_cli_use_class_docs_for_groups",
  "_cli_implicit_flags"]

def checkDepth (v : Value) : Except OptionFault Unit :=
  match v with
  | .str _ | .arr _ | .obj _ => if v.isYes then .error (unsuited .difference v) else .ok ()
  | _ => .ok ()

def checkFrontLength : Value → Except OptionFault Unit
  | .null | .str _ | .arr _ | .obj _ => .ok ()
  | v => .error (unsuited .size v)

def checkPlace : Value → Except OptionFault Unit
  | .str _ => .ok ()
  | v => .error (unsuited .place v)

/-- Places of files: one, or many, or none. Nothing is read from there. -/
def placesOf : Value → Except OptionFault (List Value)
  | .null => .ok []
  | .str place => .ok [.str place]
  | .arr places => .ok places
  | .obj members => .ok (members.map (.str ·.1))
  | v => .error (unsuited .items v)

/-- How far a file is searched for matters only if there is one. -/
def checkFileDepth : Value → Except OptionFault Unit
  | .null | .bool _ | .int _ | .float _ => .ok ()
  | v => .error (unsuited .comparison v)

def checkFiles (files depth : Value) : Except OptionFault Unit := do
  (← placesOf files).forM fun place => do
    checkPlace place
    checkFileDepth depth

def checkSecrets (v : Value) : Except OptionFault Unit := do
  (← placesOf v).forM checkPlace

/-- Why sources cannot be used: the first of them is no source. Whatever is empty stands for
none. -/
def sourceFault? (v : Value) : Option OptionFault :=
  if !v.isYes then none
  else
    match v with
    | .str _ | .obj _ => some (unsuited .call (.str []))
    | .arr (source :: _) => some (unsuited .call source)
    | v => some (unsuited .items v)

/-- Sources are given as a pair, and none can be written as JSON: at best there are none. -/
def checkSources (v : Value) : Except OptionFault Unit := do
  let items ←
    match v with
    | .str text => pure (text.map fun c => Value.str [c])
    | .arr items => pure items
    | .obj members => pure (members.map (.str ·.1))
    | v => throw (unsuited .pair v)
  match items with
  | [source, _] => if let some fault := sourceFault? source then throw fault
  | [] | [_] =>
    throw (.refused ("not enough values to unpack (expected 2, got " ++ toString items.length ++
      ")"))
  | _ => throw (.refused "too many values to unpack (expected 2)")

def frontMessage (field : String) : String :=
  "error getting value for field \"" ++ field ++ "\" from source \"EnvSettingsSource\""

def hasFront (members : Members) : Bool :=
  match value members frontTarget with
  | .null => true
  | .str target => target.shown == "variable" || target.shown == "all"
  | _ => false

/-- The look-up that the options ask for. What stands in front of the names has to be text. -/
def lookupFor (field : String) (members : Members) : Except OptionFault Lookup :=
  let lookup : Lookup := {
    exactCase := flag members exactCase
    skipsEmpty := flag members skipsEmpty
    nullText := (value members nullText).string? }
  match hasFront members, value members front with
  | false, _ | _, .null => .ok lookup
  | _, .str front => .ok { lookup with front := front.shown }
  | _, _ => .error (.refused (frontMessage field))

/-- The options among the members of a composite with fields of these names, checked in the order in
which they are needed. There are none where no settings are to be read. -/
def ofMembers (fields : List String) (members : Members) :
    Except OptionFault (Option Options) := do
  let value := value members
  if (members.get? reservedOption).isSome then throw (.misused .reserved)
  if !(value sources matches .null) then
    checkSources (value sources)
    return none
  checkDepth (value depth)
  checkFrontLength (value front)
  checkFiles (value files) (value fileDepth)
  let given ← commandLine fields members
  let lookup ← lookupFor (fields.headD "") members
  checkSecrets (value secrets)
  return some ⟨lookup, given⟩

end Options
end KqlCompletion.Settings
