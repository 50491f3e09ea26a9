import KqlCompletion.Settings.CommandLine
import KqlCompletion.Settings.ListText
import KqlCompletion.Validation.Scalar

/-! Options that declare a command line: its flags and its arguments. They are checked, in the order
in which they are needed, as soon as arguments are given at all. -/
namespace KqlCompletion.Settings.Options

open Json (Value Members)
open CommandLine (Opener Entry Grammar)
open Validation (Checked)

def arguments : String := "_cli_parse_args"
def opener : String := "_cli_flag_prefix_char"
def argumentFront : String := "_cli_prefix"
def hidesNull : String := "_cli_hide_none_type"
def dashes : String := "_cli_kebab_case"
def shortcuts : String := "_cli_shortcuts"
def showsVariables : String := "_cli_show_env_vars"
def argumentNull : String := "_cli_parse_none_str"
def argumentNoJson : String := "_cli_avoid_json"
def ignoresUnknown : String := "_cli_ignore_unknown_args"
def exits : String := "_cli_exit_on_error"
def exactCase : String := "_case_sensitive"
def front : String := "_env_prefix"

def value (members : Members) (name : String) : Value := (members.get? name).getD .null

def flag (members : Members) (name : String) : Bool := (value members name).isYes

def isOff : Value → Bool
  | .null | .bool false => true
  | .int n => n == 0
  | .float x => !(Value.float x).isYes
  | _ => false

def unsuited (use : Use) (v : Value) : OptionFault := .misused (.unsuited use v.kind)

/-- What stands in front of the names of fields has to be text that is made of identifiers between
points. Of other values only empty lists and objects come as far as validation. -/
def argumentFrontOf (v : Value) : Except OptionFault Value :=
  match v with
  | .null => .ok (.str [])
  | .str [] => .ok v
  | .str text =>
    let letters := text.shown.toList
    if letters.head? == some '.' || letters.getLast? == some '.' ||
        !Text.isIdentifier (letters.filter (· != '.')) then
      .error (.refused ("CLI settings source prefix is invalid: " ++ text.shown))
    else .ok (.str (text ++ "."))
  | v =>
    if v.isYes then .error (.misused (.featureless "startswith" v.kind))
    else
      match v with
      | .arr _ | .obj _ => .ok v
      | v => .error (unsuited .size v)

def frontText (members : Members) : String :=
  match (value members argumentFront).string? with
  | none | some "" => ""
  | some text => text ++ "."

def listFault (items : List Value) : OptionFault :=
  match items with
  | [] => .misused (.outOfRange "list")
  | item :: _ =>
    let bracket (v : Value) : Bool := v.string? == some "["
    if items.any bracket then unsuited .removal (.arr items)
    else .refused ("invalid option string " ++
      Text.quoted ((Value.arr [item]).display ++ "h") ++ ": must start with a character " ++
      (Value.arr items).display)

/-- What flags open with. The flag for help must have a letter that is no opener. -/
def openerOf (v : Value) : Except OptionFault Opener :=
  match v with
  | .null => .ok ['-']
  | .str [] => .error (.misused (.outOfRange "string"))
  | .str text =>
    let opener := text.shown.toList
    if opener.contains 'h' then
      .error (.refused ("dest= is required for options like " ++
        Text.quoted (Opener.flag opener 2 "help")))
    else .ok opener
  | .arr items => .error (listFault items)
  | v => .error (unsuited .characters v)

def dashNames : List String := ["all", "no_enums"]

/-- Dashes for underscores are asked for by a truth value or by name. -/
def checkDashes (v : Value) : Checked Unit :=
  let names := ",".intercalate (dashNames.map fun name => "'" ++ name ++ "'")
  Checked.either ((Validation.boolean v).under (.field "bool"))
    ((Validation.oneOf dashNames v).under (.field (.of ("literal[" ++ names ++ "]"))))

/-- Some options have to be of some type if they are given. -/
def checkTypes (members : Members) (front : Value) : Checked Unit :=
  let truth (name : String) : Checked (Option Bool) :=
    Validation.nullable Validation.boolean (value members name)
  Checked.map4 (fun _ _ _ _ => ()) ((Validation.text front).under (.field "arg_prefix"))
    ((truth exactCase).under (.field "case_sensitive"))
    ((truth hidesNull).under (.field "hide_none_type"))
    ((Validation.nullable checkDashes (value members dashes)).under (.field "kebab_case"))

/-- The flag of a name. What stands for a name need not be text, but has to have a size. -/
def flagOf (opener : Opener) (name : Value) : Except OptionFault String :=
  match name with
  | .str text => .ok (opener.flag text.length text.shown)
  | .arr items => .ok (opener.flag items.length name.display)
  | .obj members => .ok (opener.flag members.length name.display)
  | v => .error (unsuited .size v)

def otherNames (v : Value) : Except OptionFault (List Value) :=
  match v with
  | .str _ => .ok [v]
  | .arr names => .ok names
  | .obj members => .ok (members.map (.str ·.1))
  | v => .error (unsuited .items v)

/-- Names are the same if they are of one kind and written alike. -/
def isSameName (a b : Value) : Bool := a.kind == b.kind && a.display == b.display

/-- The names of a field: its own, and those that shortcuts add to one of them. Names in use are
left out. -/
def namesOf (shortcuts : Members) (used : List Value) (name : String) :
    Except OptionFault (List Value) :=
  let isNew (v : Value) : Bool := !used.any (isSameName v)
  shortcuts.foldlM (fun names (target, others) =>
    if names.any fun name => name.str? == some target then do
      return names ++ (← otherNames others).filter isNew
    else return names) ([Value.str name].filter isNew)

structure Declared where
  grammar : Grammar
  used : List Value := []

/-- Declares the flags of a field, unless it has no names left. -/
def Declared.withField (declared : Declared) (shortcuts : Members) (front field name : String) :
    Except OptionFault Declared := do
  let names ← namesOf shortcuts declared.used name
  if names.isEmpty || declared.used.any (isSameName (.str (front ++ field))) then return declared
  let opener := declared.grammar.opener
  let flags ← names.mapM (flagOf opener)
  let isTaken (flag : String) : Bool :=
    declared.grammar.entries.any (·.flags.contains flag)
  if flags.any isTaken then throw (.misused (.clash flags (flags.filter isTaken)))
  return {
    grammar := ⟨opener, declared.grammar.entries ++ [⟨flags, some field⟩]⟩
    used := declared.used ++ names }

def shortcutsOf (v : Value) : Except OptionFault Members :=
  match v with
  | .obj members => .ok members
  | v => if v.isYes then .error (.misused (.featureless "items" v.kind)) else .ok []

/-- The flags of the fields. Their names may have dashes in the place of underscores. -/
def grammarFor (fields : List String) (members : Members) : Except OptionFault Grammar := do
  let value := value members
  if let .obj _ := value opener then throw (unsuited .repetition (value opener))
  let argumentFront ← argumentFrontOf (value argumentFront)
  let opener ← openerOf (value opener)
  (checkTypes members argumentFront).mapError .invalid
  let variableFront := value front
  if flag members showsVariables && !flag members exactCase &&
      !(variableFront matches .null | .str _) then
    throw (.misused (.featureless "lower" variableFront.kind))
  let shortcuts ← shortcutsOf (value shortcuts)
  let front := frontText members
  let written (name : String) : String :=
    if isOff (value dashes) then name
    else String.ofList (name.toList.map fun c => if c == '_' then '-' else c)
  let declared ← fields.foldlM (fun declared field =>
    declared.withField shortcuts front field (written (front ++ field)))
    (⟨⟨opener, [⟨opener.helpFlags, none⟩]⟩, []⟩ : Declared)
  return declared.grammar

def argumentsOf (v : Value) : Except OptionFault (List Value) :=
  match v with
  | .bool true => .ok []
  | .arr items => .ok items
  | v =>
    if isOff v then .ok []
    else
      .error (.refused ("cli_parse_args must be a list or tuple of strings, received <class '" ++
        v.kind ++ "'>"))

/-- Where letter case is ignored an argument has to be text, but whatever is empty counts as an
empty one. -/
def argumentText (v : Value) : Except OptionFault String :=
  match v with
  | .str text => .ok text.shown
  | v => if v.isYes then .error (unsuited .text v) else .ok ""

/-- Letter case of flags is ignored unless there is a value other than false. -/
def ignoresCase (members : Members) : Bool :=
  value members exactCase matches .null | .bool false

def withoutCase (grammar : Grammar) (arguments : List Value) :
    Except OptionFault (List Value) := do
  let texts ← arguments.mapM argumentText
  if texts.isEmpty then return []
  let opener := grammar.opener
  let parts ← opener.parts.mapError fun fault => .misused (.pattern fault)
  let isFlag (text : String) : Bool := (grammar.entry? text.toList).isSome
  return texts.map fun text => .str (opener.lowered parts isFlag text)

def argumentNullText (members : Members) : Option String :=
  let v := value members argumentNull
  if v.isYes then v.string?
  else some (if value members argumentNoJson matches .bool true then "None" else "null")

/-- A command line that cannot be read ends the process with this status. -/
def faultStatus : Nat := 2

/-- The process ends unless it is told not to. -/
def commandLineFault (members : Members) (fault : CommandLine.Fault) : OptionFault :=
  match fault with
  | .misused misuse => .misused misuse
  | fault =>
    if (value members exits) matches .null || flag members exits then .misused (.exit faultStatus)
    else .refused ("error parsing CLI: " ++ fault.message)

def joinedList (name : String) (null : Option String) (v : Value) : Except OptionFault Value :=
  match v with
  | .arr items =>
    match CommandLine.ListText.write null items with
    | .ok text => .ok (.str text)
    | .error fault =>
      .error (.refused ("Parsing error encountered for " ++ name ++ ": " ++ fault.message))
  | v => .ok v

/-- What the command line gives to the fields of these names. Null gives nothing. -/
def commandLine (fields : List String) (members : Members) : Except OptionFault Members := do
  let given := value members arguments
  if given matches .null then return []
  let grammar ← grammarFor fields members
  let arguments ← argumentsOf given
  let arguments ←
    if ignoresCase members then withoutCase grammar arguments else pure arguments
  let given ← (grammar.read arguments).mapError (commandLineFault members)
  if !given.unknown.isEmpty && !flag members ignoresUnknown then
    throw (commandLineFault members (CommandLine.unknownFault given.unknown))
  let values : Members := given.values.foldl (fun values (name, v) => values.insert name v) []
  let null := argumentNullText members
  let values ← values.mapM fun (name, v) => do
    return (name, ← joinedList (frontText members ++ name.shown) null v)
  return values.filterMap fun (name, v) =>
    if v matches .null then none
    else some (name, if v.string?.any (some · == null) then .null else v)

end KqlCompletion.Settings.Options
