import RequestBinding.Config.Decoding
import RequestBinding.Config.Error
import RequestBinding.Journal
import RequestBinding.Telemetry.Filter

/-!
# Variables of the environment

Every setting has a variable of its own: a chosen word, the section and the name
of the setting in capitals, joined by two underscores each. Variables that begin
with the word and belong to no setting are passed over with a warning. All are
taken in their order until one has a value that its setting cannot have.
-/

namespace RequestBinding

/-- A variable: its name and its value. -/
abbrev Variable := String × String

/-! ## Values as text -/

/-- The truth value that a word writes, in any letter case. -/
def boolWord? (s : String) : Option Bool :=
  let word := lowerCase s
  if ["true", "1", "yes", "on"].contains word then some true
  else if ["false", "0", "no", "off"].contains word then some false
  else none

/-- What is wrong with a value that is no number. -/
def notNumber (s : String) : String :=
  "expected number, got '" ++ s ++ "'"

/-- The boundaries between the commas of a text, or what is wrong with the first
that is no number. -/
def bucketList : List String → Except String (List Binary64)
  | [] => .ok []
  | s :: rest =>
    match Binary64.read? s with
    | none => .error (notNumber s)
    | some x =>
      match bucketList rest with
      | .ok xs => .ok (x :: xs)
      | .error e => .error e

/-- The value of a type that text writes, or what is wrong with the text. -/
def SettingType.ofText : (t : SettingType) → String → Except String t.Value
  | .flag, s =>
    match boolWord? s with
    | some b => .ok b
    | none => .error "expected boolean"
  | .count, s =>
    match readUInt64? (trim s) with
    | some n => .ok n
    | none => .error (notNumber s)
  | .text, s => .ok s
  | .format, s =>
    match LogFormat.ofName? (lowerCase s) with
    | some f => .ok f
    | none => .error "expected 'json', 'pretty' or 'compact'"
  | .numbers, s => bucketList (trimmedPieces s)

/-! ## Variables of settings -/

/-- What joins the parts of the name of a variable. -/
def variableJoint : String := "__"

/-- The part of a variable's name that a name in a configuration becomes. -/
def variablePart (name : String) : String :=
  String.ofList (name.toList.map Char.toUpper)

/-- The variable of a setting under a word. -/
def Setting.variable (word : String) (s : Setting) : String :=
  word ++ variableJoint ++ variablePart s.sectionOf.name ++ variableJoint ++ variablePart s.name

/-- The setting of a variable under a word. -/
def Setting.ofVariable? (word name : String) : Option Setting :=
  Setting.all.find? fun s => s.variable word == name

/-- `name` begins with the word. -/
def isUnder (word name : String) : Bool :=
  (word ++ variableJoint).toList.isPrefixOf name.toList

namespace Configuration

/-- The record of a variable that belongs to no setting. -/
def unknownRecord (name : String) : LogRecord :=
  ⟨.warn, "ignoring unknown configuration variable", [("var", name)]⟩

/-- Takes one variable under a word. -/
def applyVariable (word : String) (c : Configuration) (v : Variable) :
    Except ConfigError Configuration × Journal :=
  if isUnder word v.1 then
    match Setting.ofVariable? word v.1 with
    | none => (.ok c, [.record (unknownRecord v.1)])
    | some s =>
      match s.type.ofText v.2 with
      | .ok value => (.ok (c.set s value), [])
      | .error reason => (.error (.invalidVariable v.1 reason), [])
  else (.ok c, [])

/-- Takes variables one after another, until one has a wrong value. -/
def applyVariables (word : String) (c : Configuration) :
    List Variable → Except ConfigError Configuration × Journal
  | [] => (.ok c, [])
  | v :: rest =>
    match c.applyVariable word v with
    | (.error e, journal) => (.error e, journal)
    | (.ok c, journal) =>
      let (result, more) := applyVariables word c rest
      (result, journal ++ more)

end Configuration

end RequestBinding
