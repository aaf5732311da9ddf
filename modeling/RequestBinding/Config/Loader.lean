import RequestBinding.Config.EnvironmentFile
import RequestBinding.Config.Validation

/-!
# Loading a configuration

A loader starts from a configuration as usual or for an occasion, and lays
documents over it in turn. A document is first checked by itself; then the
configuration so far is written as a document, the new one is laid over it, and
the whole is read again.

Variables of the environment are taken at the end, whenever they were asked for,
and then the configuration is checked.
-/

namespace RequestBinding

/-! ## Files -/

/-- The files of a folder. -/
abbrev Folder := List (String × Bytes)

/-- What a path leads to. -/
inductive FolderEntry where
  | folder
  | file (bytes : Bytes)

namespace Folder

/-- The parts of a path that are not the folder itself. -/
def pathParts (path : String) : List String :=
  ((path.toList.splitOn '/').map String.ofList).filter fun p => p ≠ "" ∧ p ≠ "."

/-- What a path leads to from a folder that has no folders in it. -/
def find? (f : Folder) (path : String) : Option FolderEntry :=
  if path == "" then none
  else
    match pathParts path with
    | [] => some .folder
    | [name] =>
      if name == ".." then some .folder
      else if path.startsWith "/" || (path.toList.splitOn '/').getLast? != some name.toList then
        none
      else (f.lookup name).map .file
    | parts => if parts.all (· == "..") then some .folder else none

/-- What follows the last point in the name at the end of a path, if something
stands before it. -/
def extension? (path : String) : Option String :=
  match (pathParts path).getLast? with
  | none => none
  | some name =>
    let r := name.toList.reverse
    match r.dropWhile (· != '.') with
    | '.' :: _ :: _ =>
      if name == ".." then none else some (String.ofList (r.takeWhile (· != '.')).reverse)
    | _ => none

end Folder

/-- What surrounds a process: the files of its folder and its variables. -/
structure Surroundings where
  files : Folder
  environment : List Variable

namespace Surroundings

/-- Sets the variables of a file. -/
def loadVariables (s : Surroundings) (path : String) : Except ConfigError Surroundings :=
  match s.files.find? path with
  | some (.file bs) =>
    match EnvironmentFile.load? s.environment bs with
    | some vars => .ok { s with environment := vars }
    | none => .error .environmentFile
  | _ => .error .environmentFile

/-- The usual name of a file of variables. -/
def variablesFile : String := ".env"

/-- Sets the variables of the file of the usual name, if there is one. -/
def loadUsualVariables (s : Surroundings) : Except ConfigError Surroundings :=
  match s.files.find? variablesFile with
  | none => .ok s
  | some _ => s.loadVariables variablesFile

end Surroundings

/-! ## Layers -/

/-- The error of text that is not in a format. -/
def DocumentFormat.error : DocumentFormat → ConfigError
  | toml => .toml
  | json => .json

namespace Configuration

/-- The configuration that text in a format writes. -/
def ofText? (format : DocumentFormat) (s : String) : Option Configuration :=
  (Document.read? format s).bind (ofDocument? format)

/-- Lays a document over a configuration. -/
def overlay? (c : Configuration) (d : Document) : Option Configuration :=
  ofDocument? .json (Document.merge c.toDocument d).finite

/-- Lays text in a format over a configuration. -/
def layer (c : Configuration) (format : DocumentFormat) (s : String) :
    Except ConfigError Configuration :=
  match Document.read? format s with
  | none => .error format.error
  | some d =>
    if (ofDocument? format d).isNone then .error format.error
    else
      match c.overlay? d with
      | some c => .ok c
      | none => .error .json

end Configuration

/-! ## Loaders -/

/-- A configuration that is being loaded, and the word of its variables. -/
structure Loader where
  config : Configuration := {}
  word? : Option String := none

namespace Loader

/-- The word of variables unless another is given. -/
def usualWord : String := "MODELBIND"

/-- Starts again from a configuration. -/
def withConfig (l : Loader) (c : Configuration) : Loader :=
  { l with config := c }

/-- Asks for variables under a word, in capitals. -/
def withVariables (l : Loader) (word : String) : Loader :=
  { l with word? := some (upperCase word) }

/-- Lays text over the configuration, in a format by its name. -/
def withText (l : Loader) (s format : String) : Except ConfigError Loader :=
  match DocumentFormat.ofName? format with
  | none => .error (.unsupportedFormat format)
  | some f =>
    match l.config.layer f s with
    | .ok c => .ok { l with config := c }
    | .error e => .error e

/-- Lays a file over the configuration, in the format of its extension. -/
def withFile (l : Loader) (files : Folder) (path : String) : Except ConfigError Loader :=
  match files.find? path with
  | none => .error (.fileNotFound path)
  | some entry =>
    match Folder.extension? path, entry with
    | none, _ => .error (.unsupportedFormat path)
    | some _, .folder => .error (.unreadable path)
    | some extension, .file bs =>
      match Utf8.decode bs with
      | .error _ => .error (.unreadable path)
      | .ok s => l.withText s (lowerCase extension)

/-- Lays a file over the configuration, if there is one. -/
def withOptionalFile (l : Loader) (files : Folder) (path : String) : Except ConfigError Loader :=
  if (files.find? path).isSome then l.withFile files path else .ok l

/-- The configuration with the variables that were asked for, checked. -/
def load (l : Loader) (vars : List Variable) : Except ConfigError Configuration × Journal :=
  let (result, journal) :=
    match l.word? with
    | some word => l.config.applyVariables word vars
    | none => (.ok l.config, [])
  match result with
  | .error e => (.error e, journal)
  | .ok c =>
    match c.validate with
    | .error e => (.error e, journal)
    | .ok () => (.ok c, journal)

end Loader

end RequestBinding
