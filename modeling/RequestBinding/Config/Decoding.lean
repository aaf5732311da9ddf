import RequestBinding.Config.Setting
import RequestBinding.Document.Reading

/-!
# Configurations as documents

A configuration is written as a table of sections, each a table of settings. A
document is read field by field: a table names its fields, each at most once and
none that is unknown; a list gives the values of the first fields in their
order. What a document does not give is as usual. A list with more items than
there are fields is refused in JSON, while in TOML the items beyond them are
passed over.
-/

namespace RequestBinding

/-! ## Values of settings -/

/-- The integer as floating point. -/
def Binary64.ofInt (n : Int) : Binary64 :=
  (Binary64.ofNat n.natAbs).withSign (n < 0)

namespace SettingType

/-- The boundary that a document writes: a number or an integer. -/
def boundary? : Document → Option Binary64
  | .number x => some x
  | .integer n => some (.ofInt n)
  | _ => none

/-- The value of a type that a document of a format writes. -/
def ofDocument? (format : DocumentFormat) : (t : SettingType) → Document → Option t.Value
  | flag, .flag b => some b
  | count, .integer n => if 0 ≤ n ∧ n ≤ maxUInt64 then some (UInt64.ofNat n.toNat) else none
  | text, .text s => some s
  | SettingType.format, d => (d.word? format).bind LogFormat.ofName?
  | numbers, .list items => items.mapM boundary?
  | _, _ => none

/-- The document of a value. -/
def toDocument : (t : SettingType) → t.Value → Document
  | flag, b => .flag b
  | count, n => .integer n.toNat
  | text, s => .text s
  | format, f => .text f.name
  | numbers, xs => .list (xs.map .number)

end SettingType

/-! ## Records -/

/-- Reads the entries of a table, or the items of a list in the order of
`fields`, into a record. -/
def readRecord {α φ : Type} (format : DocumentFormat) (fields : List φ) (name : φ → String)
    (put : α → φ → Document → Option α) (start : α) : Document → Option α
  | .table entries =>
    if (entries.map Prod.fst).Nodup then
      entries.foldlM (fun a e => (fields.find? (name · == e.1)).bind (put a · e.2)) start
    else none
  | .list items =>
    if format = .json ∧ fields.length < items.length then none
    else (fields.zip items).foldlM (fun a e => put a e.1 e.2) start
  | _ => none

namespace Configuration

/-- Reads a document into a setting. -/
def putSetting (format : DocumentFormat) (c : Configuration) (s : Setting) (d : Document) :
    Option Configuration :=
  (s.type.ofDocument? format d).map (c.set s)

/-- Reads a document into a section. -/
def putSection (format : DocumentFormat) (c : Configuration) (s : ConfigSection) (d : Document) :
    Option Configuration :=
  readRecord format s.settings Setting.name (putSetting format) c d

/-- The configuration that a document of a format writes. -/
def ofDocument? (format : DocumentFormat) (d : Document) : Option Configuration :=
  readRecord format ConfigSection.all ConfigSection.name (putSection format) {} d

/-- The document of a section. -/
def sectionDocument (c : Configuration) (s : ConfigSection) : Document :=
  .table (s.settings.map fun t => (t.name, t.type.toDocument (c.get t)))

/-- The document of a configuration. -/
def toDocument (c : Configuration) : Document :=
  .table (ConfigSection.all.map fun s => (s.name, c.sectionDocument s))

/-- The section that a document writes by itself, in a configuration that is as
usual apart from it. -/
def ofSection? (format : DocumentFormat) (s : ConfigSection) (d : Document) :
    Option Configuration :=
  putSection format {} s d

end Configuration

end RequestBinding
