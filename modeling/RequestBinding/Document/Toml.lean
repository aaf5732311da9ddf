import RequestBinding.Document.TomlValue

/-!
# Documents in TOML

A document is a sequence of lines: headings, each of which names the table that
the following entries belong to, and entries. A table has at most one heading,
none if keys with points made it, and no key stands twice in a table. Headings
of lists of tables are not read, as no setting is a list of tables.

A mark of the byte order in front of the text is passed over.
-/

namespace RequestBinding

namespace TomlReader

/-- A document that is being built, and the heading of the entries to come. -/
structure Draft where
  root : Building
  heading : List String

/-- Starts the table of a heading. -/
def Draft.open? (d : Draft) (heading : List String) : Option Draft :=
  match heading.getLast? with
  | none => none
  | some name =>
    let start (t : Building) : Option Building :=
      match t.entries.lookup name with
      | none => some { t with entries := putItem name (.table false false []) t.entries }
      | some (.table true false entries) =>
        some { t with entries := putItem name (.table false false entries) t.entries }
      | some _ => none
    (d.root.alter? false start heading.dropLast).map fun root => ⟨root, heading⟩

/-- Adds an entry to the table of the current heading. -/
def Draft.add? (d : Draft) (key : List String) (value : Document) : Option Draft :=
  (d.root.alter? false (·.add? key value) d.heading).map fun root => { d with root := root }

/-- The tokens after the end of a line, or at the end of the document. -/
def lineEnd? : List Token → Option (List Token)
  | [] => some []
  | .newline :: rest => some rest
  | _ => none

/-- The line at the front of the tokens, and what follows it. -/
def line? (d : Draft) : List Token → Option (Draft × List Token)
  | .newline :: rest => some (d, rest)
  | .openBracket :: rest =>
    match key? rest with
    | some (heading, .closeBracket :: rest) =>
      match d.open? heading, lineEnd? rest with
      | some d, some rest => some (d, rest)
      | _, _ => none
    | _ => none
  | l =>
    match key? l with
    | some (key, .equals :: rest) =>
      match value? (3 * rest.length + 1) rest with
      | none => none
      | some (value, rest) =>
        match d.add? key value, lineEnd? rest with
        | some d, some rest => some (d, rest)
        | _, _ => none
    | _ => none

/-- The document of at most `n` lines that the tokens add to a draft. -/
def lines? (d : Draft) : Nat → List Token → Option Draft
  | _, [] => some d
  | 0, _ => none
  | n + 1, l =>
    match line? d l with
    | some (d, rest) => lines? d n rest
    | none => none

/-- The document that tokens are. -/
def document? (tokens : List Token) : Option Document :=
  (lines? ⟨.empty, []⟩ tokens.length tokens).map fun d => d.root.item.document

/-- The text without a mark of the byte order. -/
def withoutMark : List Char → List Char
  | '\uFEFF' :: rest => rest
  | l => l

end TomlReader

/-- The document that `s` writes in TOML. -/
def Document.ofToml? (s : String) : Option Document :=
  (TomlReader.tokens? [] s.length (TomlReader.withoutMark s.toList)).bind TomlReader.document?

end RequestBinding
