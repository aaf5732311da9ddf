import RequestBinding.Formatter.Basic
import RequestBinding.Journal

/-!
# Selecting a formatter

Formatters are asked in the order in which they were registered; the first that
can read the request is selected. Each refusal and the selection are told as
events with the declared content type.

Results:
1. `select_formatter`: the selected formatter is the first that can read.
-/

namespace RequestBinding

/-- Formatters in the order in which they are asked. -/
structure FormatterCollection where
  list : List InputFormatter

namespace FormatterCollection

def empty : FormatterCollection := ⟨[]⟩

/-- Adds a formatter after the others. -/
def push (fs : FormatterCollection) (f : InputFormatter) : FormatterCollection :=
  ⟨fs.list ++ [f]⟩

/-- Puts a formatter at an index, or after the others. -/
def insert (fs : FormatterCollection) (index : Nat) (f : InputFormatter) : FormatterCollection :=
  ⟨fs.list.take index ++ f :: fs.list.drop index⟩

/-- Removes the formatters of a family. -/
def eraseFamily (fs : FormatterCollection) (family : String) : FormatterCollection :=
  ⟨fs.list.filter fun f => f.family ≠ family⟩

def containsFamily (fs : FormatterCollection) (family : String) : Bool :=
  fs.list.any fun f => f.family == family

def names (fs : FormatterCollection) : List String :=
  fs.list.map (·.name)

def size (fs : FormatterCollection) : Nat :=
  fs.list.length

def isEmpty (fs : FormatterCollection) : Bool :=
  fs.list.isEmpty

/-- The formatters as they are shown to a developer. -/
def describe (fs : FormatterCollection) : String :=
  showList (fs.names.map quoted)

/-- Asks formatters in turn. -/
def selectFrom (sink : Sink) (c : FormatterContext) :
    List InputFormatter → Option InputFormatter × Journal
  | [] => (none, [sink.emit (.noFormatterFound c.request.contentType c.modelName)])
  | f :: rest =>
    if f.canRead c then
      (some f, [sink.emit (.selectedFormatter f.name c.request.contentType)])
    else
      let (selected, journal) := selectFrom sink c rest
      (selected, sink.emit (.rejectedFormatter f.name c.request.contentType) :: journal)

/-- The formatter for a request, and what is told of its selection. -/
def select (fs : FormatterCollection) (sink : Sink) (c : FormatterContext) :
    Option InputFormatter × Journal :=
  selectFrom sink c fs.list

theorem selectFrom_fst (sink : Sink) (c : FormatterContext) (l : List InputFormatter) :
    (selectFrom sink c l).1 = l.find? (·.canRead c) := by
  induction l with
  | nil => rfl
  | cons f rest ih =>
    simp only [selectFrom, List.find?_cons]
    cases h : f.canRead c <;> simp [ih]

theorem select_formatter (fs : FormatterCollection) (sink : Sink) (c : FormatterContext) :
    (fs.select sink c).1 = fs.list.find? (·.canRead c) :=
  selectFrom_fst sink c fs.list

end FormatterCollection

end RequestBinding
