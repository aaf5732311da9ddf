import RequestBinding.Form.Collection
import RequestBinding.Form.Options
import RequestBinding.Model

/-!
# Features of a request

Parts of a pipeline leave values with a request for those after them: the form
of the request, or a value of one of the model types. There is at most one of
each kind.

Results:
1. `get?_insert_self`: inserting a feature sets its kind.
2. `insert_insert`: the later of two features of a kind is the only one.
-/

namespace RequestBinding

/-- The form of a request: the options by which it is read, and the form once
it has been read or given. -/
structure FormFeature where
  options : FormOptions
  form? : Option Form
deriving DecidableEq

namespace FormFeature

/-- A form that has not been read. -/
def ofOptions (options : FormOptions) : FormFeature := ⟨options, none⟩

def hasForm (f : FormFeature) : Bool :=
  f.form?.isSome

/-- The form as it is shown to a developer. -/
def describe (f : FormFeature) : String :=
  showRecord "FormFeature"
    [("options", f.options.describe), ("has_form", showBool f.hasForm)] false

end FormFeature

/-- The kinds of features. -/
inductive FeatureKind where
  | form
  | value (type : ModelType)
deriving DecidableEq

/-- The features of a kind. -/
@[reducible] def FeatureKind.Value : FeatureKind → Type
  | form => FormFeature
  | value t => t.Value

/-- A feature with its kind. -/
structure Feature where
  kind : FeatureKind
  value : kind.Value

/-- The features of a request, at most one of each kind. -/
structure Features where
  list : List Feature

namespace Features

def empty : Features := ⟨[]⟩

/-- The feature of a kind among others. -/
def find? (k : FeatureKind) : List Feature → Option k.Value
  | [] => none
  | f :: rest => if h : f.kind = k then some (h ▸ f.value) else find? k rest

/-- The feature of a kind. -/
def get? (fs : Features) (k : FeatureKind) : Option k.Value :=
  find? k fs.list

/-- Removes the feature of a kind. -/
def erase (fs : Features) (k : FeatureKind) : Features :=
  ⟨fs.list.filter fun f => f.kind ≠ k⟩

/-- Puts a feature in the place of the one of its kind. -/
def insert (fs : Features) (k : FeatureKind) (v : k.Value) : Features :=
  ⟨⟨k, v⟩ :: (fs.erase k).list⟩

def contains (fs : Features) (k : FeatureKind) : Bool :=
  (fs.get? k).isSome

/-- The number of features. -/
def size (fs : Features) : Nat :=
  fs.list.length

/-- The features as they are shown to a developer. -/
def describe (fs : Features) : String :=
  showRecord "Features" [("count", toString fs.size)] false

theorem get?_insert_self (fs : Features) (k : FeatureKind) (v : k.Value) :
    (fs.insert k v).get? k = some v := by
  simp [get?, insert, find?]

/-- The later of two features of a kind is the only one. -/
theorem insert_insert (fs : Features) (k : FeatureKind) (v w : k.Value) :
    (fs.insert k v).insert k w = fs.insert k w := by
  simp [insert, erase]

end Features

end RequestBinding
