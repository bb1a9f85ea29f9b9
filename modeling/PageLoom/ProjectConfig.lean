import PageLoom.FileTree
import PageLoom.Validation

set_option autoImplicit false

/-! # Project configuration

A project may keep a configuration file beside its site: where the bundler's project is, and where
its server listens. Every field may be left out, but no other field is known. -/

namespace PageLoom

/-- The values of a configuration file. -/
structure ProjectConfig where
  bundlerDir : Option Text
  port : Option Int
  bundlerUrl : Option Text
  deriving DecidableEq, Repr

namespace ProjectConfig

/-- A configuration that says nothing. -/
def empty : ProjectConfig := ⟨none, none, none⟩

/-- The name of the configuration file. -/
def fileName : Text := "vaayu.yaml"

/-- The names of the fields in the file. -/
def fieldNames : List Text := ["vite_dir", "port", "vite_dev_url"].map String.toList

/-! ## Documents -/

/-- A document, as far as it is looked at before its values are. -/
inductive Document (α : Type) where
  | nothing
  /-- Values by key; not every key need be a text. -/
  | mapping (entries : List (Option Text × α))
  | other

/-- Why a document cannot be had. -/
inductive DocumentFault where
  /-- There is no document in what was read. -/
  | malformed (report : Text)
  /-- The file could not be read to its end. -/
  | unreadable (report : Text)
  /-- A failure of another kind. -/
  | escaped (kind report : Text)
  deriving DecidableEq

/-- A reader of configurations: the document in the octets of a file, and the configuration that
    values by name give. -/
structure Reader where
  Value : Type
  document : Octets → Except DocumentFault (Document Value)
  validate : List (Text × Value) → Except Rejection ProjectConfig

/-! ## Loading -/

/-- Why a configuration cannot be had. -/
inductive Fault where
  /-- The file cannot be read. -/
  | unreadable (name report : Text)
  /-- The file holds no document. -/
  | malformed (name report : Text)
  /-- The file holds no mapping. -/
  | noMapping (name : Text)
  /-- The mapping has unknown fields, or unfit values. -/
  | invalid (name : Text) (r : Rejection)
  /-- Whether the file is there cannot be found out. -/
  | lookup (fault : FileFault)
  /-- A key of the mapping is no text. -/
  | oddKey
  /-- The document could not be had for a reason of another kind. -/
  | escaped (kind report : Text)
  deriving DecidableEq

namespace Fault

/-- The report of a fault. -/
def message : Fault → Text
  | unreadable name report => "Failed to load " ++ name ++ ": " ++ report
  | malformed name report => "Failed to parse " ++ name ++ ": " ++ report
  | noMapping name => name ++ " must contain a mapping"
  | invalid name r => "Invalid " ++ name ++ ": " ++ r.report
  | lookup fault => fault.message
  | oddKey => "keywords must be strings"
  | escaped _ report => report

/-- Whether a fault is told as one of the configuration. The others pass through. -/
def isOwn : Fault → Bool
  | unreadable .. | malformed .. | noMapping _ | invalid .. => true
  | lookup _ | oddKey | escaped .. => false

/-- What a document's fault is for the configuration in a file. -/
def ofDocument (name : Text) : DocumentFault → Fault
  | .malformed report => malformed name report
  | .unreadable report => unreadable name report
  | .escaped kind report => escaped kind report

end Fault

/-- The members of a mapping whose keys are all texts. -/
def members? {α : Type} (entries : List (Option Text × α)) : Option (List (Text × α)) :=
  entries.mapM fun (key, value) => key.map fun k => (k, value)

/-- The configuration of a document. -/
def ofDocument (r : Reader) (name : Text) : Document r.Value → Except Fault ProjectConfig
  | .nothing => (r.validate []).mapError (.invalid name)
  | .mapping entries =>
      match members? entries with
      | none => .error .oddKey
      | some members => (r.validate members).mapError (.invalid name)
  | .other => .error (.noMapping name)

/-- Loads a configuration file; one that is missing says nothing. -/
def load (r : Reader) (tree : FileTree) (path : Text) : Except Fault ProjectConfig := do
  if ¬ (← (tree.exists? path).mapError .lookup) then return empty
  let octets ← (tree.read path).mapError fun fault => .unreadable (SitePath.name path) fault.message
  let document ← (r.document octets).mapError (.ofDocument (SitePath.name path))
  ofDocument r (SitePath.name path) document

/-- A configured directory, seen from the directory of the configuration. -/
def resolve (base : Text) (value : Option Text) : Option Text :=
  value.map fun v => if SitePath.isAbsolute v then SitePath.tidy v else SitePath.child base v

end ProjectConfig
end PageLoom
