import PageLoom.FileTree
import PageLoom.Json.Basic
import PageLoom.Log
import PageLoom.PageError
import PageLoom.Validation

set_option autoImplicit false

/-! # Bundler manifests

The bundler leaves a manifest in its output directory: for every source the file it emitted, and
the stylesheets that come with it. Pages need it flat, as a mapping from source paths to emitted
files, in which a source's stylesheets are found under the source's path with `.css` behind. A page
is still useful without a manifest, so one that cannot be read counts as empty. -/

namespace PageLoom

/-- What the bundler emitted for one source. -/
structure ManifestEntry where
  file : Text
  src : Text
  isEntry : Bool
  /-- The stylesheets that come with the file. -/
  css : List Text
  deriving DecidableEq, Repr

/-- The entries by source path, in the order of the file. -/
abbrev Manifest := List (Text × ManifestEntry)

/-- Why a manifest cannot be had. -/
inductive ManifestFault where
  /-- The file cannot be read. -/
  | unreadable (fault : FileFault)
  /-- The path is none. -/
  | unnamable (fault : FileFault)
  /-- The file is no UTF-8 text. -/
  | undecodable (fault : Utf8.Fault)
  /-- The file is no manifest. -/
  | invalid (r : Rejection)
  deriving DecidableEq, Repr

namespace ManifestFault

/-- What a file's fault is for the manifest in it. -/
def ofFile : FileFault → ManifestFault
  | .nullCharacter path => unnamable (.nullCharacter path)
  | fault => unreadable fault

/-- Whether a fault is told as one of the manifest. The others pass through. -/
def isOwn : ManifestFault → Bool
  | unreadable _ | invalid _ => true
  | unnamable _ | undecodable _ => false

/-- The report of a fault. -/
def message : ManifestFault → Text
  | unreadable fault => "failed to read manifest: " ++ fault.message
  | unnamable fault => fault.message
  | undecodable fault => fault.message
  | invalid r => "failed to parse manifest: " ++ r.report

end ManifestFault

namespace Manifest

/-- A reader of manifests: the manifest that a text writes, or what is wrong with it. -/
abbrev Reader := Text → Except Rejection Manifest

/-- The path of a source's stylesheets. -/
def companion (source : Text) : Text := source ++ ".css"

/-- What one entry says: its file, then its stylesheets. -/
def mappingsOf (source : Text) (e : ManifestEntry) : List (Text × Text) :=
  (source, e.file) :: e.css.map fun css => (companion source, css)

/-- Emitted files by source path. A path named again keeps its place and takes the later file. -/
def flatten (m : Manifest) : List (Text × Text) :=
  (m.flatMap fun (source, e) => mappingsOf source e).foldl
    (fun mapping (path, file) => setMember path file mapping) []

/-- Where the bundler leaves the manifest. -/
@[irreducible] def pathIn (dist : Text) : Text := SitePath.child dist ".vite/manifest.json"

/-- The manifest in an output directory. -/
def read (reader : Reader) (tree : FileTree) (dist : Text) : Except ManifestFault Manifest := do
  let octets ← (tree.read (pathIn dist)).mapError .ofFile
  let t ← (Utf8.decode octets).mapError .undecodable
  (reader (Text.unifyLineEnds t)).mapError .invalid

/-- The note about a mapping that was found. -/
def loadedNote (mapping : List (Text × Text)) : Entry :=
  .debug 2 ("Loaded manifest with " ++ Text.ofNat mapping.length ++ " entries")

/-- The note about a manifest that cannot be had. -/
def missedNote (fault : ManifestFault) : Entry :=
  .warning ("Warning: Could not read bundler manifest: " ++ fault.message)

/-- The flat mapping of an output directory, and the note about it. A manifest that is missing or
    none counts as empty; one that is not even text is a fault. -/
def load (reader : Reader) (tree : FileTree) (dist : Text) :
    Except ManifestFault (List (Text × Text) × Entry) :=
  match read reader tree dist with
  | .ok m => .ok (flatten m, loadedNote (flatten m))
  | .error fault => if fault.isOwn then .ok ([], missedNote fault) else .error fault

end Manifest
end PageLoom
