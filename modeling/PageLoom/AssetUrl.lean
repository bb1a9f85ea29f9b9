import PageLoom.Log
import PageLoom.Json.Basic
import PageLoom.SitePath

set_option autoImplicit false

/-! # Asset URLs

Where the browser finds an asset that a page imports. In dev mode assets come from the bundler's
server; in a build the manifest says which file was emitted for a source path. -/

namespace PageLoom

/-- What a compile is for. -/
structure CompileOptions where
  /-- Pages are served, not built: assets come from the bundler's server, and pages reload. -/
  devMode : Bool
  /-- Base URL of the bundler's server. -/
  devServerUrl : Text
  /-- The emitted file of each source path. -/
  manifest : List (Text × Text)
  /-- The site's directory, against which file-relative asset paths are expressed. -/
  siteDir : Option Text
  deriving DecidableEq, Repr

/-- A build without manifest and site directory. -/
def CompileOptions.plain : CompileOptions := ⟨false, [], [], none⟩

namespace AssetUrl

/-- The path under which an import is looked up: seen from the site's directory if it is
    file-relative, and without a leading `./`. -/
def lookupPath (cwd path file : Text) (options : CompileOptions) : Text :=
  let sitePath := match options.siteDir with
    | some site => if SitePath.isFileRelative path then SitePath.relativize cwd path file site
                   else path
    | none => path
  match sitePath with
  | '.' :: '/' :: rest => rest
  | other => other

/-- The URL of an import. -/
def resolve (cwd path file : Text) (options : CompileOptions) : Text :=
  let found := lookupPath cwd path file options
  if options.devMode then Text.dropEndWhile (· = '/') options.devServerUrl ++ '/' :: found
  else '/' :: (member? found options.manifest).getD found

/-- What a traced resolution notes. -/
def note (path url : Text) : Entry :=
  .debug 3 ("Resolved asset " ++ path ++ " → " ++ url)

end AssetUrl
end PageLoom
