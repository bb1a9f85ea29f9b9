import PageLoom.Bundler.Npm
import PageLoom.Page.File
import PageLoom.Text.Case

set_option autoImplicit false

/-! # Building a site

A build compiles every template of a site to a page of the output directory and copies every file
that neither the compiler nor the bundler takes care of. Files are visited directory by directory,
each directory's files before its directories, in the order of their names, while the output is
being written; the output directory is passed over when it lies inside the site. The first failure
ends the build. -/

namespace PageLoom

/-- What a build did. -/
structure BuildReport where
  dist : Text
  /-- The templates and the pages made of them, both seen from the site. -/
  pages : List (Text × Text)
  /-- The files copied, seen from the site. -/
  assets : List Text
  /-- The number of paths the manifest maps. -/
  mapped : Nat
  deriving DecidableEq, Repr

/-- A build to be made. -/
structure Build where
  host : EngineHost
  reader : Manifest.Reader
  settings : Settings
  site : Text
  dist : Text
  /-- The bundler's project; without one, the bundler is left out. -/
  bundlerDir : Option Text

namespace Build

/-- Runs a step on each file of the site that satisfies a condition, by its path seen from the site,
    and gives what the steps give. A directory is read when its turn comes, so what was written
    until then counts; the output directory is passed over, and so is a directory that cannot be
    listed. Nothing is ever written further down than a file of the site stands, so the nodes there
    are at first bound the depth. -/
def visit {β : Type} (b : Build) (keep : Text → Bool) (step : Text → Work β) : Work (List β) := do
  let tree := (← get).tree
  match tree.locate b.site with
  | .ok site => go site (tree.resolve b.dist) (tree.nodes.length + 1) []
  | .error _ => return []
where
  go (site dist : Location) : Nat → List Text → Work (List β)
    | 0, _ => return []
    | fuel + 1, names => do
        let tree := (← get).tree
        if ¬ tree.isListed (SitePath.child b.site (SitePath.ofSegments names)) then return []
        let files := (tree.filesIn (site ++ names)).map fun name =>
          SitePath.ofSegments (names ++ [name])
        let directories := (tree.directoriesIn (site ++ names)).filter fun name =>
          site ++ names ++ [name] ≠ dist
        let own ← (files.filter keep).mapM step
        let inner ← directories.mapM fun name => go site dist fuel (names ++ [name])
        return own ++ inner.flatten

/-- Whether a file is a template. -/
def isTemplate (settings : Settings) (rel : Text) : Bool :=
  SitePath.suffix rel = settings.templateExtension

/-- Whether a file is taken care of otherwise. -/
def isBundled (settings : Settings) (rel : Text) : Bool :=
  (settings.bundledExtensions.map Text.lower).contains (Text.lower (SitePath.suffix rel))

/-- The page made of a template. -/
def outputName (settings : Settings) (rel : Text) : Text :=
  let size := settings.templateExtension.length
  (if size = 0 then [] else rel.take (rel.length - size)) ++ ".html"

/-- The options of all compiles of a build. -/
def options (b : Build) (manifest : List (Text × Text)) : CompileOptions :=
  ⟨false, [], manifest, some b.site⟩

/-- What a compile's fault is for the build. -/
def faultOf (rel : Text) : CompileFault → WorkFault
  | .page e => .site (.build rel ("failed to compile: " ++ e.report))
  | .tag fault => .foreign "KeyError" fault.message
  | .escaped kind report => .foreign kind report

/-- Runs a file operation; a failure is that of one file of the site. -/
def filing (rel : Text) (reason : FileFault → Text) (step : Work Unit) : Work Unit :=
  tryCatch step fun
    | .file fault => throw (.site (.build rel (reason fault)))
    | other => throw other

/-- Writes a file and the directories above it. -/
def writeFile (path : Text) (content : Octets) : Work Unit := do
  Work.makeDirectories (FileTree.above path)
  Work.onFiles (·.write path content)

/-- Copies a file, and makes the directories above its copy. -/
def copyFile (source target : Text) : Work Unit := do
  Work.makeDirectories (FileTree.above target)
  Work.onFiles (·.copy source target)

/-- Compiles one template into the output directory. -/
def compilePage (b : Build) (manifest : List (Text × Text)) (rel : Text) : Work (Text × Text) := do
  let (result, notes) :=
    Page.ofFile b.host b.settings (b.options manifest) (← get).tree (SitePath.child b.site rel)
  for e in notes do Work.note e
  match result with
  | .error fault => throw (faultOf rel fault)
  | .ok page =>
      let name := outputName b.settings rel
      let target := SitePath.child b.dist name
      filing rel (fun fault => "failed to write " ++ target ++ ": " ++ fault.message)
        (writeFile target (Utf8.encode page.html))
      Work.note (.debug 1 ("  ✓ " ++ rel ++ " → " ++ name))
      return (rel, name)

/-- Copies one file into the output directory. -/
def copyAsset (b : Build) (rel : Text) : Work Text := do
  filing rel (fun fault => "failed to copy: " ++ fault.message)
    (copyFile (SitePath.child b.site rel) (SitePath.child b.dist rel))
  Work.note (.debug 1 ("  ✓ " ++ rel ++ " (static)"))
  return rel

/-- Prepares the output directory: the bundler fills it, or it is just made. -/
def prepare (b : Build) : Work Unit := do
  match b.bundlerDir with
  | some directory =>
      Npm.ensureDependencies directory
      Work.note (.debug 1 "Building assets with Vite...")
      Npm.bundle directory b.dist
  | none => Work.makeDirectories b.dist

/-- The manifest of the output directory, flat. -/
def loadManifest (b : Build) : Work (List (Text × Text)) := do
  match Manifest.load b.reader (← get).tree b.dist with
  | .ok (mapping, e) => Work.note e; return mapping
  | .error fault => throw (.manifest fault)

/-- Makes the build. -/
def run (b : Build) : Work BuildReport := do
  Work.note (.debug 1 ("Building site " ++ b.site ++ " → " ++ b.dist))
  prepare b
  let manifest ← loadManifest b
  Work.note (.debug 1 ("Compiling " ++ b.settings.templateExtension ++ " files..."))
  let pages ← b.visit (isTemplate b.settings) (compilePage b manifest)
  Work.note (.debug 1 "Copying static assets...")
  let assets ← b.visit (¬ isBundled b.settings ·) (copyAsset b)
  Work.note (.debug 1 ("Build complete! Output in: " ++ b.dist))
  return ⟨b.dist, pages, assets, manifest.length⟩

end Build
end PageLoom
