import PageLoom.Command.State

set_option autoImplicit false

/-! # The stages of a run

First the surroundings are checked: directories, configuration, bundler, port and addresses. Then
the site is either built or served, and at the end the outcome is reported. A run that the system
keeps from looking something up ends with the system's report. -/

namespace PageLoom
namespace Command

namespace Stage

/-- What the verbose command shows first. -/
def banner : Text :=
  "\n  __   ____ _  __ _ _   _ _   _\n  \\ \\ / / _` |/ _` | | | | | | |\n" ++
  "   \\ V / (_| | (_| | |_| | |_| |\n    \\_/ \\__,_|\\__,_|\\__, |\\__,_|\n" ++
  "                    |___/\n  Templates with a breath of JavaScript\n"

/-- Ends the run with a report. -/
def fail {α : Type} (report : Text) : Run α := throw (.exit ("Error: " ++ report))

/-- A text that is there and not empty. -/
def given (t : Option Text) : Option Text := t.filter fun t => !t.isEmpty

/-- Settles which bundler project takes part: the one of the command line, the one of the
    configuration, or the one beside the site. One that is named must be there. -/
def settleBundler (s : RunState) (config : ProjectConfig) (base : Text) : Run RunState := do
  if s.noBundler then return { s with bundlerDir := none }
  let named := match given s.bundlerOption with
    | some d => some (SitePath.tidy d)
    | none => ProjectConfig.resolve base (given config.bundlerDir)
  let directory := named.getD (SitePath.child (FileTree.above s.site) "vite")
  if ← Run.lookUp (·.isDirectory directory) then return { s with bundlerDir := some directory }
  else if named.isSome then fail ("Vite directory not found: " ++ directory)
  else
    Run.note (.warning
      ("Warning: no Vite directory at " ++ directory ++ ", running without the bundler"))
    return { s with noBundler := true, bundlerDir := none }

/-- The path of the configuration: the one that is named, or the one beside the site. -/
def configPath (named : Option Text) (site : Text) : Run Text := do
  match given named with
  | some file =>
      let file := SitePath.tidy file
      if ← Run.lookUp (·.isFile file) then return file
      else fail ("Config file not found: " ++ file)
  | none =>
      return FileTree.pathOf (((← Run.tree).resolve site).dropLast ++ [ProjectConfig.fileName])

/-- Loads the configuration. -/
def loadConfig (tools : Tools) (path : Text) : Run ProjectConfig := do
  match ProjectConfig.load tools.configs (← Run.tree) path with
  | .ok config => return config
  | .error fault => if fault.isOwn then fail fault.message else throw (.config fault)

/-- Shows that a run begins. -/
def greet (verbosity : Int) : Run Unit := do
  if 2 ≤ verbosity then Run.note (.debug 2 banner)
  Run.note (.debug 2 "Checking environment...")

/-- Requires the site to be a directory. -/
def requireSite (site : Text) : Run Unit := do
  if ← Run.lookUp (·.isDirectory site) then Run.note (.debug 2 ("Site directory: " ++ site))
  else fail ("Site directory not found: " ++ site)

/-- Shows where the configuration is, if there is one. -/
def showConfig (path : Text) : Run Unit := do
  if ← Run.lookUp (·.exists? path) then Run.note (.debug 2 ("Project config: " ++ path))

/-- Makes the output directory. -/
def makeOutput (dist : Text) : Run Unit := do
  match ← Run.doWork (Work.makeDirectories dist) with
  | .ok () => Run.note (.debug 2 ("Output directory: " ++ dist))
  | .error fault => throw (.work fault)

/-- Settles port, addresses and the output directory, which a build needs to be there. -/
def settle (config : ProjectConfig) (s : RunState) : Run RunState := do
  let settings := (← get).settings
  let s := { s with
    devPort := (s.port.or config.port).getD settings.devPort
    bundlerUrl := (given config.bundlerUrl).getD settings.bundlerUrl
    dist := SitePath.tidy s.outputDir }
  unless s.serve do makeOutput s.dist
  return { s with ready := true }

/-- Checks the surroundings and settles directories, port and addresses. -/
def check (tools : Tools) (s : RunState) : Run RunState := do
  greet s.verbosity
  let s := { s with site := SitePath.tidy s.inputDir }
  requireSite s.site
  let path ← configPath s.configFile s.site
  let config ← loadConfig tools path
  showConfig path
  let s ← settleBundler s config (FileTree.above path)
  Run.note (.debug 2 ("Vite directory: " ++ s.bundlerDir.getD "(none)"))
  settle config s

/-- Builds the site, unless it is served. -/
def build (tools : Tools) (s : RunState) : Run RunState := do
  if s.serve then return s
  let settings := (← get).settings
  let b : Build := ⟨tools.host, tools.manifests, settings, s.site, s.dist,
    if s.noBundler then none else s.bundlerDir⟩
  match ← Run.doWork b.run with
  | .ok report => return { s with report := some report }
  | .error (.site e) => throw (.exit ("Build error: " ++ e.report))
  | .error fault => throw (RunFault.work fault)

/-- Serves the site, if it is to be served, until the server is shut down. -/
def serve (s : RunState) : Run RunState := do
  if ¬ s.serve then return s
  let host := (← get).settings.devHost
  let order : ServerOrder := ⟨s.site, s.bundlerDir, host, s.devPort, s.bundlerUrl⟩
  modify fun w => { w with servers := w.servers ++ [order] }
  match (← get).serverFailure with
  | some report => throw (.exit ("Server error: " ++ report))
  | none => return { s with served := true }

/-- Reports the outcome. -/
def report (s : RunState) : Run RunState := do
  if s.serve then
    Run.note (.debug 2 "Dev server stopped")
    return s
  match s.report with
  | none => fail "Build failed"
  | some r =>
      Run.note (.debug 1 "\n✓ Build successful!")
      Run.note (.debug 1 ("  Output: " ++ r.dist))
      Run.note (.debug 1 ("  Pages:  " ++ Text.ofNat r.pages.length))
      Run.note (.debug 1 ("  Static: " ++ Text.ofNat r.assets.length))
      if r.mapped ≠ 0 then
        Run.note (.debug 2 ("  Bundled asset mappings: " ++ Text.ofNat r.mapped))
      return s

/-- All stages in their order. -/
def all (tools : Tools) : List (RunState → Run RunState) :=
  [check tools, build tools, serve, report]

end Stage
end Command
end PageLoom
