import PageLoom.Decimal.Quantity
import PageLoom.Json.Reader
import PageLoom.Validation

set_option autoImplicit false

/-! # Settings

What a site's owner may set from outside: through variables of the environment or through lines of
a file of variables, the environment first. Variable names carry the prefix `VAAYU_` and their case
does not matter. -/

namespace PageLoom

/-- All settings, with their values when nothing is set. -/
structure Settings where
  /-- Ending of page templates. -/
  templateExtension : Text := ".vyu"
  /-- Page served for the root path. -/
  indexPage : Text := "index"
  /-- Interface the dev server binds to. -/
  devHost : Text := "127.0.0.1"
  devPort : Int := 3000
  /-- Base URL of the bundler's server. -/
  bundlerUrl : Text := "http://localhost:5173"
  /-- Path of the live-reload stream. -/
  liveReloadPath : Text := "/__live_reload"
  /-- Seconds between keep-alive comments on an idle stream. -/
  keepAlive : Quantity := .real 15.0
  /-- Seconds requests get to finish when the server shuts down. -/
  shutdownGrace : Quantity := .real 5.0
  /-- Quiet milliseconds after the last change before pages reload. -/
  debounce : Int := 100
  /-- File endings whose changes reload pages. -/
  watchExtensions : List Text := [".vyu", ".css", ".ts", ".js"]
  /-- File endings that are compiled or bundled, never copied. -/
  bundledExtensions : List Text := [".vyu", ".ts", ".js", ".tsx", ".jsx", ".css"]
  /-- Seconds the bundler's server gets to exit before it is killed. -/
  bundlerGrace : Quantity := .real 5.0
  /-- Seconds to wait after the bundler's server is started. -/
  bundlerStartup : Quantity := .real 2.0
  /-- Seconds a script may run; unlimited when absent. -/
  scriptTimeLimit : Option Float := none
  /-- Octets a script may use; unlimited when absent. -/
  scriptMemoryLimit : Option Int := none

namespace Settings

/-- The template file of a page. -/
def templatePath (settings : Settings) (page : Text) : Text := page ++ settings.templateExtension

/-! ## One setting -/

/-- A setting's value as its source gives it: plain text, or data for settings that are lists. -/
inductive Raw where
  | text (t : Text)
  | data (j : Json)

/-- How a setting is put. -/
inductive Setter where
  | text (put : Text → Settings → Settings)
  | whole (put : Int → Settings → Settings)
  | number (put : Quantity → Settings → Settings)
  | list (put : List Text → Settings → Settings)

/-- The settings with one value put, if the value is fit. -/
def Setter.put (setter : Setter) (value : Raw) : Checked (Settings → Settings) :=
  match setter, value with
  | .text put, .text t => .ok (put t)
  | .whole put, .text t => match Decimal.readInt? t with
    | some n => .ok (put n)
    | none => Checked.issue .intParsing
  | .number put, .text t => match Decimal.readFloat? t with
    | some x => .ok (put (.real x))
    | none => Checked.issue .floatParsing
  | .list put, .data j => (Checked.texts j).map put
  | .list _, .text _ => Checked.issue .listType
  | _, .data _ => Checked.issue .stringType

/-- The settings by name, in the order in which issues are reported. -/
def fields : List (Text × Setter) :=
  [("template_extension", .text fun t s => { s with templateExtension := t }),
   ("index_page", .text fun t s => { s with indexPage := t }),
   ("dev_host", .text fun t s => { s with devHost := t }),
   ("dev_port", .whole fun n s => { s with devPort := n }),
   ("vite_dev_url", .text fun t s => { s with bundlerUrl := t }),
   ("live_reload_path", .text fun t s => { s with liveReloadPath := t }),
   ("sse_keepalive_s", .number fun x s => { s with keepAlive := x }),
   ("shutdown_grace_s", .number fun x s => { s with shutdownGrace := x }),
   ("debounce_ms", .whole fun n s => { s with debounce := n }),
   ("watch_extensions", .list fun ts s => { s with watchExtensions := ts }),
   ("bundled_extensions", .list fun ts s => { s with bundledExtensions := ts }),
   ("bundler_grace_s", .number fun x s => { s with bundlerGrace := x }),
   ("bundler_startup_s", .number fun x s => { s with bundlerStartup := x }),
   ("script_time_limit", .number fun x s => { s with scriptTimeLimit := some x.toFloat }),
   ("script_memory_limit", .whole fun n s => { s with scriptMemoryLimit := some n })]

/-! ## Sources -/

/-- Where a variable comes from. -/
inductive Source where
  | environment
  | file
  deriving DecidableEq, Repr

/-- The name under which a source is reported. -/
def Source.name : Source → Text
  | .environment => "EnvSettingsSource"
  | .file => "DotEnvSettingsSource"

/-- Why settings cannot be read. -/
inductive Fault where
  /-- A list setting is not JSON. -/
  | notJson (field : Text) (source : Source)
  | invalid (issues : List Issue)
  deriving DecidableEq, Repr

/-- The wording of a fault; invalid values are reported by their issues instead. -/
def Fault.message : Fault → Text
  | .notJson field source =>
      "error parsing value for field \"" ++ field ++ "\" from source \"" ++ source.name ++ "\""
  | .invalid _ => []

/-- What variable names begin with, in lower case. -/
def variablePrefix : Text := "vaayu_"

/-- Variables by lower-case name; of two with one name the later counts. -/
def foldNames (given : List (Text × Text)) : List (Text × Text) :=
  given.foldl (fun known v => setMember (Text.asciiLower v.1) v.2 known) []

/-- The values that a source gives for the settings. A list is read as JSON; `null` gives
    nothing. -/
def valuesOf (source : Source) (given : List (Text × Text)) :
    List (Text × Setter) → Except Fault (List (Text × Raw))
  | [] => .ok []
  | (name, setter) :: rest =>
      match member? (variablePrefix ++ name) given with
      | none => valuesOf source given rest
      | some text =>
          match setter with
          | .list _ =>
              match Json.read? text with
              | none => .error (.notJson name source)
              | some .null => valuesOf source given rest
              | some j => (valuesOf source given rest).map ((name, .data j) :: ·)
          | _ => (valuesOf source given rest).map ((name, .text text) :: ·)

/-- The variables of a file that belong to no setting. Empty ones, and bare names of settings, are
    passed over. -/
def strangers (given : List (Text × Text)) : List Text :=
  let known := fields.map (·.1)
  let prefixed := known.map (variablePrefix ++ ·)
  (given.filter fun v =>
    ¬ v.2.isEmpty ∧ ¬ prefixed.contains v.1 ∧ ¬ known.contains v.1).map (·.1)

/-- One change after another, with the issues of both. -/
def andThen (first second : Checked (Settings → Settings)) : Checked (Settings → Settings) :=
  Checked.both (first.map fun f g s => g (f s)) second

/-- The settings that environment and file give together. -/
def ofVariables (environment file : List (Text × Text)) : Except Fault Settings := do
  let environment := foldNames environment
  let file := foldNames file
  let first ← valuesOf .environment environment fields
  let second ← valuesOf .file file fields
  let put (changes : Checked (Settings → Settings)) (field : Text × Setter) :
      Checked (Settings → Settings) :=
    match (member? field.1 first).or (member? field.1 second) with
    | none => changes
    | some value => andThen changes (Checked.under (.member field.1) (field.2.put value))
  let changed := fields.foldl put (.ok id)
  let extra := (strangers file).map fun name => ⟨[.member name], .extraForbidden⟩
  match changed, extra with
  | .ok change, [] => .ok (change {})
  | .ok _, extra => .error (.invalid extra)
  | .error issues, extra => .error (.invalid (issues ++ extra))

end Settings
end PageLoom
