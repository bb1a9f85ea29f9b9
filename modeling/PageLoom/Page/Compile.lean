import PageLoom.AssetUrl
import PageLoom.Directive
import PageLoom.Injection
import PageLoom.Page.Engine
import PageLoom.Template

set_option autoImplicit false

/-! # Compiling pages

A template is parsed, its declarations run, and then its markers are worked off from the last to
the first. A recognised directive is never run as a script: it leaves no text behind and adds a
tag. Any other marker is replaced by what its evaluation gives, and its imports are those recorded
meanwhile. Every marker's part is kept under its offset, so that imports and tags come out in the
order of the source all the same: first what the declarations imported, then marker by marker. -/

namespace PageLoom

/-- A compiled page. -/
structure Page where
  html : Text
  /-- Stylesheets the page imports, in the order of the source. -/
  stylesheets : List Text
  /-- Scripts the page imports, in the order of the source. -/
  scripts : List Text
  deriving DecidableEq, Repr

/-- Why a template has no page. -/
inductive CompileFault where
  | page (e : PageError)
  /-- The pattern of a directive's tag cannot be filled. -/
  | tag (fault : Placeholder.Fault)
  /-- What is no failure of a page: the engine broke down, or a path is none. -/
  | escaped (kind report : Text)
  deriving DecidableEq

namespace CompileFault

/-- The message of a fault. -/
def message : CompileFault → Text
  | page e => e.report
  | tag fault => fault.message
  | escaped _ report => report

/-- The fault with the template's path, where it can hold one. -/
def inFile (file : Text) : CompileFault → CompileFault
  | page e => page (e.inFile file)
  | other => other

/-- The fault of a script: what the script did is a failure of the page, reported as given. -/
def ofScript (report : Text → PageError) : Engine.Fault → CompileFault
  | .stopped text => page (report text)
  | .escaped kind text => escaped kind text

end CompileFault

/-- What one marker contributes. -/
structure Replacement where
  /-- The text that takes the marker's place. -/
  text : Text
  /-- The tags it adds, by kind. -/
  tags : Imports
  imports : Imports
  deriving DecidableEq, Repr

namespace Page

/-- What a compile works with, the script engine apart. -/
structure Context where
  registry : Registry
  options : CompileOptions
  /-- The working directory. -/
  cwd : Text
  /-- The template's path. -/
  file : Text
  /-- Path of the live-reload stream. -/
  reloadPath : Text

/-- The state of a compile. -/
structure Progress (σ : Type) where
  engine : σ
  /-- What scripts imported so far, in the order of the calls. -/
  recorded : Imports
  notes : List Entry

/-- A step of a compile. -/
abbrev Step (σ : Type) := ExceptT CompileFault (StateM (Progress σ))

variable {σ : Type}

/-- The state in which a compile begins. -/
def Progress.start (engine : σ) : Progress σ := ⟨engine, .none, []⟩

/-- The result of a step that begins in a state, and the state it leaves. -/
def outcome {α : Type} (step : Step σ α) (p : Progress σ) : Except CompileFault α × Progress σ :=
  step.run.run p

/-- Makes a note. -/
def note (entry : Entry) : Step σ Unit := modify fun p => { p with notes := p.notes ++ [entry] }

/-- Asks the engine; what scripts import meanwhile is recorded. -/
def ask {α : Type} (request : σ → Reply α × σ) : Step σ (Except Engine.Fault α) := do
  let p ← getThe (Progress σ)
  let (reply, s) := request p.engine
  set ({ p with engine := s, recorded := p.recorded.append reply.imports } : Progress σ)
  return reply.result

/-- What scripts imported so far. -/
def recorded : Step σ Imports := do
  return (← getThe (Progress σ)).recorded

/-- The result of a script, or the failure of the page. -/
def resultOf {α : Type} (report : Text → PageError) (result : Except Engine.Fault α) : Step σ α :=
  match result with
  | .ok a => return a
  | .error fault => throw (.ofScript report fault)

/-- Runs the declarations and tells their imports; without any, the engine is left alone. -/
def declarations (engine : Engine σ) (code : Text) : Step σ Imports := do
  if ¬ code.isEmpty then
    resultOf .failedDeclarations (← ask (engine.declare code))
  recorded

/-- The part of a recognised directive. -/
def directive (c : Context) (call : Directive.Call) (d : Directive) : Step σ Replacement := do
  let url := AssetUrl.resolve c.cwd call.path c.file c.options
  note (AssetUrl.note call.path url)
  match d.render url with
  | .ok tag => return ⟨[], .ofKind d.kind [tag], .ofKind d.kind [call.path]⟩
  | .error fault => throw (.tag fault)

/-- The part of a marker that is a script. Its imports are what was recorded during its
    evaluation. -/
def evaluated (engine : Engine σ) (raw : Text) : Step σ Replacement := do
  let before ← recorded
  let text ← resultOf (.failedExpression raw) (← ask (engine.evaluate raw))
  return ⟨text, .none, before.since (← recorded)⟩

/-- The part of a marker. -/
def replacement (engine : Engine σ) (c : Context) (e : Expression) : Step σ Replacement :=
  match c.registry.match? e.raw with
  | some (call, d) => directive c call d
  | none => evaluated engine e.raw

/-- The text with one marker replaced. -/
def splice (e : Expression) (r : Replacement) (text : Text) : Text :=
  text.take e.start ++ r.text ++ text.drop e.stop

/-- Puts a part under its offset, among parts in ascending order; a part that is there already
    gives way. -/
def putPart (offset : Nat) (r : Replacement) : List (Nat × Replacement) → List (Nat × Replacement)
  | [] => [(offset, r)]
  | (known, old) :: rest =>
      if offset < known then (offset, r) :: (known, old) :: rest
      else if offset = known then (offset, r) :: rest
      else (known, old) :: putPart offset r rest

/-- A page in the making. -/
structure Draft where
  /-- The body, with the markers replaced that were worked off. -/
  text : Text
  /-- The part of each of them under its offset, in ascending order. -/
  parts : List (Nat × Replacement)

/-- The markers from the last to the first, so that the offsets of the markers to come stay
    right. -/
def lastFirst (es : List Expression) : List Expression := es.mergeSort fun a b => b.start ≤ a.start

/-- Works markers off, one after the other. -/
def workOff (engine : Engine σ) (c : Context) : List Expression → Draft → Step σ Draft
  | [], d => return d
  | e :: rest, d => do
      let r ← replacement engine c e
      workOff engine c rest ⟨splice e r d.text, putPart e.start r d.parts⟩

/-- The closing note of a compile. -/
def summary (file : Text) (markers : Nat) (p : Page) : Text :=
  "Compiled " ++ file ++ ": " ++ Text.ofNat markers ++ " expressions, " ++
    Text.ofNat p.stylesheets.length ++ " css, " ++ Text.ofNat p.scripts.length ++ " js"

/-- The script that reloads a page, in dev mode. -/
def reload (c : Context) : Option Text :=
  if c.options.devMode then some (Injection.reloadScript c.reloadPath) else none

/-- The page of a draft whose markers are all worked off. -/
def assemble (c : Context) (declared : Imports) (d : Draft) : Page :=
  let tags := Imports.concat (d.parts.map (·.2.tags))
  let imports := declared.append (Imports.concat (d.parts.map (·.2.imports)))
  { html := Injection.inject d.text tags.stylesheets tags.scripts (reload c)
    stylesheets := imports.stylesheets
    scripts := imports.scripts }

/-- Compiles a source. -/
def ofSource (engine : Engine σ) (c : Context) (source : Text) : Step σ Page := do
  match Template.parse source with
  | .error e => throw (.page e)
  | .ok t =>
      let declared ← declarations engine t.declarations
      let draft ← workOff engine c (lastFirst t.expressions) ⟨t.body, []⟩
      let page := assemble c declared draft
      note (.debug 3 (summary c.file t.expressions.length page))
      return page

/-- Compiles a source; failures tell the template's path. -/
def compile (engine : Engine σ) (c : Context) (source : Text) : Step σ Page := do
  note (.debug 2 ("Compiling " ++ c.file))
  tryCatch (ofSource engine c source) fun fault => throw (fault.inFile c.file)

/-- The result of a compile and the notes made on the way. -/
def run (engine : Engine σ) (start : σ) (c : Context) (source : Text) :
    Except CompileFault Page × List Entry :=
  let (result, p) := outcome (compile engine c source) (.start start)
  (result, p.notes)

/-- A compile with an engine of its own, under the given settings. -/
def ofText (host : EngineHost) (settings : Settings) (registry : Registry)
    (options : CompileOptions) (cwd file : Text) (source : Text) :
    Except CompileFault Page × List Entry :=
  run host.engine (host.start settings file)
    ⟨registry, options, cwd, file, settings.liveReloadPath⟩ source

end Page
end PageLoom
