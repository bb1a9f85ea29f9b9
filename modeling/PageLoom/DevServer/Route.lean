import PageLoom.DevServer.ContentType
import PageLoom.DevServer.ErrorPage
import PageLoom.DevServer.Host
import PageLoom.DevServer.Response
import PageLoom.Page.File

set_option autoImplicit false

/-! # Serving a site

A path is served by the template it names, compiled anew for every request, or else by the file of
that path. Nothing outside of the site is ever served. A page that cannot be compiled is answered
with the diagnostic page. A request is left without any answer if its target cannot be taken apart,
if the system refuses to look for a file, or if a compile breaks down. -/

namespace PageLoom

/-- A site that is served. -/
structure DevSite where
  settings : Settings
  site : Text
  /-- Where the bundler's server listens. -/
  bundlerUrl : Text

/-- What serves a path. -/
inductive Route where
  | template (file : Text)
  | asset (file : Text)
  | missing
  deriving DecidableEq, Repr

/-- Why a request is left without an answer. -/
inductive ServerFault where
  /-- The line is blank. -/
  | blank
  /-- The target cannot be taken apart. -/
  | target
  /-- Whether there is a file cannot be found out. -/
  | lookup (fault : FileFault)
  /-- The compile broke down. -/
  | compile (fault : CompileFault)
  deriving DecidableEq

/-- How a request is answered. -/
inductive ServerAnswer where
  | response (r : Response)
  /-- The live-reload stream. -/
  | stream
  | none (fault : ServerFault)
  deriving DecidableEq

/-- What makes the pages of one request: a compile of a template file, and a listing of a source. -/
structure Renderer where
  compile : Text → Except CompileFault Page × List Entry
  listing : Text → Text

namespace DevSite

/-- The options of all compiles. -/
def options (s : DevSite) : CompileOptions := ⟨true, s.bundlerUrl, [], some s.site⟩

/-- The renderer of the site's templates. -/
def renderer (s : DevSite) (host : EngineHost) (listing : Text → Text) (tree : FileTree) :
    Renderer where
  compile := Page.ofFile host s.settings s.options tree
  listing := listing

/-- The page that a path names: `/` names the index page, and a page may be named with or without
    its `.html`. -/
def pageOf (s : DevSite) (path : Text) : Text :=
  let page := (if path = "/".toList then '/' :: s.settings.indexPage else path).dropWhile (· = '/')
  if ".html".toList.isSuffixOf page then page.take (page.length - 5) else page

/-- The template that a path names. -/
def templateOf (s : DevSite) (path : Text) : Text :=
  SitePath.child s.site (s.settings.templatePath (s.pageOf path))

/-- The file that a path names. -/
def assetOf (s : DevSite) (path : Text) : Text :=
  SitePath.child s.site (path.dropWhile (· = '/'))

/-- Whether a path lies inside the site. -/
def contains (s : DevSite) (tree : FileTree) (path : Text) : Bool :=
  (tree.resolve s.site).isPrefixOf (tree.resolve path)

/-- Whether a path is a file inside the site. The file is looked for first. -/
def serves (s : DevSite) (tree : FileTree) (path : Text) : Except FileFault Bool :=
  (tree.isFile path).map (· && s.contains tree path)

/-- What serves a path. -/
def route (s : DevSite) (tree : FileTree) (path : Text) : Except FileFault Route := do
  if ← s.serves tree (s.templateOf path) then return .template (s.templateOf path)
  else if ← s.serves tree (s.assetOf path) then return .asset (s.assetOf path)
  else return .missing

/-- The response with a compiled page, or with the diagnostic page. -/
def answerPage (s : DevSite) (tree : FileTree) (m : Renderer) (file : Text) :
    ServerAnswer × List Entry :=
  match m.compile file with
  | (.ok page, notes) =>
      (.response (.content 200 "OK" ContentType.page (Utf8.encode page.html)), notes)
  | (.error (.page e), notes) =>
      let source := (Page.readSource tree file).toOption
      let body := ErrorPage.render s.settings m.listing (.page e) source
      (.response (.content 500 "Internal Server Error" ContentType.page (Utf8.encode body)),
        notes ++ [.error ("Compile error: " ++ e.report)])
  | (.error fault, notes) => (.none (.compile fault), notes)

/-- The response with a file. -/
def answerAsset (tree : FileTree) (file : Text) : Response :=
  match tree.read file with
  | .ok octets =>
      .content 200 "OK"
        ((ContentType.ofName? (SitePath.name file)).getD ContentType.unknown) octets
  | .error _ => .notFound

/-- The answer to a request for a path that is decoded already. -/
def answer (s : DevSite) (tree : FileTree) (m : Renderer) (path : Text) :
    ServerAnswer × List Entry :=
  match s.route tree path with
  | .ok (.template file) => s.answerPage tree m file
  | .ok (.asset file) => (.response (answerAsset tree file), [])
  | .ok .missing => (.response .notFound, [])
  | .error fault => (.none (.lookup fault), [])

/-- The answer to a request for a target. -/
def answerTarget (s : DevSite) (tree : FileTree) (m : Renderer) (target : Text) :
    ServerAnswer × List Entry :=
  let path := RequestTarget.encodedPath target
  if ¬ RequestTarget.isSound target then (.none .target, [])
  else if path = s.settings.liveReloadPath then (.stream, [])
  else s.answer tree m (RequestTarget.decode path)

end DevSite
end PageLoom
