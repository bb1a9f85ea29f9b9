import PageLoom.Injection
import PageLoom.PageError
import PageLoom.Settings

set_option autoImplicit false

/-! # The diagnostic page

A page that cannot be compiled is answered with a page that shows the report and, if the template
could be read, a listing of it, which someone else makes. It carries the reload script too, so that
the browser recovers on its own once the template is mended. -/

namespace PageLoom
namespace ErrorPage

/-- The report of an error, with the excerpt around an unclosed marker. -/
def details : SiteError → Text
  | .page e =>
      let excerpt := e.context PageError.contextWidth
      if excerpt.isEmpty then e.report else e.report ++ "\n\n" ++ excerpt
  | e => e.report

/-- The part of the page that shows the template. -/
def sourceSection (listing : Text → Text) : Option Text → Text
  | some source => "\n<h2>Source</h2>\n" ++ listing source
  | none => []

/-- The whole page. -/
def render (settings : Settings) (listing : Text → Text) (e : SiteError) (source : Option Text) :
    Text :=
  "<!DOCTYPE html>\n<html>\n<head><title>Compile Error</title></head>\n<body>\n" ++
    "<h1>Compile Error</h1>\n" ++
    "<pre style=\"color: red; background: #fee; padding: 1em; border-radius: 4px;\">" ++
    Text.escapeMarkup (details e) ++ "</pre>" ++ sourceSection listing source ++ "\n" ++
    Injection.reloadScript settings.liveReloadPath ++ "</body>\n</html>\n"

end ErrorPage
end PageLoom
