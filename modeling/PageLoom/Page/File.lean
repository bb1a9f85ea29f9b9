import PageLoom.FileTree
import PageLoom.Page.Compile

set_option autoImplicit false

/-! # Pages of template files

A template file is UTF-8 text, in which any line end counts as a line feed. A file that cannot be
read is a failure of its page. -/

namespace PageLoom
namespace Page

/-- The source of a template file. -/
def readSource (tree : FileTree) (file : Text) : Except CompileFault Text :=
  match tree.read (SitePath.tidy file) with
  | .error (.nullCharacter path) =>
      .error (.escaped (FileFault.nullCharacter path).kind (FileFault.nullCharacter path).message)
  | .error fault => .error (.page (.unreadable file fault.message))
  | .ok octets =>
      match Utf8.decode octets with
      | .error fault => .error (.page (.unreadable file fault.message))
      | .ok t => .ok (Text.unifyLineEnds t)

/-- Compiles a template file. -/
def ofFile (host : EngineHost) (settings : Settings) (options : CompileOptions) (tree : FileTree)
    (file : Text) : Except CompileFault Page × List Entry :=
  match readSource tree file with
  | .error fault => (.error fault, [])
  | .ok source => ofText host settings Registry.builtIn options tree.cwdText file source

end Page
end PageLoom
