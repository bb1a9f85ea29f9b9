import PageLoom.Page.File
import PageLoom.Proofs.FileTree

set_option autoImplicit false

/-! # Pages by the content of their files

Of the files there are, only the template's own goes into its page, and of where it stands only the
path by which it is named. -/

namespace PageLoom
namespace Page

variable {host : EngineHost} {settings : Settings} {options : CompileOptions} {tree : FileTree}
  {file : Text} {content : Octets}

/-- The source that a template file with some content has. -/
def sourceOf (file : Text) (content : Octets) : Except CompileFault Text :=
  match Utf8.decode content with
  | .error fault => .error (.page (.unreadable file fault.message))
  | .ok t => .ok (Text.unifyLineEnds t)

/-- What compiling a template file gives, by its content. -/
def ofContent (host : EngineHost) (settings : Settings) (options : CompileOptions)
    (cwd file : Text) (content : Octets) : Except CompileFault Page × List Entry :=
  match sourceOf file content with
  | .error fault => (.error fault, [])
  | .ok source => ofText host settings Registry.builtIn options cwd file source

theorem readSource_of_read (h : tree.read file = .ok content) :
    readSource tree file = sourceOf file content := by
  rw [readSource, FileTree.read_tidy_eq_ok_iff.2 h]
  rfl

theorem ofFile_of_read (h : tree.read file = .ok content) :
    ofFile host settings options tree file =
      ofContent host settings options tree.cwdText file content := by
  rw [ofFile, readSource_of_read h]
  rfl

/-- A page is a matter of what reading its file gives, whether that fails or not. -/
theorem ofFile_congr {tree' : FileTree} (hcwd : tree'.cwd = tree.cwd)
    (hread : tree'.read (SitePath.tidy file) = tree.read (SitePath.tidy file)) :
    ofFile host settings options tree' file = ofFile host settings options tree file := by
  rw [ofFile, ofFile, readSource, readSource, hread, FileTree.cwdText_congr hcwd]

/-- Files with the same content, read by the same path from the same directory, have the same
    page. -/
theorem ofFile_congr_of_read {tree' : FileTree} (hcwd : tree'.cwd = tree.cwd)
    (hread : tree.read file = .ok content) (hread' : tree'.read file = .ok content) :
    ofFile host settings options tree' file = ofFile host settings options tree file :=
  ofFile_congr hcwd <|
    (FileTree.read_tidy_eq_ok_iff.2 hread').trans (FileTree.read_tidy_eq_ok_iff.2 hread).symm

/-- A template that compiles could be read. -/
theorem exists_read_of_ofFile {page : Page}
    (h : (ofFile host settings options tree file).1 = .ok page) :
    ∃ content, tree.read file = .ok content := by
  rw [ofFile, readSource] at h
  cases hread : tree.read (SitePath.tidy file) with
  | ok content => exact ⟨content, FileTree.read_tidy_eq_ok_iff.1 hread⟩
  | error fault =>
      rw [hread] at h
      cases fault <;> cases h

end Page
end PageLoom
