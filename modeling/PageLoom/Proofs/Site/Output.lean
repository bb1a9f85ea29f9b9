import PageLoom.Proofs.Page.Content
import PageLoom.Proofs.Stateful
import PageLoom.Site.Build

set_option autoImplicit false

/-! # What building one file changes

A page or a copy is written at one location of the output directory. Whether that succeeds or not,
every other file stays as it is. -/

namespace PageLoom

open Stateful SitePath

/-- Between two workspaces, files change at some locations only; paths begin where they begin in a
    given tree. -/
def Confined (base : FileTree) (locations : Location → Prop) (w w' : Workspace) : Prop :=
  w.tree.Lawful → w.tree.cwd = base.cwd → FileTree.Touches locations w.tree w'.tree

variable {base tree tree' : FileTree} {locations : Location → Prop} {w w' : Workspace}
  {path : Text} {content : Octets}

namespace Confined

theorem refl (w : Workspace) : Confined base locations w w := fun _ _ => .refl _ _

theorem trans (w₁ w₂ w₃ : Workspace) (h : Confined base locations w₁ w₂)
    (h' : Confined base locations w₂ w₃) : Confined base locations w₁ w₃ := by
  intro hlawful hcwd
  have hfirst := h hlawful hcwd
  exact hfirst.trans (h' (hfirst.lawful hlawful) (hfirst.cwd.trans hcwd))

end Confined

/-! ## Steps of work -/

theorem leaves_note (e : Entry) : Leaves (Confined base locations) (Work.note e) :=
  fun _ _ _ => .refl _ _

/-- A workspace with one more note. -/
def Workspace.noted (w : Workspace) (e : Entry) : Workspace := { w with notes := w.notes ++ [e] }

theorem gives_note_iff {e : Entry} {u : Unit} :
    Gives (Work.note e) w u w' ↔ w' = w.noted e :=
  gives_modify_iff

theorem outcome_onFiles (operation : FileTree → FileTree × Except FileFault Unit)
    (w : Workspace) :
    outcome (Work.onFiles operation) w =
      ((operation w.tree).2.mapError .file, { w with tree := (operation w.tree).1 }) := by
  rw [Work.onFiles, outcome_bind, outcome_get]
  dsimp only
  rcases operation w.tree with ⟨after, fault | ⟨⟩⟩ <;> rfl

theorem gives_onFiles_iff {operation : FileTree → FileTree × Except FileFault Unit} {u : Unit} :
    Gives (Work.onFiles operation) w u w' ↔
      ∃ after, operation w.tree = (after, .ok ()) ∧ w' = { w with tree := after } := by
  unfold Gives
  rw [outcome_onFiles]
  rcases operation w.tree with ⟨after, fault | ⟨⟩⟩ <;> simp [Except.mapError, eq_comm]

theorem gives_makeDirectories_iff {u : Unit} :
    Gives (Work.makeDirectories path) w u w' ↔
      (w.tree.makeDirectories path).2 = .ok () ∧
        w' = { w with tree := (w.tree.makeDirectories path).1 } := by
  rw [Work.makeDirectories, gives_onFiles_iff]
  rcases w.tree.makeDirectories path with ⟨made, result⟩
  simp

/-- What an operation changes is what it changes of the files, whether it succeeds or not. -/
theorem leaves_onFiles {operation : FileTree → FileTree × Except FileFault Unit}
    (h : ∀ tree : FileTree, tree.Lawful → tree.cwd = base.cwd →
      FileTree.Touches locations tree (operation tree).1) :
    Leaves (Confined base locations) (Work.onFiles operation) := by
  intro w hlawful hcwd
  rw [outcome_onFiles]
  exact h w.tree hlawful hcwd

theorem leaves_makeDirectories (path : Text) :
    Leaves (Confined base locations) (Work.makeDirectories path) :=
  leaves_onFiles fun tree _ _ => (tree.touches_makeDirectories path).1.mono fun _ => False.elim

/-- A file operation at a place for which the directories are made first. -/
def place (path : Text) (operation : FileTree → FileTree × Except FileFault Unit) : Work Unit := do
  Work.makeDirectories (FileTree.above path)
  Work.onFiles operation

theorem writeFile_eq (path : Text) (content : Octets) :
    Build.writeFile path content = place path (·.write path content) := rfl

theorem copyFile_eq (source target : Text) :
    Build.copyFile source target = place target (·.copy source target) := rfl

theorem leaves_place {operation : FileTree → FileTree × Except FileFault Unit}
    (h : ∀ tree : FileTree, tree.Lawful → tree.cwd = base.cwd →
      FileTree.Touches locations tree (operation tree).1) (path : Text) :
    Leaves (Confined base locations) (place path operation) :=
  leaves_bind Confined.trans (leaves_makeDirectories _) fun _ => leaves_onFiles h

theorem gives_place_iff {operation : FileTree → FileTree × Except FileFault Unit} {u : Unit} :
    Gives (place path operation) w u w' ↔
      (w.tree.makeDirectories (FileTree.above path)).2 = .ok () ∧
        ∃ after, operation (w.tree.makeDirectories (FileTree.above path)).1 = (after, .ok ()) ∧
          w' = { w with tree := after } := by
  rw [place, gives_bind_iff]
  simp only [gives_makeDirectories_iff, gives_onFiles_iff]
  constructor
  · rintro ⟨_, _, ⟨hmade, rfl⟩, h⟩
    exact ⟨hmade, h⟩
  · rintro ⟨hmade, h⟩
    exact ⟨(), _, ⟨hmade, rfl⟩, h⟩

theorem Stateful.Gives.place {operation : FileTree → FileTree × Except FileFault Unit} {u : Unit}
    (h : Gives (place path operation) w u w') :
    ∃ made, FileTree.Touches (fun _ => False) w.tree made ∧ operation made = (w'.tree, .ok ()) := by
  obtain ⟨-, after, hafter, rfl⟩ := gives_place_iff.1 h
  exact ⟨_, (w.tree.touches_makeDirectories _).1, hafter⟩

/-- Naming the file of a failure changes no files. -/
theorem leaves_filing {step : Work Unit} (h : Leaves (Confined base locations) step) (rel : Text)
    (reason : FileFault → Text) : Leaves (Confined base locations) (Build.filing rel reason step) :=
  leaves_tryCatch Confined.trans h fun fault => by
    cases fault <;> exact leaves_throw Confined.refl _

theorem gives_filing_iff {rel : Text} {reason : FileFault → Text} {step : Work Unit} {u : Unit} :
    Gives (Build.filing rel reason step) w u w' ↔ Gives step w u w' :=
  gives_tryCatch_iff fun fault _ => by cases fault <;> exact not_gives_throw

theorem outcome_notes (entries : List Entry) (w : Workspace) :
    outcome (forIn entries PUnit.unit fun e _ => do
        Work.note e
        pure (ForInStep.yield PUnit.unit) : Work PUnit) w =
      (.ok (), { w with notes := w.notes ++ entries }) := by
  induction entries generalizing w with
  | nil => simp [outcome_pure]
  | cons e rest ih =>
      rw [List.forIn_cons, outcome_bind, outcome_bind]
      refine (ih { w with notes := w.notes ++ [e] }).trans ?_
      rw [List.append_assoc]
      rfl

/-! ## Pages -/

variable {b : Build} {manifest : List (Text × Text)} {rel : Text}

/-- Writes a page that is compiled. -/
def writePage (b : Build) (rel : Text) (page : Page) : Work (Text × Text) := do
  let name := Build.outputName b.settings rel
  let target := child b.dist name
  Build.filing rel (fun fault => "failed to write " ++ target ++ ": " ++ fault.message)
    (Build.writeFile target (Utf8.encode page.html))
  Work.note (.debug 1 ("  ✓ " ++ rel ++ " → " ++ name))
  return (rel, name)

/-- A template that compiles has its page written, and another one fails the build. -/
theorem outcome_compilePage (b : Build) (manifest : List (Text × Text)) (rel : Text)
    (w : Workspace) :
    ∃ w₁, w₁.tree = w.tree ∧
      ((∃ fault, outcome (b.compilePage manifest rel) w = (.error fault, w₁)) ∨
        ∃ page,
          (Page.ofFile b.host b.settings (b.options manifest) w.tree (child b.site rel)).1 =
              .ok page ∧
          outcome (b.compilePage manifest rel) w = outcome (writePage b rel page) w₁) := by
  refine ⟨{ w with notes := w.notes ++
    (Page.ofFile b.host b.settings (b.options manifest) w.tree (child b.site rel)).2 }, rfl, ?_⟩
  unfold Build.compilePage
  rw [outcome_bind, outcome_get]
  simp only [outcome_bind, outcome_notes]
  rcases (Page.ofFile b.host b.settings (b.options manifest) w.tree (child b.site rel)).1 with
    fault | page
  · exact .inl ⟨_, rfl⟩
  · exact .inr ⟨page, rfl, rfl⟩

theorem gives_writePage_iff {page : Page} {p : Text × Text} :
    Gives (writePage b rel page) w p w' ↔
      ∃ w₁, Gives (Build.writeFile (child b.dist (Build.outputName b.settings rel))
          (Utf8.encode page.html)) w () w₁ ∧
        w' = w₁.noted (.debug 1 ("  ✓ " ++ rel ++ " → " ++ Build.outputName b.settings rel)) ∧
        p = (rel, Build.outputName b.settings rel) := by
  simp only [writePage, gives_bind_iff, gives_filing_iff, gives_note_iff, gives_pure_iff]
  constructor
  · rintro ⟨_, w₁, hfile, _, _, rfl, rfl, rfl⟩
    exact ⟨w₁, hfile, rfl, rfl⟩
  · rintro ⟨w₁, hfile, rfl, rfl⟩
    exact ⟨(), w₁, hfile, (), _, rfl, rfl, rfl⟩

theorem gives_compilePage_iff {p : Text × Text} :
    Gives (b.compilePage manifest rel) w p w' ↔
      ∃ page,
        (Page.ofFile b.host b.settings (b.options manifest) w.tree (child b.site rel)).1 =
            .ok page ∧
        Gives (writePage b rel page)
          { w with notes := w.notes ++
              (Page.ofFile b.host b.settings (b.options manifest) w.tree (child b.site rel)).2 }
          p w' := by
  unfold Gives Build.compilePage
  rw [outcome_bind, outcome_get]
  simp only [outcome_bind, outcome_notes]
  rcases (Page.ofFile b.host b.settings (b.options manifest) w.tree (child b.site rel)).1 with
    fault | page
  · constructor
    · exact fun h => absurd h nofun
    · rintro ⟨page, ⟨⟩, -⟩
  · constructor
    · exact fun h => ⟨page, rfl, h⟩
    · rintro ⟨_, ⟨⟩, h⟩
      exact h

theorem gives_copyAsset_iff {asset : Text} :
    Gives (b.copyAsset rel) w asset w' ↔
      ∃ w₁, Gives (Build.copyFile (child b.site rel) (child b.dist rel)) w () w₁ ∧
        w' = w₁.noted (.debug 1 ("  ✓ " ++ rel ++ " (static)")) ∧ asset = rel := by
  simp only [Build.copyAsset, gives_bind_iff, gives_filing_iff, gives_note_iff, gives_pure_iff]
  constructor
  · rintro ⟨_, w₁, hfile, _, _, rfl, rfl, rfl⟩
    exact ⟨w₁, hfile, rfl, rfl⟩
  · rintro ⟨w₁, hfile, rfl, rfl⟩
    exact ⟨(), w₁, hfile, (), _, rfl, rfl, rfl⟩

theorem touches_write_of (hpath : locations (base.resolve path)) (tree : FileTree)
    (hlawful : tree.Lawful) (hcwd : tree.cwd = base.cwd) :
    FileTree.Touches locations tree (tree.write path content).1 :=
  (FileTree.touches_write hlawful.cwd path content).mono fun l hl => by
    rwa [hl, FileTree.resolve_congr hcwd]

theorem touches_copy_of {source target : Text} (htarget : locations (base.resolve target))
    (tree : FileTree) (hlawful : tree.Lawful) (hcwd : tree.cwd = base.cwd) :
    FileTree.Touches locations tree (tree.copy source target).1 :=
  (FileTree.touches_copy hlawful.cwd source target).mono fun l hl => by
    rwa [hl, FileTree.resolve_congr hcwd]

theorem leaves_writeFile (path : Text) (content : Octets)
    (hpath : locations (base.resolve path)) :
    Leaves (Confined base locations) (Build.writeFile path content) := by
  rw [writeFile_eq]
  exact leaves_place (touches_write_of hpath) path

theorem leaves_copyFile (source target : Text) (htarget : locations (base.resolve target)) :
    Leaves (Confined base locations) (Build.copyFile source target) := by
  rw [copyFile_eq]
  exact leaves_place (touches_copy_of htarget) target

/-- Compiling a page changes no file but the page. -/
theorem leaves_compilePage (b : Build) (manifest : List (Text × Text)) (rel : Text)
    (hpage : locations (base.resolve (child b.dist (Build.outputName b.settings rel)))) :
    Leaves (Confined base locations) (b.compilePage manifest rel) := by
  intro w hlawful hcwd
  have hwrite : ∀ page, Leaves (Confined base locations) (writePage b rel page) := fun page =>
    leaves_bind Confined.trans (leaves_filing (leaves_writeFile _ _ hpage) _ _) fun _ =>
      leaves_bind Confined.trans (leaves_note _) fun _ => leaves_pure Confined.refl _
  obtain ⟨w₁, htree, ⟨fault, hfail⟩ | ⟨page, -, hdone⟩⟩ := outcome_compilePage b manifest rel w
  · rw [hfail, ← htree]
    exact .refl _ _
  · rw [hdone, ← htree]
    rw [← htree] at hlawful hcwd
    exact hwrite page w₁ hlawful hcwd

/-- Copying a file changes no file but the copy. -/
theorem leaves_copyAsset (b : Build) (rel : Text)
    (hcopy : locations (base.resolve (child b.dist rel))) :
    Leaves (Confined base locations) (b.copyAsset rel) :=
  leaves_bind Confined.trans (leaves_filing (leaves_copyFile _ _ hcopy) _ _) fun _ =>
    leaves_bind Confined.trans (leaves_note _) fun _ => leaves_pure Confined.refl _

/-! ## What is there afterwards -/

theorem Stateful.Gives.writeFile {u : Unit} (h : Gives (Build.writeFile path content) w u w') :
    w'.tree.find path = .ok (some (.file content)) := by
  rw [writeFile_eq] at h
  obtain ⟨made, -, hwrite⟩ := h.place
  exact FileTree.find_of_write hwrite

theorem Stateful.Gives.copyFile {source target : Text} {u : Unit}
    (h : Gives (Build.copyFile source target) w u w') (hlawful : w.tree.Lawful)
    (hapart : w.tree.resolve source ≠ w.tree.resolve target) :
    ∃ content, w'.tree.read source = .ok content ∧
      w'.tree.find target = .ok (some (.file content)) := by
  rw [copyFile_eq] at h
  obtain ⟨made, hmade, hcopy⟩ := h.place
  obtain ⟨-, content, hread, hwrite⟩ := FileTree.copy_eq_ok_iff.1 hcopy
  have hcwd := (hmade.lawful hlawful).cwd
  have htouches := FileTree.touches_write hcwd target content
  rw [hwrite] at htouches
  refine ⟨content, htouches.read hcwd ?_ hread, FileTree.find_of_write hwrite⟩
  rwa [hmade.resolve, hmade.resolve]

/-- The page of a template file stays the same while the file does. -/
theorem Page.ofFile_of_touches {host : EngineHost} {settings : Settings} {options : CompileOptions}
    {file : Text} {page : Page} (h : FileTree.Touches locations tree tree')
    (hlawful : tree.Lawful) (hout : ¬ locations (tree.resolve file))
    (hpage : (Page.ofFile host settings options tree file).1 = .ok page) :
    (Page.ofFile host settings options tree' file).1 = .ok page := by
  obtain ⟨content, hread⟩ := Page.exists_read_of_ofFile hpage
  rwa [Page.ofFile_congr_of_read h.cwd hread (h.read hlawful.cwd hout hread)]

end PageLoom
