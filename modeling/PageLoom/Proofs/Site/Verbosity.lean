import PageLoom.Proofs.Site.Output

set_option autoImplicit false

/-! # Notes that are not shown

Two workspaces show the same at a verbosity when they differ at most in notes it does not show. No
step of a build tells them apart: from such workspaces it ends the same and leaves such workspaces
(`Stateful.Steady`). Each function of a build has its lemma, up to the build as a whole
(`Build.steady_run`). -/

namespace PageLoom

open Stateful SitePath

variable {v : Int}

/-- Two workspaces that differ at most in notes a verbosity does not show. -/
structure SameShown (v : Int) (w w' : Workspace) : Prop where
  tree : w.tree = w'.tree
  npm : w.npm = w'.npm
  commands : w.commands = w'.commands
  notes : shownEntries v w.notes = shownEntries v w'.notes

theorem SameShown.refl (w : Workspace) : SameShown v w w := ⟨rfl, rfl, rfl, rfl⟩

namespace Work

theorem steady_note (e : Entry) : Steady (SameShown v) (note e) := by
  refine steady_modify fun w w' h => ⟨h.tree, h.npm, h.commands, ?_⟩
  rw [shownEntries_append, shownEntries_append, h.notes]

theorem steady_setTree (tree : FileTree) : Steady (SameShown v) (setTree tree) :=
  steady_modify fun _ _ h => ⟨rfl, h.npm, h.commands, h.notes⟩

theorem steady_onFiles (operation : FileTree → FileTree × Except FileFault Unit) :
    Steady (SameShown v) (onFiles operation) := by
  refine steady_get_bind fun w w' h => ⟨by rw [h.tree], ?_⟩
  refine (steady_setTree _).bind fun _ => ?_
  split
  · exact steady_pure _
  · exact steady_throw _

theorem steady_makeDirectories (path : Text) : Steady (SameShown v) (makeDirectories path) :=
  steady_onFiles _

/-- Notes made one after the other. -/
theorem steady_notes (entries : List Entry) :
    Steady (SameShown v) (forIn entries PUnit.unit fun e _ => do
      note e
      pure (ForInStep.yield PUnit.unit) : Work PUnit) := by
  induction entries with
  | nil => exact steady_pure _
  | cons e rest ih =>
      rw [List.forIn_cons]
      exact ((steady_note e).bind fun _ => steady_pure _).bind fun
        | .yield _ => ih
        | .done _ => steady_pure _

end Work

/-! ## The bundler -/

namespace Npm

open Work

theorem steady_requireSuccess (npm : Npm) (words : Text) :
    Steady (SameShown v) (requireSuccess npm words) := by
  unfold requireSuccess
  split
  · exact steady_throw _
  · split
    · split
      · exact steady_throw _
      · exact steady_pure _
    · exact steady_pure _

theorem steady_command (c : NpmCommand) :
    Steady (SameShown v)
      (modify fun w => { w with commands := w.commands ++ [c] } : Work Unit) :=
  steady_modify fun _ _ h => ⟨h.tree, h.npm, by rw [h.commands], h.notes⟩

theorem steady_run (arguments : List Text) (directory : Text) :
    Steady (SameShown v) (run arguments directory) := by
  refine (steady_note _).bind fun _ => (steady_command _).bind fun _ =>
    steady_get_bind fun w w' h => ⟨by rw [h.npm], ?_⟩
  refine (steady_requireSuccess _ _).bind fun _ => ?_
  split
  · exact steady_get_bind fun _ _ h => ⟨by rw [h.tree], steady_setTree _⟩
  · exact steady_pure _

theorem steady_ensureDependencies (directory : Text) :
    Steady (SameShown v) (ensureDependencies directory) := by
  refine steady_get_bind fun w w' h => ⟨by rw [h.tree], ?_⟩
  split
  · exact steady_pure _
  · exact (steady_note _).bind fun _ => steady_run _ _
  · exact steady_throw _

theorem steady_bundle (directory dist : Text) : Steady (SameShown v) (bundle directory dist) :=
  (steady_makeDirectories _).bind fun _ => steady_run _ _

end Npm

/-! ## Pages and copies -/

namespace Build

open Work

variable {b : Build} {manifest : List (Text × Text)}

theorem steady_place (path : Text) (operation : FileTree → FileTree × Except FileFault Unit) :
    Steady (SameShown v) (place path operation) :=
  (steady_makeDirectories _).bind fun _ => steady_onFiles _

theorem steady_writeFile (path : Text) (content : Octets) :
    Steady (SameShown v) (writeFile path content) :=
  steady_place path (·.write path content)

theorem steady_copyFile (source target : Text) : Steady (SameShown v) (copyFile source target) :=
  steady_place target (·.copy source target)

theorem steady_filing {step : Work Unit} (h : Steady (SameShown v) step) (rel : Text)
    (reason : FileFault → Text) : Steady (SameShown v) (filing rel reason step) :=
  h.tryCatch fun fault => by cases fault <;> exact steady_throw _

theorem steady_compilePage (rel : Text) : Steady (SameShown v) (b.compilePage manifest rel) := by
  refine steady_get_bind fun w w' h => ⟨by rw [h.tree], ?_⟩
  generalize Page.ofFile b.host b.settings (b.options manifest) w'.tree (child b.site rel) =
    compiled
  obtain ⟨result, notes⟩ := compiled
  refine (steady_notes notes).bind fun _ => ?_
  split
  · exact steady_throw _
  · exact (steady_filing (steady_writeFile _ _) _ _).bind fun _ =>
      (steady_note _).bind fun _ => steady_pure _

theorem steady_copyAsset (rel : Text) : Steady (SameShown v) (b.copyAsset rel) :=
  (steady_filing (steady_copyFile _ _) _ _).bind fun _ =>
    (steady_note _).bind fun _ => steady_pure _

/-! ## The build -/

theorem steady_visit {β : Type} {keep : Text → Bool} {step : Text → Work β}
    (h : ∀ rel, Steady (SameShown v) (step rel)) : Steady (SameShown v) (b.visit keep step) := by
  have hgo : ∀ site dist fuel names,
      Steady (SameShown v) (visit.go b keep step site dist fuel names) := by
    intro site dist fuel
    induction fuel with
    | zero => exact fun _ => steady_pure _
    | succ fuel ih =>
        intro names
        refine steady_get_bind fun w w' hw => ⟨by rw [hw.tree], ?_⟩
        dsimp only
        split
        · exact steady_pure _
        exact (Steady.mapM h _).bind fun own =>
          (Steady.mapM (fun name => ih (names ++ [name])) _).bind fun inner => steady_pure _
  refine steady_get_bind fun w w' hw => ⟨by rw [hw.tree], ?_⟩
  dsimp only
  split
  · exact hgo _ _ _ _
  · exact steady_pure _

theorem steady_prepare : Steady (SameShown v) b.prepare := by
  unfold prepare
  split
  · exact (Npm.steady_ensureDependencies _).bind fun _ =>
      (steady_note _).bind fun _ => Npm.steady_bundle _ _
  · exact steady_makeDirectories _

theorem steady_loadManifest : Steady (SameShown v) b.loadManifest := by
  refine steady_get_bind fun w w' h => ⟨by rw [h.tree], ?_⟩
  split
  · exact (steady_note _).bind fun _ => steady_pure _
  · exact steady_throw _

/-- A build does not heed notes that are not shown. -/
theorem steady_run : Steady (SameShown v) b.run :=
  (steady_note _).bind fun _ => steady_prepare.bind fun _ =>
    steady_loadManifest.bind fun _ => (steady_note _).bind fun _ =>
      (steady_visit steady_compilePage).bind fun _ => (steady_note _).bind fun _ =>
        (steady_visit steady_copyAsset).bind fun _ => (steady_note _).bind fun _ => steady_pure _

end Build
end PageLoom
