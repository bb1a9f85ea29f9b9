import Mathlib.Data.List.Forall2
import Mathlib.Data.List.Perm.Basic
import PageLoom.Proofs.Injection
import PageLoom.Proofs.Injection.Place
import PageLoom.Proofs.Page.Loop
import PageLoom.Proofs.Placeholder

set_option autoImplicit false

/-! # Imports and tags come in the order of the source

The scripts of a page run from the last marker to the first, and what they import is recorded in one
list for all of them. The page has it in the order of its source all the same, each marker with what
its own evaluation imported, and every tag comes from a directive. -/

namespace PageLoom
namespace Page

open Template

variable {σ : Type}

/-- A marker that is a directive of the given kind. -/
def isDirective (c : Context) (kind : AssetKind) (e : Expression) : Bool :=
  (c.registry.match? e.raw).any fun (_, d) => d.kind = kind

/-- The path that a directive names. -/
def Worked.named : Worked → Imports
  | directive kind path _ _ => .ofKind kind [path]
  | script .. => .none

/-- The imports and the tags of a page in the order of its source. The scripts imported `all`, in
    the order of the calls. -/
structure InSourceOrder (c : Context) (t : Template) (declared : Imports) (ws : List Worked)
    (all : Imports) (page : Page) : Prop where
  stylesheets : page.stylesheets = declared.stylesheets ++ ws.flatMap (·.imports.stylesheets)
  scripts : page.scripts = declared.scripts ++ ws.flatMap (·.imports.scripts)
  /-- The declarations ran first, and then the last marker, and the first marker ran last. -/
  recorded : all = declared.append (Imports.concat (ws.reverse.map (·.recorded)))
  /-- Nothing that scripts imported is lost or repeated; the directives add what they name. -/
  stylesheets_perm : page.stylesheets.Perm
    (all.stylesheets ++ ws.flatMap (·.named.stylesheets))
  scripts_perm : page.scripts.Perm (all.scripts ++ ws.flatMap (·.named.scripts))
  /-- The page is the text with all markers replaced and one block of tags in it, a line to each. -/
  block : ∃ before lineFeed after, weave t.gaps (ws.map (·.text)) = before ++ after ∧
    (lineFeed = [] ∨ lineFeed = ['\n']) ∧
    page.html = before ++ lineFeed ++ Injection.lines c (ws.filterMap (·.tag? .stylesheet))
      (ws.filterMap (·.tag? .script)) ++ after
  /-- A marker has a tag in the block exactly if it is a directive. -/
  tags : List.Forall₂ (fun e w => ∀ kind, (w.tag? kind).isSome = isDirective c kind e)
    t.expressions ws

/-! ## What a marker contributes -/

/-- The imports of a marker are those of its scripts, or the path of a directive. -/
theorem Worked.imports_eq (w : Worked) : w.imports = w.recorded.append w.named := by
  cases w with
  | directive kind path url tag => exact (Imports.none_append _).symm
  | script text imports => exact (Imports.append_none _).symm

theorem Works.isSome_tag? {engine : Engine σ} {c : Context} {e : Expression} {s s' : σ}
    {w : Worked} (h : Works engine c e s w s') (kind : AssetKind) :
    (w.tag? kind).isSome = isDirective c kind e := by
  cases h with
  | @directive call d _ hmatch _ =>
      rw [isDirective, hmatch]
      by_cases hkind : d.kind = kind <;> simp [Worked.tag?, hkind]
  | script hmatch _ =>
      rw [isDirective, hmatch]
      rfl

theorem WorksOff.tags {engine : Engine σ} {c : Context} {es : List Expression} {s s' : σ}
    {ws : List Worked} (h : WorksOff engine c es s ws s') :
    List.Forall₂ (fun e w => ∀ kind, (w.tag? kind).isSome = isDirective c kind e) es ws := by
  induction h with
  | nil => exact .nil
  | cons _ hworks ih => exact .cons hworks.isSome_tag? ih

/-! ## The order -/

/-- Two parts of every element, taken apart, the first ones in the reverse order. -/
theorem flatMap_append_perm_reverse {α β : Type} (l : List α) (f g : α → List β) :
    (l.flatMap fun a => f a ++ g a).Perm (l.reverse.flatMap f ++ l.flatMap g) :=
  (List.flatMap_append_perm l f g).symm.trans ((l.reverse_perm.flatMap_right f).symm.append_right _)

theorem inSourceOrder_ofWorked {engine : Engine σ} {c : Context} {t : Template} {s s' : σ}
    {ws : List Worked} (h : WorksOff engine c t.expressions s ws s') (declared : Imports) :
    InSourceOrder c t declared ws (declared.append (Worked.allRecorded ws))
      (ofWorked c t declared ws) := by
  obtain ⟨before, lineFeed, after, htext, hline, hinject⟩ := Injection.inject_eq_append
    (weave t.gaps (ws.map (·.text))) (ws.filterMap (·.tag? .stylesheet))
    (ws.filterMap (·.tag? .script)) (reload c)
  rw [Injection.block_eq_lines] at hinject
  refine ⟨rfl, rfl, rfl, ?_, ?_, ⟨before, lineFeed, after, htext, hline, hinject⟩, h.tags⟩
  · simp only [ofWorked, Worked.imports_eq, Imports.append, Worked.allRecorded,
      Imports.stylesheets_concat, List.flatMap_map, List.append_assoc]
    exact (flatMap_append_perm_reverse ws _ _).append_left _
  · simp only [ofWorked, Worked.imports_eq, Imports.append, Worked.allRecorded,
      Imports.scripts_concat, List.flatMap_map, List.append_assoc]
    exact (flatMap_append_perm_reverse ws _ _).append_left _

/-- **Imports and tags come in the order of the source.** So they do in every page that a compile
    comes to, along the course that its engine took. -/
theorem inSourceOrder_of_compile {engine : Engine σ} {start : σ} {c : Context} {source : Text}
    {page : Page} {q : Progress σ}
    (h : outcome (compile engine c source) (.start start) = (.ok page, q)) :
    ∃ t declared ws, parse source = .ok t ∧ Course engine c t start declared ws q.engine ∧
      InSourceOrder c t declared ws q.recorded page := by
  obtain ⟨t, declared, ws, final, hparse, ⟨hdeclares, hworks⟩, rfl, rfl⟩ :=
    (gives_compile_iff engine c source start page q).1 h
  exact ⟨t, declared, ws, hparse, ⟨hdeclares, hworks⟩, inSourceOrder_ofWorked hworks declared⟩

/-- An engine that counts scripts, and each script imports its own text and its number. -/
def counting : Engine Nat where
  declare code n := (⟨.ok (), ⟨[code], [Text.ofNat n]⟩⟩, n + 1)
  evaluate code n := (⟨.ok code, ⟨[code], [Text.ofNat n]⟩⟩, n + 1)

def countingContext : Context := ⟨.builtIn, .plain, "/", "/page.vyu", "/reload"⟩

/-- A body with a directive between two scripts. -/
def countedBody : Text :=
  "<head></head>" ++ Marker.opening ++ "a" ++ Marker.closing ++ Marker.opening ++
    "importJS('b.js')" ++ Marker.closing ++ Marker.opening ++ "c" ++ Marker.closing

def counted : Template where
  declarations := "d"
  body := countedBody
  expressions := [expressionAt countedBody 13 16, expressionAt countedBody 18 36,
    expressionAt countedBody 38 41]

theorem worksOff_counted :
    WorksOff counting countingContext counted.expressions 1
      [.script "a" ⟨["a"], ["2"]⟩,
        .directive .script "b.js" "/b.js" "<script type=\"module\" src=\"/b.js\"></script>",
        .script "c" ⟨["c"], ["1"]⟩] 3 := by
  have hmatch : countingContext.registry.match? (expressionAt countedBody 18 36).raw =
      some (⟨"importJS", "b.js"⟩, ⟨.script, "<script type=\"module\" src=\"{url}\"></script>"⟩) := by
    decide +kernel
  have htag := @Directive.render_url "<script type=\"module\" src=\"" "\"></script>" (by decide)
    (by decide) .script "/b.js"
  have hurl : AssetUrl.resolve countingContext.cwd "b.js" countingContext.file
      countingContext.options = "/b.js" := by
    decide +kernel
  have hdirective := @Works.directive _ counting _ _ 2 _ _ _ hmatch (hurl ▸ htag)
  rw [hurl] at hdirective
  exact .cons (.cons (.cons (.nil 1) (.script rfl rfl)) hdirective) (.script rfl rfl)

/-- The second script ran after the third. -/
theorem inSourceOrder_counted : ∃ page q t declared ws,
    outcome (compile counting countingContext
      (Marker.opening ++ "d" ++ Marker.closing ++ countedBody)) (.start 0) = (.ok page, q) ∧
    page.scripts = (["0", "2", "b.js", "1"] : List Text) ∧
    InSourceOrder countingContext t declared ws q.recorded page := by
  have hrun := (gives_compile_iff counting countingContext
    (Marker.opening ++ "d" ++ Marker.closing ++ countedBody) 0 _ _).2
    ⟨counted, ⟨["d"], ["0"]⟩, _, _, rfl, ⟨rfl, worksOff_counted⟩, rfl, rfl⟩
  obtain ⟨t, declared, ws, -, -, horder⟩ := inSourceOrder_of_compile hrun
  exact ⟨_, _, t, declared, ws, hrun, rfl, horder⟩

end Page
end PageLoom
