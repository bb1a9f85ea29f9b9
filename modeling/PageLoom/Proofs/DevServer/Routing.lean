import PageLoom.Proofs.DevServer.Disclosure
import PageLoom.Proofs.DevServer.PercentEncoding
import PageLoom.Proofs.Page.Mode
import PageLoom.Proofs.Site.Pages
import PageLoom.Proofs.Site.Report

set_option autoImplicit false

/-! # Pages are served from their templates

A build names a page after its template: one ending is taken away and another one put there. The dev
server takes that one away again and puts the first one back, whatever stands before it, so a
request for a page by its name in the output comes to the template it is made of
(`templateOf_outputName`). A template is looked for before anything else, so nothing else answers
the request (`exchange_outputName`), which is never too long, since the template's path is none that
is too long for the system. What a build reports are files of the site and stay there while pages
are written, so each page that is reported is served (`served_of_visit`). -/

namespace PageLoom

open Stateful SitePath RequestTarget

namespace Page

/-- The options decide what goes into the tags of a page, not whether there is a page. -/
theorem exists_ofContent {host : EngineHost} {settings : Settings} {options : CompileOptions}
    {cwd file : Text} {content : Octets} {page : Page}
    (h : (ofContent host settings options cwd file content).1 = .ok page)
    (options' : CompileOptions) :
    ∃ page', (ofContent host settings options' cwd file content).1 = .ok page' := by
  unfold ofContent at h ⊢
  cases hsource : sourceOf file content with
  | error e => simp [hsource] at h
  | ok source =>
      simp only [hsource] at h ⊢
      have hdiffers := onlyInsertionDiffers_run host.engine (host.start settings file) cwd file
        settings.liveReloadPath source options options'
      -- The page of a text is what a run of the host's engine gives.
      change OnlyInsertionDiffers _ _ source
        (ofText host settings .builtIn options cwd file source).1
        (ofText host settings .builtIn options' cwd file source).1 at hdiffers
      rw [h] at hdiffers
      generalize (ofText host settings .builtIn options' cwd file source).1 = result at hdiffers ⊢
      cases hdiffers with
      | page => exact ⟨_, rfl⟩

end Page

/-! ## Lengths of paths -/

namespace SitePath

variable {names : List Text}

theorem ofSegments_suffix (front : List Text) (hne : names ≠ []) :
    ofSegments names <:+ ofSegments (front ++ names) := by
  induction front with
  | nil => exact List.suffix_rfl
  | cons first rest ih =>
      have hcons : ofSegments (first :: (rest ++ names)) =
          first ++ '/' :: ofSegments (rest ++ names) := by
        cases hmore : rest ++ names with
        | nil => exact absurd (List.append_eq_nil_iff.1 hmore).2 hne
        | cons => simp [ofSegments, Text.join, List.intercalate]
      rw [List.cons_append, hcons]
      exact ih.trans ((List.suffix_cons _ _).trans (List.suffix_append _ _))

/-- A path is no longer than it is from a directory. -/
theorem length_encode_le_child (hproper : ∀ name ∈ names, Proper name) (hne : names ≠ [])
    (directory : Text) :
    (Utf8.encode (ofSegments names)).length ≤
      (Utf8.encode (child directory (ofSegments names))).length := by
  have hrelative := isAbsolute_ofSegments_of_proper hproper
  have hsuffix : ofSegments names <:+ root (join directory (ofSegments names)) ++
      ofSegments (parts (join directory (ofSegments names))) := by
    rw [parts_join hrelative, parts_ofSegments_of_proper hproper]
    exact (ofSegments_suffix (parts directory) hne).trans (List.suffix_append _ _)
  obtain ⟨front, hfront⟩ := hsuffix
  rw [child, tidy, ← hfront]
  split
  next hempty =>
    rw [List.isEmpty_iff, List.append_eq_nil_iff] at hempty
    rw [hempty.2]
    exact Nat.zero_le _
  next =>
    rw [Utf8.encode_append, List.length_append]
    exact Nat.le_add_left _ _

end SitePath

/-- What the system finds has no path that is too long. -/
theorem FileTree.length_le_of_isFile {tree : FileTree} {path : Text}
    (h : tree.isFile path = .ok true) : (Utf8.encode (tidy path)).length ≤ longestPath := by
  obtain ⟨content, hfind⟩ := isFile_eq_true_iff.1 h
  obtain ⟨l, hlocate, -⟩ := find_eq_some_iff.1 hfind
  have hfault := (locate_eq_ok_iff.1 hlocate).1
  by_contra hlong
  rw [pathFault?, if_pos (Nat.not_le.1 hlong)] at hfault
  split at hfault <;> cases hfault

/-! ## The route of a page -/

namespace DevSite

open Request

variable {s : DevSite} {tree : FileTree} {names : List Text} {e : Text}

/-- What a page of the output is called begins with no slash. -/
theorem head?_outputName {settings : Settings} {rel : Text} (hrel : Descends rel)
    (htemplate : Build.isTemplate settings rel = true) :
    (Build.outputName settings rel).head? ≠ some '/' := by
  obtain ⟨out, hout, hproper⟩ := Build.descends_outputName hrel htemplate
  have hrelative := isAbsolute_ofSegments_of_proper hproper
  rw [isAbsolute, decide_eq_false_iff_not, ← hout] at hrelative
  exact hrelative

/-- A page may be named with its ending, which is taken off once. -/
theorem pageOf_html {stem : Text} (hstem : (stem ++ ".html".toList).head? ≠ some '/') :
    s.pageOf ('/' :: (stem ++ ".html".toList)) = stem := by
  have hroot : '/' :: (stem ++ ".html".toList) ≠ "/".toList := by simp
  have hslash : ('/' :: (stem ++ ".html".toList)).dropWhile (· = '/') =
      stem ++ ".html".toList := by
    rw [List.dropWhile_cons_of_pos (by decide), List.dropWhile_eq_self_iff]
    intro hlen heq
    rw [decide_eq_true_eq] at heq
    exact hstem (by rw [List.head?_eq_getElem?, List.getElem?_eq_getElem hlen, heq])
  have hending : ".html".toList.isSuffixOf (stem ++ ".html".toList) = true :=
    List.isSuffixOf_iff_suffix.2 (List.suffix_append _ _)
  rw [pageOf, if_neg hroot, hslash]
  simp only [hending, if_true]
  rw [List.length_append, List.take_left']
  rfl

/-- **Routing inverts naming.** The template that the name of a page leads to is the one after which
    the page is named. -/
theorem templateOf_outputName (hdefault : s.settings = {}) (hnames : ∀ name ∈ names, Proper name)
    (htemplate : Build.isTemplate s.settings (ofSegments names) = true) :
    s.templateOf ('/' :: Build.outputName s.settings (ofSegments names)) =
      child s.site (ofSegments names) := by
  obtain ⟨folders, stem, -, rfl, houtput⟩ :=
    Build.exists_stem (by rw [hdefault]; decide) hnames htemplate
  have hslash := head?_outputName ⟨_, rfl, hnames⟩ htemplate
  rw [houtput, ofSegments_append_last] at hslash ⊢
  rw [templateOf, pageOf_html hslash, Settings.templatePath, ofSegments_append_last]

/-- Whatever else there is, a template of the site is what serves its page. -/
theorem route_outputName (hdefault : s.settings = {}) (hcwd : ∀ name ∈ tree.cwd, Proper name)
    (hnames : ∀ name ∈ names, Proper name)
    (htemplate : Build.isTemplate s.settings (ofSegments names) = true)
    (hfile : tree.isFile (child s.site (ofSegments names)) = .ok true) :
    s.route tree ('/' :: Build.outputName s.settings (ofSegments names)) =
      .ok (.template (child s.site (ofSegments names))) := by
  have hinside : s.contains tree (child s.site (ofSegments names)) = true := by
    rw [contains, FileTree.resolve_child hcwd hnames, List.isPrefixOf_iff_prefix]
    exact List.prefix_append _ _
  have hserves : s.serves tree (child s.site (ofSegments names)) = .ok true := by
    rw [serves, hfile, hinside]
    rfl
  rw [route_eq, templateOf_outputName hdefault hnames htemplate, hserves]

/-- However a page's name is encoded, the target names the page. -/
theorem pathOf_encoded {settings : Settings} {rel : Text} (hrel : Descends rel)
    (htemplate : Build.isTemplate settings rel = true)
    (hencodes : Encodes e (Build.outputName settings rel)) :
    pathOf ('/' :: e) = '/' :: Build.outputName settings rel := by
  rw [pathOf, encodedPath_of_encodes hencodes (head?_outputName hrel htemplate)]
  exact decode_of_encodes (.plain (by decide) hencodes)

/-- The path of the live-reload stream is no page's. -/
theorem ne_liveReloadPath {target : Text} {settings : Settings} (hdefault : settings = {})
    {rel : Text} (h : pathOf target = '/' :: Build.outputName settings rel) :
    encodedPath target ≠ settings.liveReloadPath := by
  intro heq
  -- It has no ending.
  have hdecode : decode settings.liveReloadPath = "/__live_reload".toList := by
    rw [hdefault]
    decide +kernel
  rw [pathOf, heq, hdecode] at h
  have hend := congrArg List.getLast? h
  rw [Build.outputName] at hend
  simp [List.getLast?_cons] at hend

theorem answer_of_template {m : Renderer} {path file : Text}
    (h : s.route tree path = .ok (.template file)) :
    s.answer tree m path = s.answerPage tree m file := by
  unfold answer
  rw [h]

/-- A page that compiles is shown. -/
theorem answerPage_of_ok {m : Renderer} {file : Text} {page : Page}
    (h : (m.compile file).1 = .ok page) :
    (s.answerPage tree m file).1 =
      .response (.content 200 "OK" ContentType.page (Utf8.encode page.html)) := by
  rw [answerPage]
  generalize m.compile file = compiled at h ⊢
  obtain ⟨result, notes⟩ := compiled
  subst h
  rfl

/-- The name of a page is at most one octet longer than that of its template. -/
theorem length_encode_outputName {settings : Settings} (hdefault : settings = {})
    (hnames : ∀ name ∈ names, Proper name)
    (htemplate : Build.isTemplate settings (ofSegments names) = true) :
    (Utf8.encode (Build.outputName settings (ofSegments names))).length ≤
      (Utf8.encode (ofSegments names)).length + 1 := by
  obtain ⟨folders, stem, -, rfl, houtput⟩ :=
    Build.exists_stem (by rw [hdefault]; decide) hnames htemplate
  have htaken : (Utf8.encode settings.templateExtension).length = 4 := by rw [hdefault]; decide
  have hput : (Utf8.encode ".html").length = 5 := by decide
  rw [houtput, ofSegments_append_last, ofSegments_append_last, Utf8.encode_append,
    Utf8.encode_append, List.length_append, List.length_append, htaken, hput]

/-- **A page is answered from its template**, however its name is encoded. -/
theorem exchange_outputName (hdefault : s.settings = {}) (hcwd : ∀ name ∈ tree.cwd, Proper name)
    (hne : names ≠ []) (hnames : ∀ name ∈ names, Proper name)
    (htemplate : Build.isTemplate s.settings (ofSegments names) = true)
    (hfile : tree.isFile (child s.site (ofSegments names)) = .ok true)
    (hencodes : Encodes e (Build.outputName s.settings (ofSegments names)))
    (m : Renderer) (c : Circumstances) :
    s.exchange tree m c (getLine ('/' :: e)) =
      c.carryOut true s.settings.keepAlive.toFloat (conclude (getLine ('/' :: e)) false
        (s.answerPage tree m (child s.site (ofSegments names)))) := by
  have hslash := head?_outputName ⟨_, rfl, hnames⟩ htemplate
  have hpath := pathOf_encoded ⟨_, rfl, hnames⟩ htemplate hencodes
  have hshort : isTooLong (getLine ('/' :: e)) = false := by
    refine isTooLong_getLine hencodes ?_
    have hfound := FileTree.length_le_of_isFile hfile
    rw [tidy_child] at hfound
    have hchild := length_encode_le_child hnames hne s.site
    have hname := length_encode_outputName hdefault hnames htemplate
    omega
  have htarget : s.answerTarget tree m ('/' :: e) = s.answer tree m (pathOf ('/' :: e)) := by
    rw [answerTarget, if_neg (not_not_intro (isSound_of_encodes hencodes hslash)),
      if_neg (ne_liveReloadPath hdefault hpath)]
  rw [exchange, hshort, hasHead_getLine hencodes, answer_get (ofLine_getLine hencodes hslash),
    htarget, hpath, answer_of_template (route_outputName hdefault hcwd hnames htemplate hfile)]
  rfl

end DevSite

/-! ## The pages of a build -/

namespace Build

variable {b : Build} {first tree : FileTree} {w w' : Workspace} {manifest : List (Text × Text)}
  {names : List Text} {pages : List (Text × Text)} {p : Text × Text} {url e : Text}

/-- The dev server of the site that is built. -/
def devSite (b : Build) (url : Text) : DevSite := ⟨b.settings, b.site, url⟩

/-- What a request for a page that was reported comes to, by an encoding of its name. The template
    answers as long as there is one, by its compile or by the diagnostic page of that; and it can be
    compiled both with the files from which the page was built and with those there were then. -/
structure Served (b : Build) (first last : FileTree) (p : Text × Text) (url e : Text) : Prop where
  routed : ∀ tree, (∀ name ∈ tree.cwd, Proper name) → tree.isFile (child b.site p.1) = .ok true →
    (b.devSite url).route tree (DevSite.pathOf ('/' :: e)) = .ok (.template (child b.site p.1)) ∧
      ∀ m c, (b.devSite url).exchange tree m c (Request.getLine ('/' :: e)) =
        c.carryOut true b.settings.keepAlive.toFloat
          (Request.conclude (Request.getLine ('/' :: e)) false
            ((b.devSite url).answerPage tree m (child b.site p.1)))
  shown : ∀ tree, tree = first ∨ tree = last → ∀ listing,
    tree.isFile (child b.site p.1) = .ok true ∧
      ∃ page,
        (((b.devSite url).renderer b.host listing tree).compile (child b.site p.1)).1 = .ok page ∧
        ∀ c, ∃ notes,
          (b.devSite url).exchange tree ((b.devSite url).renderer b.host listing tree) c
              (Request.getLine ('/' :: e)) =
            c.respond true (.content 200 "OK" ContentType.page (Utf8.encode page.html)) notes

theorem Reported.route (h : Reported b manifest first names p) (hdefault : b.settings = {})
    (hcwd : ∀ name ∈ tree.cwd, Proper name) (hfile : tree.isFile (child b.site p.1) = .ok true)
    (hencodes : Encodes e p.2) :
    (b.devSite url).route tree (DevSite.pathOf ('/' :: e)) = .ok (.template (child b.site p.1)) := by
  rw [h.pair] at hfile hencodes ⊢
  rw [DevSite.pathOf_encoded ⟨_, rfl, h.proper⟩ h.template hencodes]
  exact (b.devSite url).route_outputName hdefault hcwd h.proper h.template hfile

theorem Reported.exchange (h : Reported b manifest first names p) (hdefault : b.settings = {})
    (hcwd : ∀ name ∈ tree.cwd, Proper name) (hfile : tree.isFile (child b.site p.1) = .ok true)
    (hencodes : Encodes e p.2) (m : Renderer) (c : Circumstances) :
    (b.devSite url).exchange tree m c (Request.getLine ('/' :: e)) =
      c.carryOut true b.settings.keepAlive.toFloat
        (Request.conclude (Request.getLine ('/' :: e)) false
          ((b.devSite url).answerPage tree m (child b.site p.1))) := by
  rw [h.pair] at hfile hencodes ⊢
  exact (b.devSite url).exchange_outputName hdefault hcwd h.ne_nil h.proper h.template hfile
    hencodes m c

/-- A page that was reported is served from its template. -/
theorem Reported.served (h : Reported b manifest w.tree names p) (hdefault : b.settings = {})
    (hlawful : w.tree.Lawful) (htouches : FileTree.Touches IsHtml w.tree w'.tree)
    (hencodes : Encodes e p.2) : Served b w.tree w'.tree p url e where
  routed tree hcwd hfile :=
    ⟨h.route hdefault hcwd hfile hencodes, h.exchange hdefault hcwd hfile hencodes⟩
  shown tree htree listing := by
    have hchanged : FileTree.Touches IsHtml w.tree tree := by
      rcases htree with rfl | rfl
      · exact .refl _ _
      · exact htouches
    obtain ⟨content, page, hread, hpage⟩ := h.exists_read hdefault hlawful hchanged
    have hfile : tree.isFile (child b.site p.1) = .ok true :=
      FileTree.isFile_eq_true_iff.2 ⟨content, FileTree.find_of_read hread⟩
    obtain ⟨page', hpage'⟩ := Page.exists_ofContent hpage (b.devSite url).options
    have hcompile :
        (((b.devSite url).renderer b.host listing tree).compile (child b.site p.1)).1 =
          .ok page' := by
      rw [← hpage', ← Page.ofFile_of_read hread]
      rfl
    refine ⟨hfile, page', hcompile, fun c => ?_⟩
    rw [h.exchange hdefault (hchanged.lawful hlawful).cwd hfile hencodes]
    have hanswer : ((b.devSite url).answerPage tree ((b.devSite url).renderer b.host listing tree)
        (child b.site p.1)).1 = _ := DevSite.answerPage_of_ok hcompile
    generalize (b.devSite url).answerPage tree _ _ = answer at hanswer ⊢
    obtain ⟨answered, notes⟩ := answer
    obtain rfl := hanswer
    exact ⟨_, rfl⟩

/-- **Serving pages inverts naming them.** With the default settings, pages of different templates
    have different names. Wherever a build writes to, each page that it reports is served from its
    own template, however the name of the page is encoded. -/
theorem served_of_visit (hdefault : b.settings = {}) (hlawful : w.tree.Lawful)
    (h : Gives (b.visit (isTemplate b.settings) (b.compilePage manifest)) w pages w') :
    (∀ rel rel', Descends rel → Descends rel' → isTemplate b.settings rel = true →
      isTemplate b.settings rel' = true → rel ≠ rel' →
        outputName b.settings rel ≠ outputName b.settings rel') ∧
    (pages.map Prod.snd).Nodup ∧
    ∀ p ∈ pages, ∀ url e, Encodes e p.2 → Served b w.tree w'.tree p url e := by
  obtain ⟨hreported, hapart, htouches⟩ := reported_of_visit hdefault hlawful h
  refine ⟨?_, nodup_outputs hdefault hreported hapart, ?_⟩
  · intro rel rel' hrel hrel' htemplate htemplate' hne heq
    exact hne (outputName_injOn (by rw [hdefault]; decide) hrel hrel' htemplate htemplate' heq)
  · intro p hp url e hencodes
    obtain ⟨names, hnames⟩ := hreported p hp
    exact hnames.served hdefault hlawful htouches hencodes

/-- A build that puts the pages of a site next to their templates. -/
def inPlace : Build := { siteBuild with dist := "site" }

/-- A site with a page whose name has an ending of its own, and one below a directory. -/
def namedSite : Workspace := workspaceOf
  [(["site".toList], .directory),
   (["site".toList, "x.html.vyu".toList], .file (Utf8.encode "x".toList)),
   (["site".toList, "über uns".toList], .directory),
   (["site".toList, "über uns".toList, "v 1.2.vyu".toList], .file (Utf8.encode "v".toList))]

theorem served_namedSite : ∃ w',
    Gives (inPlace.visit (isTemplate inPlace.settings) (inPlace.compilePage [])) namedSite
      [("x.html.vyu".toList, "x.html.html".toList),
       ("über uns/v 1.2.vyu".toList, "über uns/v 1.2.html".toList)] w' ∧
    Served inPlace namedSite.tree w'.tree
      ("über uns/v 1.2.vyu".toList, "über uns/v 1.2.html".toList) "http://localhost:5173"
      "%c3%bcber%20uns/v%201.2.html" :=
  have hvisit := gives_of_outcome (x := inPlace.visit (isTemplate inPlace.settings)
    (inPlace.compilePage [])) (s := namedSite)
    (a := [("x.html.vyu".toList, "x.html.html".toList),
      ("über uns/v 1.2.vyu".toList, "über uns/v 1.2.html".toList)]) (by decide +kernel)
  have hencoded : encode "über uns/v 1.2.html" = "%c3%bcber%20uns/v%201.2.html" := by
    decide +kernel
  ⟨_, hvisit, (served_of_visit rfl (by decide +kernel) hvisit).2.2 _ (by decide) _ _
    (hencoded ▸ encodes_encode _)⟩

end Build
end PageLoom
