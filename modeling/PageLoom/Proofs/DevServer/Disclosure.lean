import PageLoom.DevServer.Exchange
import PageLoom.Proofs.Page.Content

set_option autoImplicit false

/-! # What the dev server shows

A path is read as it stands, name by name, while whether it lies inside the site is decided by where
it leads. A path that can be read leads where its names lead, so the file that is read is the one
that was checked. Hence an answer shows files of the site only (`Shown`), and it does not depend on
what other files hold (`Alike`). Where neither path of a target leads into the site, the answer is
that nothing is found. But whether there is a file is asked first, and where the system refuses to
say, as of a name that is too long, there is no answer at all (`exchange_of_outside`). -/

namespace PageLoom

namespace FileTree

open SitePath

variable {tree tree' : FileTree} {directory l k : Location} {path : Text}

/-- The same directories and files, through which names are looked up alike, and which below a
    directory hold the same and are read alike. -/
structure Alike (directory : Location) (tree tree' : FileTree) : Prop where
  cwd : tree'.cwd = tree.cwd
  searches : ∀ l, tree'.refusal? .search l = tree.refusal? .search l
  directories : ∀ l, tree'.node? l = some .directory ↔ tree.node? l = some .directory
  files : ∀ l, tree'.node? l = none ↔ tree.node? l = none
  inside : ∀ l, directory <+: l → tree'.node? l = tree.node? l
  permitted : ∀ l, directory <+: l → tree'.refusal? .read l = tree.refusal? .read l

namespace Alike

theorem resolve (h : Alike directory tree tree') (path : Text) :
    tree'.resolve path = tree.resolve path :=
  resolve_congr h.cwd path

/-- What stands at a location is of one kind in both trees. -/
theorem node? (h : Alike directory tree tree') (l : Location) :
    (tree.node? l = some .directory ∧ tree'.node? l = some .directory) ∨
      (∃ content content', tree.node? l = some (.file content) ∧
        tree'.node? l = some (.file content')) ∨
      (tree.node? l = none ∧ tree'.node? l = none) := by
  cases hnode : tree.node? l with
  | none => exact .inr (.inr ⟨rfl, (h.files l).2 hnode⟩)
  | some n =>
      cases n with
      | directory => exact .inl ⟨rfl, (h.directories l).2 hnode⟩
      | file content =>
          -- What is there in the other tree is neither nothing nor a directory.
          cases hnode' : tree'.node? l with
          | none => cases hnode.symm.trans ((h.files l).1 hnode')
          | some n' =>
              cases n' with
              | directory => cases hnode.symm.trans ((h.directories l).1 hnode')
              | file content' => exact .inr (.inl ⟨content, content', rfl, rfl⟩)

theorem walk (h : Alike directory tree tree') (names : List Text) :
    tree'.walk path l names = tree.walk path l names := by
  induction names generalizing l with
  | nil => rfl
  | cons name rest ih =>
      rw [walk_cons, walk_cons, lookupFault?_congr h.searches]
      rcases h.node? (descend l name) with ⟨hnode, hnode'⟩ | ⟨_, _, hnode, hnode'⟩ | ⟨hnode, hnode'⟩
      · rw [hnode, hnode', ih]
      · rw [hnode, hnode']
      · rw [hnode, hnode']

theorem locate (h : Alike directory tree tree') (path : Text) :
    tree'.locate path = tree.locate path := by
  rw [FileTree.locate, FileTree.locate, h.cwd, h.walk]

theorem isFile (h : Alike directory tree tree') (path : Text) :
    tree'.isFile path = tree.isFile path := by
  rw [FileTree.isFile, FileTree.isFile, find, find, h.locate]
  cases tree.locate path with
  | error fault => rfl
  | ok l =>
      rcases h.node? l with ⟨hnode, hnode'⟩ | ⟨_, _, hnode, hnode'⟩ | ⟨hnode, hnode'⟩ <;>
        simp only [hnode, hnode', Except.map]

/-- A file below the directory is read alike. -/
theorem read (h : Alike directory tree tree') (hcwd : ∀ name ∈ tree.cwd, Proper name)
    (hinside : directory <+: tree.resolve path) : tree'.read path = tree.read path := by
  rw [FileTree.read, FileTree.read, h.locate]
  cases hlocate : tree.locate path with
  | error fault => rfl
  | ok l =>
      rw [← locate_eq_resolve hcwd hlocate] at hinside
      simp only [bind, Except.bind, permit, h.inside l hinside, h.permitted l hinside]

end Alike

end FileTree

/-! ## Answers -/

namespace DevSite

open SitePath

variable {s : DevSite} {host : EngineHost} {listing : Text → Text} {tree tree' : FileTree}
  {file path target line : Text} {content : Octets}

/-- What is inside the site. -/
abbrev Inside (s : DevSite) (tree : FileTree) (file : Text) : Prop :=
  tree.resolve s.site <+: tree.resolve file

/-- A file inside the site, and what it holds. -/
structure Within (s : DevSite) (tree : FileTree) (file : Text) (content : Octets) : Prop where
  there : tree.node? (tree.resolve file) = some (.file content)
  inside : s.Inside tree file

/-- What a template inside the site compiles to, by its content. -/
abbrev pageFrom (s : DevSite) (host : EngineHost) (tree : FileTree) (file : Text)
    (content : Octets) : Except CompileFault Page :=
  (Page.ofContent host s.settings s.options tree.cwdText file content).1

/-- Answers that show nothing, or one file inside the site: its content, the page it compiles to, or
    the diagnostic page with its source. -/
inductive Shown (s : DevSite) (host : EngineHost) (listing : Text → Text) (tree : FileTree) :
    ServerAnswer → Prop
  | nothing (fault : ServerFault) : Shown s host listing tree (.none fault)
  | stream : Shown s host listing tree .stream
  | missing : Shown s host listing tree (.response .notFound)
  | tooLong : Shown s host listing tree (.response .lineTooLong)
  | asset (file : Text) (content : Octets) (hfile : Within s tree file content) :
      Shown s host listing tree (.response (.content 200 "OK"
        ((ContentType.ofName? (name file)).getD ContentType.unknown) content))
  | page (file : Text) (content : Octets) (page : Page) (hfile : Within s tree file content)
      (hpage : s.pageFrom host tree file content = .ok page) :
      Shown s host listing tree
        (.response (.content 200 "OK" ContentType.page (Utf8.encode page.html)))
  | diagnostic (file : Text) (content : Octets) (e : PageError)
      (hfile : Within s tree file content)
      (hfault : s.pageFrom host tree file content = .error (.page e)) :
      Shown s host listing tree (.response (.content 500 "Internal Server Error" ContentType.page
        (Utf8.encode (ErrorPage.render s.settings listing (.page e)
          (Page.sourceOf file content).toOption))))
  | unreadable (file : Text) (fault : FileFault) (hinside : s.Inside tree file)
      (hread : tree.read (tidy file) = .error fault) :
      Shown s host listing tree (.response (.content 500 "Internal Server Error" ContentType.page
        (Utf8.encode (ErrorPage.render s.settings listing
          (.page (.unreadable file fault.message)) none))))

/-- A path that is served is inside the site. -/
theorem inside_of_serves (h : s.serves tree file = .ok true) : s.Inside tree file := by
  rw [serves, Result.map_eq_ok_iff] at h
  obtain ⟨there, -, hinside⟩ := h
  exact List.isPrefixOf_iff_prefix.1 (Bool.and_eq_true_iff.1 hinside).2

theorem within_of_read (hcwd : ∀ name ∈ tree.cwd, Proper name) (hinside : s.Inside tree file)
    (hread : tree.read file = .ok content) : s.Within tree file content where
  there := FileTree.node?_resolve_of_find hcwd (FileTree.find_of_read hread)
  inside := hinside

theorem shown_answerAsset (hcwd : ∀ name ∈ tree.cwd, Proper name) (hinside : s.Inside tree file) :
    Shown s host listing tree (.response (answerAsset tree file)) := by
  rw [answerAsset]
  cases hread : tree.read file with
  | ok content => exact .asset file content (within_of_read hcwd hinside hread)
  | error fault => exact .missing

/-- The answer with a template's page is known from what the template holds. -/
theorem answerPage_of_read (h : tree.read file = .ok content) :
    s.answerPage tree (s.renderer host listing tree) file =
      match Page.ofContent host s.settings s.options tree.cwdText file content with
      | (.ok page, notes) =>
          (.response (.content 200 "OK" ContentType.page (Utf8.encode page.html)), notes)
      | (.error (.page e), notes) =>
          (.response (.content 500 "Internal Server Error" ContentType.page
            (Utf8.encode (ErrorPage.render s.settings listing (.page e)
              (Page.sourceOf file content).toOption))),
            notes ++ [.error ("Compile error: " ++ e.report)])
      | (.error fault, notes) => (.none (.compile fault), notes) := by
  rewrite [answerPage]
  dsimp only [renderer]
  rewrite [Page.ofFile_of_read h, Page.readSource_of_read h]
  rfl

theorem shown_answerPage (hcwd : ∀ name ∈ tree.cwd, Proper name) (hinside : s.Inside tree file) :
    Shown s host listing tree (s.answerPage tree (s.renderer host listing tree) file).1 := by
  cases hread : tree.read (tidy file) with
  | ok content =>
      have hread' := FileTree.read_tidy_eq_ok_iff.1 hread
      have hfile := within_of_read hcwd hinside hread'
      rw [answerPage_of_read hread']
      split
      next page notes hpage => exact .page file content page hfile (congrArg Prod.fst hpage)
      next e notes hfault => exact .diagnostic file content e hfile (congrArg Prod.fst hfault)
      next fault notes _ _ => exact .nothing (.compile fault)
  | error fault =>
      rw [answerPage, renderer]
      simp only [Page.ofFile, Page.readSource, hread]
      cases fault with
      | nullCharacter path => exact .nothing _
      | _ => exact .unreadable file _ hinside hread

/-- The route of a path, by the two lookups. -/
theorem route_eq : s.route tree path =
    match s.serves tree (s.templateOf path) with
    | .error fault => .error fault
    | .ok true => .ok (.template (s.templateOf path))
    | .ok false =>
        match s.serves tree (s.assetOf path) with
        | .error fault => .error fault
        | .ok true => .ok (.asset (s.assetOf path))
        | .ok false => .ok .missing := by
  rw [route]
  cases s.serves tree (s.templateOf path) with
  | error fault => rfl
  | ok template =>
      cases template with
      | true => rfl
      | false =>
          cases s.serves tree (s.assetOf path) with
          | error fault => rfl
          | ok asset => cases asset <;> rfl

theorem shown_answer (hcwd : ∀ name ∈ tree.cwd, Proper name) (path : Text) :
    Shown s host listing tree (s.answer tree (s.renderer host listing tree) path).1 := by
  unfold answer
  rewrite [route_eq]
  cases htemplate : s.serves tree (s.templateOf path) with
  | error fault => exact .nothing _
  | ok template =>
      cases template with
      | true =>
          dsimp only
          exact shown_answerPage hcwd (inside_of_serves htemplate)
      | false =>
          cases hasset : s.serves tree (s.assetOf path) with
          | error fault => exact .nothing _
          | ok asset =>
              cases asset with
              | true =>
                  dsimp only
                  exact shown_answerAsset hcwd (inside_of_serves hasset)
              | false => exact .missing

theorem shown_answerTarget (hcwd : ∀ name ∈ tree.cwd, Proper name) (target : Text) :
    Shown s host listing tree
      (s.answerTarget tree (s.renderer host listing tree) target).1 := by
  unfold answerTarget
  dsimp only
  split
  next => exact .nothing _
  next =>
    split
    next => exact .stream
    next => exact shown_answer hcwd _

/-! ## What an answer depends on -/

section Alike

variable (h : FileTree.Alike (tree.resolve s.site) tree tree')

include h

theorem contains_of_alike (path : Text) : s.contains tree' path = s.contains tree path := by
  rw [contains, contains, h.resolve, h.resolve]

theorem serves_of_alike (path : Text) : s.serves tree' path = s.serves tree path := by
  rw [serves, serves, h.isFile, contains_of_alike h]

theorem route_of_alike (path : Text) : s.route tree' path = s.route tree path := by
  rw [route_eq, route_eq, serves_of_alike h, serves_of_alike h]

variable (hcwd : ∀ name ∈ tree.cwd, Proper name)

include hcwd

theorem answerPage_of_alike (hinside : s.Inside tree file) :
    s.answerPage tree' (s.renderer host listing tree') file =
      s.answerPage tree (s.renderer host listing tree) file := by
  have hread : tree'.read (tidy file) = tree.read (tidy file) :=
    h.read hcwd (by rwa [FileTree.resolve_tidy hcwd])
  have hsource : Page.readSource tree' file = Page.readSource tree file := by
    rw [Page.readSource, Page.readSource, hread]
  simp only [answerPage, renderer, Page.ofFile_congr h.cwd hread, hsource]

theorem answer_of_alike (path : Text) :
    s.answer tree' (s.renderer host listing tree') path =
      s.answer tree (s.renderer host listing tree) path := by
  unfold answer
  rewrite [route_of_alike h, route_eq]
  cases htemplate : s.serves tree (s.templateOf path) with
  | error fault => rfl
  | ok template =>
      cases template with
      | true =>
          dsimp only
          exact answerPage_of_alike h hcwd (inside_of_serves htemplate)
      | false =>
          cases hasset : s.serves tree (s.assetOf path) with
          | error fault => rfl
          | ok asset =>
              cases asset with
              | true => simp only [answerAsset, h.read hcwd (inside_of_serves hasset)]
              | false => rfl

theorem answerTarget_of_alike (target : Text) :
    s.answerTarget tree' (s.renderer host listing tree') target =
      s.answerTarget tree (s.renderer host listing tree) target := by
  simp only [answerTarget, answer_of_alike h hcwd]

end Alike

/-! ## Outside of the site -/

/-- Whether the template or the file that a path names would lie inside the site. -/
def leadsInside (s : DevSite) (tree : FileTree) (path : Text) : Bool :=
  s.contains tree (s.templateOf path) || s.contains tree (s.assetOf path)

/-- Whether it can be found out if there is a template or a file for a path. -/
def LooksUp (s : DevSite) (tree : FileTree) (path : Text) : Prop :=
  ∀ file ∈ [s.templateOf path, s.assetOf path], ∃ there, tree.isFile file = .ok there

theorem serves_of_not_contains (h : s.contains tree file = false) :
    s.serves tree file = (tree.isFile file).map fun _ => false := by
  rw [serves, h]
  simp only [Bool.and_false]

/-- A path that does not lead into the site is not served, whatever there is. It is not answered
    either if it cannot be looked up. -/
theorem answer_of_outside (m : Renderer) (hcwd : tree'.cwd = tree.cwd)
    (h : s.leadsInside tree path = false) :
    (s.LooksUp tree' path → s.answer tree' m path = (.response .notFound, [])) ∧
      (¬ s.LooksUp tree' path → ∃ fault, s.answer tree' m path = (.none (.lookup fault), [])) := by
  have hcontains : ∀ p, s.contains tree' p = s.contains tree p := fun p => by
    simp only [contains, FileTree.resolve_congr hcwd]
  rw [leadsInside, Bool.or_eq_false_iff, ← hcontains, ← hcontains] at h
  unfold answer
  rewrite [route_eq, serves_of_not_contains h.1, serves_of_not_contains h.2]
  have hlooks : s.LooksUp tree' path ↔ (∃ there, tree'.isFile (s.templateOf path) = .ok there) ∧
      ∃ there, tree'.isFile (s.assetOf path) = .ok there := by simp [LooksUp]
  rw [hlooks]
  cases tree'.isFile (s.templateOf path) with
  | error fault => exact ⟨nofun, fun _ => ⟨fault, rfl⟩⟩
  | ok template =>
      cases tree'.isFile (s.assetOf path) with
      | error fault => exact ⟨nofun, fun _ => ⟨fault, rfl⟩⟩
      | ok asset => exact ⟨fun _ => rfl, fun h => absurd ⟨⟨template, rfl⟩, ⟨asset, rfl⟩⟩ h⟩

theorem assetOf_slash (name : Text) (hname : Proper name) :
    s.assetOf ('/' :: name) = child s.site (ofSegments [name]) := by
  have hplain : name.dropWhile (· = '/') = name := by
    cases name with
    | nil => rfl
    | cons c rest =>
        have hc : c ≠ '/' := fun heq => hname.no_slash (heq ▸ List.mem_cons_self)
        simp [hc]
  have hsingle : ofSegments [name] = name := by
    simp [ofSegments, Text.join, List.intercalate]
  rw [assetOf, hsingle, List.dropWhile_cons_of_pos (by simp), hplain]

/-- A path of one name leads into the site. -/
theorem leadsInside_slash (hcwd : ∀ name ∈ tree.cwd, Proper name) {name : Text}
    (hname : Proper name) : s.leadsInside tree ('/' :: name) = true := by
  have hinside : s.contains tree (s.assetOf ('/' :: name)) = true := by
    rw [assetOf_slash name hname, contains,
      FileTree.resolve_child hcwd (by simpa using hname), List.isPrefixOf_iff_prefix]
    exact List.prefix_append _ _
  rw [leadsInside, hinside, Bool.or_true]

/-- The path that a target names. -/
abbrev pathOf (target : Text) : Text := RequestTarget.decode (RequestTarget.encodedPath target)

/-- Unless it is set otherwise, the live-reload path leads into the site. -/
theorem leadsInside_reload (hcwd : ∀ name ∈ tree.cwd, Proper name)
    (h : RequestTarget.encodedPath target = ({} : Settings).liveReloadPath) :
    s.leadsInside tree (pathOf target) = true := by
  have hdecode : RequestTarget.decode ({} : Settings).liveReloadPath =
      '/' :: "__live_reload".toList := by decide +kernel
  rw [pathOf, h, hdecode]
  exact leadsInside_slash hcwd (by decide)

end DevSite

/-! ## Requests -/

namespace DevSite

open Request

variable {s : DevSite} {host : EngineHost} {listing : Text → Text} {tree tree' : FileTree}
  {line target : Text}

theorem answer_get {m : Renderer} (h : ofLine line = .ok ⟨"GET".toList, target⟩) :
    Request.answer s tree m line = conclude line false (s.answerTarget tree m target) := by
  rw [Request.answer, h]
  rfl

/-- What is concluded from an answer shows the same. -/
theorem conclude_false_fst (line : Text) (a : ServerAnswer × List Entry) :
    (conclude line false a).1 = a.1 := by
  rcases a with ⟨r | _ | fault, notes⟩ <;> rfl

/-- What is brought about by a request for a path that does not lead into the site. -/
theorem exchange_of_outside (m : Renderer) (c : Circumstances) (hshort : isTooLong line = false)
    (hget : ofLine line = .ok ⟨"GET".toList, target⟩)
    (hsound : RequestTarget.isSound target = true) (hcwd : tree'.cwd = tree.cwd)
    (houtside : s.leadsInside tree (pathOf target) = false)
    (hreload : RequestTarget.encodedPath target ≠ s.settings.liveReloadPath) :
    (s.LooksUp tree' (pathOf target) →
        s.exchange tree' m c line =
          c.respond (hasHead line) .notFound (responseNotes line .notFound)) ∧
      (¬ s.LooksUp tree' (pathOf target) → s.exchange tree' m c line = c.giveUp []) := by
  have hexchange : s.exchange tree' m c line =
      c.carryOut (hasHead line) s.settings.keepAlive.toFloat
        (conclude line false (s.answer tree' m (pathOf target))) := by
    rw [exchange, if_neg (by rw [hshort]; exact nofun), answer_get hget, answerTarget,
      if_neg (not_not_intro hsound), if_neg hreload]
  obtain ⟨hfound, hlost⟩ := answer_of_outside m hcwd houtside
  constructor
  · intro h
    rw [hexchange, hfound h]
    rfl
  · intro h
    obtain ⟨fault, hnone⟩ := hlost h
    rw [hexchange, hnone]
    rfl

/-- What the answer to a request tells of the files there are: it shows files inside the site only,
    and it is the same whatever other files hold. Where neither path of the target leads into the
    site, nothing is found, whatever there is, as long as both can be looked up. The last is said of
    targets other than the live-reload path, should that be set to such a path. -/
structure Discreet (s : DevSite) (host : EngineHost) (listing : Text → Text) (tree : FileTree)
    (line target : Text) : Prop where
  shown : ∀ c, ∃ answer hasHead notes, s.Shown host listing tree answer ∧
    s.exchange tree (s.renderer host listing tree) c line =
      c.carryOut hasHead s.settings.keepAlive.toFloat (answer, notes)
  alike : ∀ tree', FileTree.Alike (tree.resolve s.site) tree tree' → ∀ c,
    s.exchange tree' (s.renderer host listing tree') c line =
      s.exchange tree (s.renderer host listing tree) c line
  outside : isTooLong line = false → RequestTarget.isSound target = true →
    s.leadsInside tree (pathOf target) = false →
    RequestTarget.encodedPath target ≠ s.settings.liveReloadPath ∨
      s.settings.liveReloadPath = ({} : Settings).liveReloadPath →
    ∀ tree' m c, tree'.cwd = tree.cwd →
      (s.LooksUp tree' (pathOf target) →
        s.exchange tree' m c line =
          c.respond (hasHead line) .notFound (responseNotes line .notFound)) ∧
      (¬ s.LooksUp tree' (pathOf target) → s.exchange tree' m c line = c.giveUp [])

/-- **The dev server never shows a file outside of the site.** Whatever the target of a request,
    every file that goes into the answer is a file whose place is inside the site's. Where neither
    the template nor the file that the target names would be there, the answer is always the same,
    unless one of them cannot be looked up. -/
theorem discreet_exchange (host : EngineHost) (listing : Text → Text) (hlawful : tree.Lawful)
    (hget : ofLine line = .ok ⟨"GET".toList, target⟩) :
    Discreet s host listing tree line target where
  shown c := by
    rw [exchange]
    split_ifs
    · exact ⟨_, true, _, .tooLong, rfl⟩
    · rw [answer_get hget]
      have hshown : Shown s host listing tree (conclude line false
          (s.answerTarget tree (s.renderer host listing tree) target)).1 := by
        rw [conclude_false_fst]
        exact shown_answerTarget hlawful.cwd target
      exact ⟨_, hasHead line, _, hshown, rfl⟩
  alike tree' halike c := by
    rw [exchange, exchange, answer_get hget, answer_get hget,
      answerTarget_of_alike halike hlawful.cwd]
  outside hshort hsound houtside hreload tree' m c hcwd := by
    refine exchange_of_outside m c hshort hget hsound hcwd houtside ?_
    rcases hreload with hother | hdefault
    · exact hother
    · intro heq
      cases (leadsInside_reload hlawful.cwd (heq.trans hdefault)).symm.trans houtside

/-- A site with a file beside it. -/
def secretTree : FileTree where
  nodes := [(["site".toList], .directory),
    (["site".toList, "index.vyu".toList], .file (Utf8.encode "page".toList)),
    (["secret.txt".toList], .file (Utf8.encode "secret".toList))]
  cwd := []

/-- The dev server of the site in `site`, with the default settings. -/
def siteServer : DevSite := ⟨{}, "site", "http://localhost:5173"⟩

/-- A request for the file beside the site. -/
def secretLine : Text := "GET /%2e%2e/secret.txt HTTP/1.1"

theorem discreet_secret :
    secretTree.Lawful ∧ ofLine secretLine = .ok ⟨"GET".toList, "/%2e%2e/secret.txt".toList⟩ ∧
    siteServer.leadsInside secretTree (pathOf "/%2e%2e/secret.txt") = false ∧
    ∀ host listing,
      Discreet siteServer host listing secretTree secretLine "/%2e%2e/secret.txt" :=
  ⟨by decide +kernel, by decide +kernel, by decide +kernel, fun host listing =>
    discreet_exchange host listing (by decide +kernel) (by decide +kernel)⟩

/-- A target beside the site, with a name that is longer than names can be. -/
def overlongTarget : Text := "/../".toList ++ List.replicate 300 'a'

/-- A request for it. -/
def overlongLine : Text := "GET ".toList ++ overlongTarget ++ " HTTP/1.1".toList

/-- The files with a directory beside the site in which no name may be looked up. -/
def closedTree : FileTree :=
  { secretTree with
    nodes := secretTree.nodes ++ [(["private".toList], .directory)]
    refusal? := fun access l =>
      if access = .search ∧ l = ["private".toList] then some ⟨13, "Permission denied"⟩ else none }

/-- A target in that directory. -/
def closedTarget : Text := "/../private/x"

/-- A request for it. -/
def closedLine : Text := "GET /../private/x HTTP/1.1"

/-- **What is outside of the site is not always answered by a failure.** A name that is too long is
    not answered at all, and the answer tells a directory that may not be searched from none. -/
theorem unanswered_outside :
    (siteServer.leadsInside secretTree (pathOf overlongTarget) = false ∧
      ∀ m c, siteServer.exchange secretTree m c overlongLine = c.giveUp []) ∧
    siteServer.leadsInside secretTree (pathOf closedTarget) = false ∧
      ∀ m c, siteServer.exchange secretTree m c closedLine =
          c.respond true .notFound (responseNotes closedLine .notFound) ∧
        siteServer.exchange closedTree m c closedLine = c.giveUp [] := by
  have hlong : siteServer.leadsInside secretTree (pathOf overlongTarget) = false := by
    decide +kernel
  have hclosed : siteServer.leadsInside secretTree (pathOf closedTarget) = false := by
    decide +kernel
  have hunnamed : ¬ siteServer.LooksUp secretTree (pathOf overlongTarget) := by
    intro h
    obtain ⟨there, hthere⟩ := h _ List.mem_cons_self
    have hfault :
        (secretTree.isFile (siteServer.templateOf (pathOf overlongTarget))).toOption = none := by
      decide +kernel
    rw [hthere] at hfault
    cases hfault
  have hrefused : ¬ siteServer.LooksUp closedTree (pathOf closedTarget) := by
    intro h
    obtain ⟨there, hthere⟩ := h _ List.mem_cons_self
    have hfault :
        (closedTree.isFile (siteServer.templateOf (pathOf closedTarget))).toOption = none := by
      decide +kernel
    rw [hthere] at hfault
    cases hfault
  have hlooked : siteServer.LooksUp secretTree (pathOf closedTarget) := by
    intro file hfile
    have hall : ∀ file ∈ [siteServer.templateOf (pathOf closedTarget),
        siteServer.assetOf (pathOf closedTarget)], secretTree.isFile file = .ok false := by
      decide +kernel
    exact ⟨false, hall file hfile⟩
  have hgetLong : ofLine overlongLine = .ok ⟨"GET".toList, overlongTarget⟩ := by decide +kernel
  have hgetClosed : ofLine closedLine = .ok ⟨"GET".toList, closedTarget⟩ := by decide +kernel
  refine ⟨⟨hlong, fun m c => ?_⟩, hclosed, fun m c => ⟨?_, ?_⟩⟩
  · exact (exchange_of_outside m c (by decide +kernel) hgetLong (by decide +kernel) rfl hlong
      (by decide +kernel)).2 hunnamed
  · exact (exchange_of_outside m c (by decide +kernel) hgetClosed (by decide +kernel) rfl hclosed
      (by decide +kernel)).1 hlooked
  · have hcwd : closedTree.cwd = secretTree.cwd := rfl
    exact (exchange_of_outside m c (by decide +kernel) hgetClosed (by decide +kernel) hcwd hclosed
      (by decide +kernel)).2 hrefused

end DevSite
end PageLoom
