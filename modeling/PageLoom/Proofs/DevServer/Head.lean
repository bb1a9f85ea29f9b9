import PageLoom.DevServer.Exchange
import PageLoom.Proofs.DevServer.Disclosure
import PageLoom.Proofs.DevServer.PercentEncoding
import PageLoom.Proofs.Site.Report

set_option autoImplicit false

/-! # Heads

A request for the head of something is decided as one for the whole of it, and only then is the
body left out. So whatever answers a target, the two heads are the same (`Bodiless`), and the head
that comes alone still tells how long the body would be. On the live-reload path, the one goes on
with the stream, and the other leaves no trace in the registry.

A page is compiled anew for each of the two requests, so its head is the same if it comes to the
same page. And a request line that is too long is not read. The line that asks for a head is the
longer one by a character, so one length of a target is refused to the one and not to the other
(`differing_heads`). -/

namespace PageLoom

/-! ## What answers a target -/

/-- A head that tells how long a body is. -/
def Head.Announces (h : Head) (body : Octets) : Prop :=
  ("Content-Length".toList, Text.ofNat body.length) ∈ h.headers

namespace Response

theorem announces_content (status : Nat) (reason type : Text) (body : Octets) :
    (content status reason type body).head.Announces body :=
  List.mem_cons_of_mem _ List.mem_cons_self

theorem announces_failure (status : Nat) (reason explanation : Text) :
    (failure status reason explanation).head.Announces (failure status reason explanation).body :=
  List.mem_cons_of_mem _ (List.mem_cons_of_mem _ List.mem_cons_self)

end Response

namespace DevSite

variable {s : DevSite} {tree : FileTree} {m m' : Renderer} {target file : Text}

/-- What may answer a path: a response that tells how long its body is, or nothing. -/
inductive Settled : ServerAnswer → Prop
  | response {r : Response} (h : r.head.Announces r.body) : Settled (.response r)
  | nothing (fault : ServerFault) : Settled (.none fault)

theorem Settled.ne_stream {answer : ServerAnswer} (h : Settled answer) : answer ≠ .stream := by
  cases h <;> exact nofun

theorem settled_answerPage (s : DevSite) (tree : FileTree) (m : Renderer) (file : Text) :
    Settled (s.answerPage tree m file).1 := by
  unfold answerPage
  split
  · exact .response (Response.announces_content ..)
  · exact .response (Response.announces_content ..)
  · exact .nothing _

theorem settled_answerAsset (tree : FileTree) (file : Text) :
    Settled (.response (answerAsset tree file)) := by
  unfold answerAsset
  split
  · exact .response (Response.announces_content ..)
  · exact .response (Response.announces_failure ..)

/-- Every route settles the path. -/
theorem settled_answer (s : DevSite) (tree : FileTree) (m : Renderer) (path : Text) :
    Settled (s.answer tree m path).1 := by
  unfold answer
  split
  next file _ => exact settled_answerPage s tree m file
  next file _ => exact settled_answerAsset tree file
  next => exact .response (Response.announces_failure ..)
  next fault _ => exact .nothing _

/-- A target that opens the live-reload stream. -/
structure IsLive (s : DevSite) (target : Text) : Prop where
  sound : RequestTarget.isSound target = true
  path : RequestTarget.encodedPath target = s.settings.liveReloadPath

theorem answerTarget_of_isLive (h : s.IsLive target) :
    s.answerTarget tree m target = (.stream, []) := by
  rw [answerTarget, if_neg (not_not_intro h.sound), if_pos h.path]

theorem settled_answerTarget (s : DevSite) (tree : FileTree) (m : Renderer)
    (h : ¬ s.IsLive target) : Settled (s.answerTarget tree m target).1 := by
  rw [answerTarget]
  split
  next => exact .nothing _
  next hsound =>
    split
    next hpath => exact absurd ⟨not_not.1 hsound, hpath⟩ h
    next => exact settled_answer ..

/-! ## Two compiles -/

/-- Two compiles of the template that a target leads to come to the same, and sources are listed
    alike. -/
def SamePage (s : DevSite) (tree : FileTree) (m m' : Renderer) (target : Text) : Prop :=
  ∀ file, s.route tree (pathOf target) = .ok (.template file) →
    (m'.compile file).1 = (m.compile file).1 ∧ m'.listing = m.listing

theorem answerPage_congr (hpage : (m'.compile file).1 = (m.compile file).1)
    (hlisting : m'.listing = m.listing) :
    (s.answerPage tree m' file).1 = (s.answerPage tree m file).1 := by
  unfold answerPage
  rw [hlisting]
  generalize m.compile file = compiled at hpage
  generalize m'.compile file = compiled' at hpage
  obtain ⟨result, notes⟩ := compiled
  obtain ⟨result', notes'⟩ := compiled'
  obtain rfl : result' = result := hpage
  cases result' with
  | ok page => rfl
  | error fault => cases fault <;> rfl

theorem answerTarget_congr (h : s.SamePage tree m m' target) :
    (s.answerTarget tree m' target).1 = (s.answerTarget tree m target).1 := by
  rw [answerTarget, answerTarget]
  split
  next => rfl
  next =>
    split
    next => rfl
    next =>
      unfold answer
      cases hroute : s.route tree (pathOf target) with
      | error fault => rfl
      | ok route =>
          cases route with
          | template file =>
              obtain ⟨hpage, hlisting⟩ := h file hroute
              exact answerPage_congr hpage hlisting
          | asset file => rfl
          | missing => rfl

end DevSite

/-! ## Asking for the head alone -/

namespace Request

open DevSite

variable {s : DevSite} {tree : FileTree} {m m' : Renderer} {line target : Text}

theorem answer_head (h : ofLine line = .ok ⟨"HEAD".toList, target⟩)
    (hother : (s.answerTarget tree m target).1 ≠ .stream) :
    answer s tree m line = conclude line true (s.answerTarget tree m target) := by
  have hget : "HEAD".toList ≠ "GET".toList := by decide
  rw [answer, h]
  dsimp only
  rw [if_neg hget, if_pos rfl]
  split
  next notes hstream =>
    rw [hstream] at hother
    exact absurd rfl hother
  next => rfl

theorem answer_head_of_isLive (h : ofLine line = .ok ⟨"HEAD".toList, target⟩)
    (hlive : s.IsLive target) :
    answer s tree m line = conclude line true (.response .streamHead, []) := by
  have hget : "HEAD".toList ≠ "GET".toList := by decide
  rw [answer, h]
  dsimp only
  rw [if_neg hget, if_pos rfl, answerTarget_of_isLive hlive]

/-- A line that is not too long is answered with a head. -/
theorem exchange_line {method : Text} {c : Circumstances}
    (hmethod : method.any Text.isBlank = false) (hsome : method ≠ [])
    (hfree : target.any Text.isBlank = false) (hne : target ≠ [])
    (hfits : isTooLong (Request.line method target) = false) :
    s.exchange tree m c (Request.line method target) =
      c.carryOut true s.settings.keepAlive.toFloat
        (answer s tree m (Request.line method target)) := by
  rw [exchange, hfits, hasHead_line hmethod hsome hfree hne]
  rfl

/-- What the exchange for the head of a target, in some circumstances, has to do with the exchange
    for the whole of it. One is answered if the other is, by a head with the same status and fields;
    a field tells how long the body is. -/
structure Bodiless (s : DevSite) (target : Text) (c c' : Circumstances) (whole bare : Exchange) :
    Prop where
  answered : bare.answered = whole.answered
  head : bare.head = whole.head
  body : bare.body = []
  stream : bare.stream = none
  registry : bare.registry = c'.registry
  announced : whole.stream = none → ∀ h ∈ whole.head, h.Announces whole.body
  /-- On the live-reload path the head of the stream comes, and then the stream. -/
  live : s.IsLive target →
    whole.head = some Response.streamHead.head ∧
      whole.stream = some (c.attend s.settings.keepAlive.toFloat) ∧
      whole.body = Utf8.encode (c.attend s.settings.keepAlive.toFloat).written.flatten ∧
      whole.registry = (c.attend s.settings.keepAlive.toFloat).registry
  other : ¬ s.IsLive target → whole.stream = none ∧ whole.registry = c.registry

section Bodiless

variable {c c' : Circumstances}

/-- What is not answered with a body is not answered without. -/
theorem bodiless_giveUp (hother : ¬ s.IsLive target) (notes notes' : List Entry) :
    Bodiless s target c c' (c.giveUp notes) (c'.giveUp notes') := by
  constructor
  case announced => exact fun _ h hmem => absurd hmem nofun
  case live => exact fun hlive => absurd hlive hother
  case other => exact fun _ => ⟨rfl, rfl⟩
  all_goals rfl

theorem bodiless_respond (hother : ¬ s.IsLive target) {r : Response}
    (hannounced : r.head.Announces r.body) (notes notes' : List Entry) :
    Bodiless s target c c' (c.respond true r notes) (c'.respond true r.withoutBody notes') := by
  constructor
  case announced =>
    intro _ h hmem
    obtain rfl := Option.mem_some.1 hmem
    exact hannounced
  case live => exact fun hlive => absurd hlive hother
  case other => exact fun _ => ⟨rfl, rfl⟩
  all_goals rfl

theorem bodiless_follow (hlive : s.IsLive target) (notes notes' : List Entry) :
    Bodiless s target c c' (c.follow true s.settings.keepAlive.toFloat notes)
      (c'.respond true Response.streamHead.withoutBody notes') := by
  constructor
  case announced => exact fun hnone => absurd hnone nofun
  case live => exact fun _ => ⟨rfl, rfl, rfl, rfl⟩
  case other => exact fun hother => absurd hlive hother
  all_goals rfl

/-- What is decided for a target that is not live is carried out with a body or without. -/
theorem bodiless_carryOut (hother : ¬ s.IsLive target) {whole bare : ServerAnswer × List Entry}
    (hsettled : Settled whole.1) (hsame : bare.1 = whole.1) (line line' : Text) :
    Bodiless s target c c'
      (c.carryOut true s.settings.keepAlive.toFloat (conclude line false whole))
      (c'.carryOut true s.settings.keepAlive.toFloat (conclude line' true bare)) := by
  obtain ⟨answered, notes⟩ := whole
  obtain ⟨answered', notes'⟩ := bare
  obtain rfl : answered' = answered := hsame
  cases hsettled with
  | response hannounced => exact bodiless_respond hother hannounced _ _
  | nothing fault => exact bodiless_giveUp hother _ _

end Bodiless

/-- **A head is what stands before the body**, if the two requests compile to the same page. This
    holds of every target that a line can ask for, and even where the two requests come in different
    circumstances. -/
theorem bodiless_exchange (s : DevSite) (tree : FileTree) (m m' : Renderer) (c c' : Circumstances)
    (target : Text) (hne : target ≠ []) (hfree : target.any Text.isBlank = false)
    (hfits : isTooLong (Request.line "HEAD" target) = false)
    (hsame : s.SamePage tree m m' (foldSlashes target)) :
    Bodiless s (foldSlashes target) c c'
      (s.exchange tree m c (Request.line "GET" target))
      (s.exchange tree m' c' (Request.line "HEAD" target)) := by
  have hlineGet := @ofLine_line "GET".toList target (by decide) (by decide) hfree hne
  have hlineHead := @ofLine_line "HEAD".toList target (by decide) (by decide) hfree hne
  -- The other line is shorter.
  have hfitsGet : isTooLong (Request.line "GET" target) = false := by
    simp only [isTooLong, length_line, decide_eq_false_iff_not] at hfits ⊢
    have hshorter : "GET".toList.length ≤ "HEAD".toList.length := by decide
    omega
  rw [exchange_line (by decide) (by decide) hfree hne hfitsGet,
    exchange_line (by decide) (by decide) hfree hne hfits, answer_get hlineGet]
  by_cases hlive : s.IsLive (foldSlashes target)
  · rw [answer_head_of_isLive hlineHead hlive, answerTarget_of_isLive hlive]
    exact bodiless_follow hlive _ _
  · have hsettled := settled_answerTarget s tree m hlive
    have hsettled' := settled_answerTarget s tree m' hlive
    rw [answer_head hlineHead hsettled'.ne_stream]
    exact bodiless_carryOut hlive hsettled (answerTarget_congr hsame) _ _

/-- A stream that takes one signal while it lasts. -/
def reloading : Circumstances where
  registry := .empty
  time := 0.0
  peer := {}
  closing := false
  turns := [{ deeds := [.offer 1 LiveReload.reloadSignal], now := 1.0, afterWrite := 1.0 }]
  late := []

/-- The renderer of the site with a file beside it, which has no scripts. -/
def secretRenderer : Renderer := siteServer.renderer Build.idleHost id secretTree

theorem bodiless_liveReload :
    "/__live_reload".toList ≠ [] ∧ "/__live_reload".toList.any Text.isBlank = false ∧
    isTooLong (Request.line "HEAD" "/__live_reload") = false ∧
    siteServer.SamePage secretTree secretRenderer secretRenderer (foldSlashes "/__live_reload") ∧
    siteServer.IsLive (foldSlashes "/__live_reload") ∧
    Bodiless siteServer (foldSlashes "/__live_reload") reloading reloading
      (siteServer.exchange secretTree secretRenderer reloading
        (Request.line "GET" "/__live_reload"))
      (siteServer.exchange secretTree secretRenderer reloading
        (Request.line "HEAD" "/__live_reload")) :=
  ⟨by decide, by decide, by decide, fun _ _ => ⟨rfl, rfl⟩, ⟨by decide +kernel, by decide +kernel⟩,
    bodiless_exchange _ _ _ _ _ _ _ (by decide) (by decide) (by decide) fun _ _ => ⟨rfl, rfl⟩⟩

/-! ## Heads that differ -/

/-- A tree in which there is nothing. -/
def bareTree : FileTree where
  nodes := []
  cwd := []

/-- A target with a long query. -/
def queryTarget (n : Nat) : Text := '/' :: '?' :: List.replicate n 'a'

section QueryTarget

variable (n : Nat)

theorem length_queryTarget : (queryTarget n).length = n + 2 := by
  rw [queryTarget, List.length_cons, List.length_cons, List.length_replicate]

theorem mem_queryTarget {n : Nat} {d : Char} (h : d ∈ queryTarget n) :
    d = '/' ∨ d = '?' ∨ d = 'a' := by
  rw [queryTarget, List.mem_cons, List.mem_cons] at h
  exact h.imp_right (Or.imp_right List.eq_of_mem_replicate)

theorem free_queryTarget : (queryTarget n).any Text.isBlank = false := by
  rw [List.any_eq_false]
  intro d hd
  rcases mem_queryTarget hd with rfl | rfl | rfl <;> decide

theorem not_slashes_queryTarget : "//".toList.isPrefixOf (queryTarget n) = false := rfl

theorem foldSlashes_queryTarget : foldSlashes (queryTarget n) = queryTarget n := by
  rw [foldSlashes, not_slashes_queryTarget]
  rfl

/-- Nothing stands before its path. -/
theorem splitScheme_queryTarget :
    RequestTarget.splitScheme (RequestTarget.kept (queryTarget n)) = ([], queryTarget n) := by
  have hvisible : ∀ d ∈ queryTarget n, 33 ≤ d.toNat := by
    intro d hd
    rcases mem_queryTarget hd with rfl | rfl | rfl <;> decide
  have hcolon : ':' ∉ queryTarget n := fun hd => by simpa using mem_queryTarget hd
  rw [RequestTarget.kept_of_visible hvisible, RequestTarget.splitScheme_of_not_mem hcolon]

theorem encodedPath_queryTarget : RequestTarget.encodedPath (queryTarget n) = ['/'] := by
  have hmark : '#' ∉ queryTarget n := fun hd => by simpa using mem_queryTarget hd
  rw [RequestTarget.encodedPath, splitScheme_queryTarget, RequestTarget.pathOfRest]
  simp only [not_slashes_queryTarget, Bool.false_eq_true, if_false,
    RequestTarget.takeWhile_ne_of_not_mem hmark]
  rfl

theorem isSound_queryTarget : RequestTarget.isSound (queryTarget n) = true := by
  simp only [RequestTarget.isSound, RequestTarget.host?, splitScheme_queryTarget,
    not_slashes_queryTarget, Bool.false_eq_true, if_false, Option.all_none]

/-- The exchange for a target with a long query, where there is nothing. -/
def queryExchange (m : Renderer) (method : Text) (n : Nat) : Exchange :=
  siteServer.exchange bareTree m reloading (Request.line method (queryTarget n))

/-- As long as the line can be read, nothing is found. -/
theorem queryExchange_get (m : Renderer) (hfits : n ≤ 65519) :
    queryExchange m "GET" n = reloading.respond true .notFound
      (responseNotes (Request.line "GET" (queryTarget n)) .notFound) := by
  have hne : queryTarget n ≠ [] := List.cons_ne_nil _ _
  have hline := @ofLine_line "GET".toList _ (by decide) (by decide) (free_queryTarget n) hne
  rw [foldSlashes_queryTarget] at hline
  have hother : ['/'] ≠ siteServer.settings.liveReloadPath := by decide
  have hroute : siteServer.route bareTree (RequestTarget.decode ['/']) = .ok .missing := by
    decide +kernel
  have hdecided :
      siteServer.answerTarget bareTree m (queryTarget n) = (.response .notFound, []) := by
    rw [answerTarget, encodedPath_queryTarget, if_neg (not_not_intro (isSound_queryTarget n)),
      if_neg hother]
    unfold DevSite.answer
    rw [hroute]
  have hshort : isTooLong (Request.line "GET" (queryTarget n)) = false := by
    rw [isTooLong, length_line, length_queryTarget, decide_eq_false_iff_not, longestLine]
    have hlength : "GET".toList.length = 3 := rfl
    omega
  rw [queryExchange, exchange_line (by decide) (by decide) (free_queryTarget n) hne hshort,
    answer_get hline, hdecided]
  rfl

/-- One character more makes the line too long. -/
theorem queryExchange_head (m : Renderer) (hlong : 65519 ≤ n) :
    queryExchange m "HEAD" n =
      reloading.respond true .lineTooLong (responseNotes [] .lineTooLong) := by
  have hrefused : isTooLong (Request.line "HEAD" (queryTarget n)) = true := by
    rw [isTooLong, length_line, length_queryTarget, decide_eq_true_eq, longestLine]
    have hlength : "HEAD".toList.length = 4 := rfl
    omega
  rw [queryExchange, exchange, hrefused]
  rfl

end QueryTarget

/-- A page that tells the time. -/
def clockSource : Text := "Now: " ++ Marker.opening ++ " Date.now() " ++ Marker.closing

/-- The site of that page. -/
def clockTree : FileTree where
  nodes := [(["site".toList], .directory),
    (["site".toList, "index.vyu".toList], .file (Utf8.encode clockSource))]
  cwd := []

/-- A host for scripts that ask for the time. -/
def clockHost (time : Text) : EngineHost where
  State := Unit
  engine := ⟨fun _ s => (⟨.ok (), .none⟩, s), fun _ s => (⟨.ok time, .none⟩, s)⟩
  start _ _ := ()

/-- The exchange for the page at some time. -/
def clockExchange (method time : Text) : Exchange :=
  siteServer.exchange clockTree (siteServer.renderer (clockHost time) id clockTree) reloading
    (Request.line method "/")

/-- **The head of a target may be another one.** The whole of a target is asked for and not found,
    and the line that asks for its head is refused, with a body. And between two requests a page can
    become longer. -/
theorem differing_heads :
    (∀ m m', queryTarget 65519 ≠ [] ∧ (queryTarget 65519).any Text.isBlank = false ∧
      (queryExchange m "GET" 65519).head = some Response.notFound.head ∧
      (queryExchange m' "HEAD" 65519).head = some Response.lineTooLong.head ∧
      (queryExchange m' "HEAD" 65519).head ≠ (queryExchange m "GET" 65519).head ∧
      (queryExchange m' "HEAD" 65519).body ≠ []) ∧
    (clockExchange "GET" "9").answered = true ∧ (clockExchange "HEAD" "10").answered = true ∧
      (clockExchange "HEAD" "10").head ≠ (clockExchange "GET" "9").head := by
  have hdiffer : Response.lineTooLong.head ≠ Response.notFound.head :=
    fun hsame => absurd (congrArg Head.status hsame) (by decide)
  refine ⟨fun m m' => ?_, by decide +kernel, by decide +kernel, by decide +kernel⟩
  rw [queryExchange_get 65519 m le_rfl, queryExchange_head 65519 m' le_rfl]
  refine ⟨List.cons_ne_nil _ _, free_queryTarget 65519, rfl, rfl, ?_, ?_⟩
  · exact fun hsame => hdiffer (Option.some.inj hsame)
  · exact fun hnone => absurd hnone (by decide +kernel)

end Request
end PageLoom
