import PageLoom.Decimal.Quantity
import PageLoom.DevServer.Route
import PageLoom.LiveReload.Broadcaster

set_option autoImplicit false

/-! # The life of a dev server

A dev server starts the bundler's server, a watcher and a listener, in this order, and stops what
it started in an order that loses no request: first nobody new is let in, then the watcher and the
bundler's server stop, then open streams are ended and requests may finish, and last the listener is
closed. It is stopped once; a later stop does nothing. -/

namespace PageLoom

/-- What a dev server asks of those it works with. -/
inductive ServerCall where
  /-- Installs the bundler's project. -/
  | install (directory : Text)
  | makeBundler (directory : Text) (startupWait : Quantity)
  | startBundler
  | stopBundler (grace : Quantity)
  | makeWatcher (root : Text)
  | startWatcher
  | stopWatcher
  | listen (host : Text) (port : Int)
  /-- Lets nobody new in. -/
  | shutdown
  /-- Waits for requests in flight; says whether open streams were told to end. -/
  | drain (limit : Quantity) (closing : Bool)
  | closeListener

/-- How those it works with behave. -/
structure Surroundings where
  /-- Why the bundler's project cannot be installed, if it cannot. -/
  installFault : Option Text := none
  bundlerFault : Option Text := none
  watcherFault : Option Text := none
  listenerFault : Option Text := none
  /-- Requests do not finish in time. -/
  busy : Bool := false
  /-- The port that is free when any will do. -/
  freePort : Int

/-- Why a dev server does not start. -/
inductive StartFault where
  | bundler (report : Text)
  | watcher (report : Text)
  | listener (report : Text)
  deriving DecidableEq, Repr

/-- A listener. -/
structure Listener where
  host : Text
  port : Int
  /-- Open streams were told to end. -/
  closing : Bool
  deriving DecidableEq, Repr

/-- A dev server. -/
structure DevServer where
  site : DevSite
  bundlerDir : Option Text
  host : Text
  port : Int
  broadcaster : LiveReload.Broadcaster
  /-- Whether there is a watcher. -/
  watcher : Bool
  /-- Whether there is a bundler's server. -/
  bundler : Bool
  listener : Option Listener
  stopped : Bool

/-- What a step did. -/
structure ServerTrace where
  calls : List ServerCall
  notes : List Entry

namespace ServerTrace

/-- Nothing was done. -/
def none : ServerTrace := ⟨[], []⟩

/-- One step after another. -/
def append (s t : ServerTrace) : ServerTrace := ⟨s.calls ++ t.calls, s.notes ++ t.notes⟩

instance : Append ServerTrace := ⟨append⟩

/-- Calls without notes. -/
def ofCalls (calls : List ServerCall) : ServerTrace := ⟨calls, []⟩

end ServerTrace

namespace DevServer

/-- A new dev server. What is not given is taken from the settings; an empty address of the
    bundler's server counts as not given. -/
def make (settings : Settings) (site : Text) (bundlerDir host : Option Text) (port : Option Int)
    (bundlerUrl : Option Text) : DevServer where
  site := ⟨settings, SitePath.tidy site,
    (bundlerUrl.filter fun u => !u.isEmpty).getD settings.bundlerUrl⟩
  bundlerDir := bundlerDir.map SitePath.tidy
  host := host.getD settings.devHost
  port := port.getD settings.devPort
  broadcaster := .empty
  watcher := false
  bundler := false
  listener := none
  stopped := false

/-- Where the server listens, or is going to. -/
def address (s : DevServer) : Text × Int :=
  match s.listener with
  | some l => (l.host, l.port)
  | none => (s.host, s.port)

/-- Starts the bundler's server, if there is a project. A server that fails to start is only
    warned about. -/
def startBundler (around : Surroundings) (s : DevServer) :
    DevServer × ServerTrace × Except StartFault Unit :=
  match s.bundlerDir with
  | none => (s, .none, .ok ())
  | some directory =>
      match around.installFault with
      | some report => (s, .ofCalls [.install directory], .error (.bundler report))
      | none =>
          let calls := [.install directory,
            .makeBundler directory s.site.settings.bundlerStartup, .startBundler]
          match around.bundlerFault with
          | some report =>
              ({ s with bundler := false }, ⟨calls,
                [.warning ("Warning: Vite dev server failed to start: " ++ report)]⟩, .ok ())
          | none => ({ s with bundler := true }, .ofCalls calls, .ok ())

/-- Starts a watcher of the site. -/
def startWatcher (around : Surroundings) (s : DevServer) :
    DevServer × ServerTrace × Except StartFault Unit :=
  ({ s with watcher := true }, .ofCalls [.makeWatcher s.site.site, .startWatcher],
    match around.watcherFault with
    | some report => .error (.watcher report)
    | none => .ok ())

/-- Starts to listen. -/
def startListener (around : Surroundings) (s : DevServer) :
    DevServer × ServerTrace × Except StartFault Unit :=
  let calls := [.listen s.host s.port]
  match around.listenerFault with
  | some report => (s, .ofCalls calls, .error (.listener report))
  | none =>
      let port := if s.port = 0 then around.freePort else s.port
      ({ s with listener := some ⟨s.host, port, false⟩ }, ⟨calls,
        [.info ("Vaayu dev server running at http://" ++ s.host ++ ":" ++ Text.ofInt port)]⟩,
        .ok ())

/-- One step of a start after another; the first that fails is the last. -/
def andThen (first second : DevServer → DevServer × ServerTrace × Except StartFault Unit)
    (s : DevServer) : DevServer × ServerTrace × Except StartFault Unit :=
  match first s with
  | (s, trace, .error fault) => (s, trace, .error fault)
  | (s, trace, .ok ()) =>
      let (s, rest, result) := second s
      (s, trace ++ rest, result)

/-- Starts the server. -/
def start (around : Surroundings) :
    DevServer → DevServer × ServerTrace × Except StartFault Unit :=
  andThen (startBundler around) (andThen (startWatcher around) (startListener around))

/-- What a stop does, one thing after the other. -/
inductive StopStep where
  /-- Lets nobody new in. -/
  | shutdown
  | stopWatcher
  | stopBundler
  /-- Tells open streams to end. -/
  | endStreams
  /-- Waits for requests in flight. -/
  | drain
  | closeListener
  /-- Waits for the listener's own thread. -/
  | joinListener
  deriving DecidableEq, Repr

/-- The steps of a stop: each is taken only if there is what it stops. -/
def stopSteps (s : DevServer) : List StopStep :=
  (if s.listener.isSome then [.shutdown] else []) ++
    (if s.watcher then [.stopWatcher] else []) ++
    (if s.bundler then [.stopBundler] else []) ++
    (if s.listener.isSome then [.endStreams, .drain, .closeListener, .joinListener] else [])

/-- Takes a step of a stop. -/
def perform (around : Surroundings) (s : DevServer) : StopStep → DevServer × ServerTrace
  | .shutdown => (s, .ofCalls [.shutdown])
  | .stopWatcher => (s, .ofCalls [.stopWatcher])
  | .stopBundler => (s, .ofCalls [.stopBundler s.site.settings.bundlerGrace])
  | .endStreams =>
      ({ s with listener := s.listener.map fun l => { l with closing := true } }, .none)
  | .drain =>
      (s, ⟨[.drain s.site.settings.shutdownGrace (s.listener.any (·.closing))],
        if around.busy then [.warning "Shutdown grace period expired with requests in flight"]
        else []⟩)
  | .closeListener => (s, .ofCalls [.closeListener])
  | .joinListener => (s, .none)

/-- Takes some steps of a stop. -/
def performAll (around : Surroundings) : DevServer → List StopStep → DevServer × ServerTrace
  | s, [] => (s, .none)
  | s, step :: rest =>
      let (s, trace) := s.perform around step
      let (s, others) := performAll around s rest
      (s, trace ++ others)

/-- Stops the server, unless it was stopped before. -/
def stop (around : Surroundings) (s : DevServer) : DevServer × ServerTrace :=
  if s.stopped then (s, .none)
  else
    let (s, trace) := s.performAll around s.stopSteps
    ({ s with stopped := true }, trace ++ ⟨[], [.info "Dev server stopped"]⟩)

/-- Starts the server and stops it when it is asked to, or when it does not start. -/
def serve (around : Surroundings) (s : DevServer) :
    DevServer × ServerTrace × Except StartFault Unit :=
  let (s, started, result) := s.start around
  let (s, stopped) := s.stop around
  (s, started ++ stopped, result)

/-- A page connects to the live-reload stream. -/
def connect (s : DevServer) : DevServer × Nat :=
  let (b, id) := s.broadcaster.connect
  ({ s with broadcaster := b }, id)

/-- The watcher reports a change: how many pages were signalled, if there is a watcher. -/
def change (s : DevServer) : DevServer × ServerTrace × Option Nat :=
  if s.watcher then
    let (b, delivered) := s.broadcaster.broadcast
    ({ s with broadcaster := b }, ⟨[], [LiveReload.Broadcaster.note delivered]⟩, some delivered)
  else (s, .none, none)

end DevServer
end PageLoom
