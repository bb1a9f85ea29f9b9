import PageLoom.DevServer.Request
import PageLoom.LiveReload.Stream

set_option autoImplicit false

/-! # Exchanges

What a request line brings about. A head goes first, if the request knows of heads, and behind it
the body, or for the live-reload stream the events of the stream, which is registered meanwhile. A
line that is too long is refused before it is read. -/

namespace PageLoom

/-- What stands before a body. The clock and the name of the server are left out. -/
structure Head where
  status : Nat
  reason : Text
  headers : List (Text × Text)
  deriving DecidableEq, Repr

/-- How a server and a connection stand when a request comes, and what happens around them while the
    request is served. -/
structure Circumstances where
  registry : LiveReload.Broadcaster
  time : Float
  peer : LiveReload.Peer
  /-- The server is closing already. -/
  closing : Bool
  /-- The turns of a stream. -/
  turns : List LiveReload.Turn
  /-- What others do in the registry when a stream has ended. -/
  late : List LiveReload.Deed

/-- What a request brings about. -/
structure Exchange where
  /-- Whether there is an answer. -/
  answered : Bool
  /-- The head of the answer, if it has one. -/
  head : Option Head
  /-- What is written behind the head. -/
  body : Octets
  /-- The stream that was held open. -/
  stream : Option LiveReload.Stream
  /-- The registry afterwards. -/
  registry : LiveReload.Broadcaster
  notes : List Entry

namespace Response

/-- What stands before the body of a response. -/
def head (r : Response) : Head := ⟨r.status, r.reason, r.headers⟩

end Response

namespace Circumstances

/-- A response, and nothing done in the registry. -/
def respond (c : Circumstances) (hasHead : Bool) (r : Response) (notes : List Entry) : Exchange :=
  ⟨true, if hasHead then some r.head else none, r.body, none, c.registry, notes⟩

/-- No answer. -/
def giveUp (c : Circumstances) (notes : List Entry) : Exchange :=
  ⟨false, none, [], none, c.registry, notes⟩

/-- A stream that is held open. -/
def attend (c : Circumstances) (keepAlive : Float) : LiveReload.Stream :=
  .attend c.registry keepAlive c.time c.peer c.closing c.turns c.late

/-- The head of a stream, and the stream. -/
def follow (c : Circumstances) (hasHead : Bool) (keepAlive : Float) (notes : List Entry) :
    Exchange :=
  let stream := c.attend keepAlive
  ⟨true, if hasHead then some Response.streamHead.head else none,
    Utf8.encode stream.written.flatten, some stream, stream.registry,
    notes ++ LiveReload.Stream.notes stream.id⟩

/-- Carries out what was decided. -/
def carryOut (c : Circumstances) (hasHead : Bool) (keepAlive : Float) :
    ServerAnswer × List Entry → Exchange
  | (.response r, notes) => c.respond hasHead r notes
  | (.stream, notes) => c.follow hasHead keepAlive notes
  | (.none _, notes) => c.giveUp notes

end Circumstances

/-- What a request line brings about in a site's server. -/
def DevSite.exchange (s : DevSite) (tree : FileTree) (m : Renderer) (c : Circumstances)
    (line : Text) : Exchange :=
  if Request.isTooLong line then
    c.respond true .lineTooLong (Request.responseNotes [] .lineTooLong)
  else c.carryOut (Request.hasHead line) s.settings.keepAlive.toFloat
    (Request.answer s tree m line)

end PageLoom
