import PageLoom.Page.Engine
import PageLoom.Script.Session

set_option autoImplicit false

/-! # Sessions as engines

A session answers what a compile asks of an engine. Every compile has a session of its own. -/

namespace PageLoom
namespace Script

/-- What a session's fault is for a compile. A closed session and a refused script are no doing of
    the script. -/
def Fault.toEngine : Fault → Engine.Fault
  | .closed => .escaped "RuntimeError" Fault.closed.message
  | .nullCharacter => .escaped "ValueError" Fault.nullCharacter.message
  | .stopped report => .stopped report

namespace Session

/-- The answer of a session. -/
def reply {α : Type} : Except Fault α × List Effect × Session → Reply α × Session
  | (result, effects, s) =>
      (⟨result.mapError Fault.toEngine, stylesheetsIn effects, scriptsIn effects⟩, s)

/-- Sessions as an engine. -/
def engine : Engine Session where
  declare code s := reply (s.declare code)
  evaluate code s := reply (s.evaluate code)

/-- A session for each compile, with the limits that are set. -/
def host : EngineHost where
  State := Session
  engine := engine
  start settings _ := start settings.scriptTimeLimit settings.scriptMemoryLimit

end Session
end Script
end PageLoom
