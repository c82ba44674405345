import Threadwire.Domain.ProjectIdentity
import Threadwire.Response.ResponseStreamConsumer

/-!
# Turns

The data of a turn: where it goes, what it yields, and the events of its response (`turn/types.ts`,
`response/types.ts` and the request types of `controller/ThreadwireController.ts`).
-/

namespace Threadwire

/-- `TurnTarget`. -/
inductive TurnTarget where
  | thread (threadHandle : ThreadHandle)
  | fresh
  | project (projectLocator : ProjectLocator)
deriving DecidableEq, Repr

/-- `ControllerTurnTarget`. -/
inductive ControllerTurnTarget where
  | thread (threadHandle : ThreadHandle)
  | fresh
  | project (projectHandle : ProjectHandle)
deriving DecidableEq, Repr

/-- `ControllerTurnRequest`. -/
structure ControllerTurnRequest where
  target : ControllerTurnTarget
  prompt : Text
deriving DecidableEq, Repr

/-- `TurnResult`; its `kind` is always `THREAD`. -/
structure TurnResult where
  threadHandle : ThreadHandle
  created : Bool
deriving DecidableEq, Repr

/-- `ResponseStreamEvent`. -/
inductive ResponseStreamEvent where
  | textDelta (text : Text)
  | finalText (text : Text)
  | completed
deriving DecidableEq, Repr

/-- `RouteExpectation`. -/
inductive RouteExpectation where
  | thread (locator : ConversationLocator)
  | freshRoot
  | projectRoot (locator : ProjectLocator)
deriving DecidableEq, Repr

end Threadwire
