import Mathlib.Tactic.Common

/-!
# Errors

The error classes of `domain/errors.ts`. Every class extends `ThreadwireError` directly and has a
code of its own, so an `instanceof` test against one of them is a test of the code. An error keeps
its message and the chain of its causes.
-/

namespace Threadwire

/-- `ThreadwireErrorCode`. -/
inductive ThreadwireErrorCode where
  | configInvalid
  | processInspectionFailed
  | classicProcessTopologyInvalid
  | classicInstallationNotFound
  | classicInstallationQueryFailed
  | classicStartFailed
  | classicStopFailed
  | processExitTimeout
  | newProcessNotObserved
  | runtimeNotObserved
  | runtimeRequiredExisting
  | runtimeGenerationChanged
  | runtimeProvenanceUnverified
  | runtimeRecoveryForbidden
  | cdpEndpointUnavailable
  | cdpEndpointTimeout
  | cdpTargetListMalformed
  | cdpTargetNotFound
  | cdpTargetAmbiguous
  | cdpAttachFailed
  | cdpDisconnected
  | cdpNavigationFailed
  | cdpReadinessFailed
  | operationTimeout
  | operationAborted
  | conversationLocatorInvalid
  | threadNotFound
  | threadHandleCollision
  | projectLocatorInvalid
  | projectNotFound
  | projectHandleCollision
  | projectCreationFailed
  | projectConversationNotCreated
  | routeNavigationFailed
  | existingRouteReadinessTimeout
  | freshRouteReadinessTimeout
  | turnInputFailed
  | turnWriteFailed
  | freshConversationNotCreated
  | turnStateUncertain
  | responseStreamUnavailable
  | responseStreamFailed
  | responseParseFailed
deriving DecidableEq, Repr

/-- The default message of each error class. -/
def ThreadwireErrorCode.defaultMessage : ThreadwireErrorCode → String
  | .configInvalid => "Invalid Threadwire controller configuration."
  | .processInspectionFailed => "Failed to inspect ChatGPT Classic processes."
  | .classicProcessTopologyInvalid =>
    "ChatGPT Classic process topology is not uniquely classifiable."
  | .classicInstallationNotFound => "ChatGPT Classic installation not found."
  | .classicInstallationQueryFailed => "Failed to query the ChatGPT Classic installation."
  | .classicStartFailed => "Failed to start ChatGPT Classic."
  | .classicStopFailed => "Failed to stop ChatGPT Classic."
  | .processExitTimeout =>
    "Timed out waiting for the previous Classic process generation to exit."
  | .newProcessNotObserved =>
    "A new ChatGPT Classic Main process was not observed after launch."
  | .runtimeNotObserved => "No current ChatGPT Classic runtime has been observed."
  | .runtimeRequiredExisting => "A pre-existing ChatGPT Classic runtime is required."
  | .runtimeGenerationChanged =>
    "The ChatGPT Classic runtime generation changed during the operation."
  | .runtimeProvenanceUnverified => "The bound runtime provenance could not be verified."
  | .runtimeRecoveryForbidden =>
    "Runtime recovery is forbidden for the bound-existing runtime policy."
  | .cdpEndpointUnavailable => "The CDP localhost endpoint is unavailable."
  | .cdpEndpointTimeout => "Timed out waiting for the CDP localhost endpoint."
  | .cdpTargetListMalformed => "The CDP target list is malformed."
  | .cdpTargetNotFound => "No eligible ChatGPT page target was found."
  | .cdpTargetAmbiguous => "Multiple eligible ChatGPT page targets were found."
  | .cdpAttachFailed => "Failed to attach to the selected CDP target."
  | .cdpDisconnected => "The CDP session is disconnected."
  | .cdpNavigationFailed => "CDP navigation command failed."
  | .cdpReadinessFailed => "CDP readiness observation failed."
  | .operationTimeout => "Operation timed out."
  | .operationAborted => "Operation aborted."
  | .conversationLocatorInvalid =>
    "Conversation locator is invalid for the Threadwire MVP route contract."
  | .threadNotFound => "Thread handle is not known to Threadwire."
  | .threadHandleCollision => "Unable to allocate a unique Threadwire thread handle."
  | .projectLocatorInvalid => "Project locator is invalid for the Threadwire route contract."
  | .projectNotFound => "Project handle is not known to Threadwire."
  | .projectHandleCollision => "Unable to allocate a unique Threadwire project handle."
  | .projectCreationFailed => "ChatGPT Project creation could not be completed safely."
  | .projectConversationNotCreated =>
    "The Project turn did not establish a conversation owned by the selected Project."
  | .routeNavigationFailed => "Threadwire route navigation failed."
  | .existingRouteReadinessTimeout =>
    "Existing conversation route did not become ready before the deadline."
  | .freshRouteReadinessTimeout =>
    "Fresh conversation route did not become ready before the deadline."
  | .turnInputFailed => "Turn input could not be submitted safely."
  | .turnWriteFailed =>
    "The legitimate conversation write failed before safe completion."
  | .freshConversationNotCreated =>
    "The fresh turn did not establish a supported conversation route."
  | .turnStateUncertain =>
    "Turn state is uncertain; mutating operations are blocked until the runtime generation changes."
  | .responseStreamUnavailable =>
    "Response streaming is unavailable for the selected legitimate conversation write."
  | .responseStreamFailed =>
    "The legitimate conversation response stream could not be consumed safely."
  | .responseParseFailed =>
    "The legitimate conversation response stream could not be normalized safely."

/-- The class of a thrown value: one of the `ThreadwireError` classes, or a built-in one. -/
inductive ErrorClass where
  | threadwire (code : ThreadwireErrorCode)
  | typeError
  | rangeError
  | error
deriving DecidableEq, Repr

/-- One error of a cause chain. -/
structure ErrorHead where
  errorClass : ErrorClass
  message : String
deriving DecidableEq, Repr

/-- A thrown error with its `cause`, the cause of that, and so on. -/
structure ThrownError where
  head : ErrorHead
  causes : List ErrorHead := []
deriving DecidableEq, Repr

namespace ThrownError

/-- `new SomeError(undefined)` for the class with this code. -/
def ofCode (code : ThreadwireErrorCode) : ThrownError :=
  { head := ⟨.threadwire code, code.defaultMessage⟩ }

/-- `new SomeError(message)`. -/
def ofCodeMessage (code : ThreadwireErrorCode) (message : String) : ThrownError :=
  { head := ⟨.threadwire code, message⟩ }

/-- `new Error(message)`. -/
def plain (message : String) : ThrownError := { head := ⟨.error, message⟩ }

/-- `new SomeError(undefined, cause === undefined ? undefined : { cause })`. -/
def withCause (e : ThrownError) : Option ThrownError → ThrownError
  | none => e
  | some cause => { e with causes := cause.head :: cause.causes }

/-- `error instanceof SomeError` for the class with this code. -/
def isInstance (e : ThrownError) (code : ThreadwireErrorCode) : Bool :=
  e.head.errorClass == .threadwire code

@[simp] theorem isInstance_ofCode (code code' : ThreadwireErrorCode) :
    (ofCode code).isInstance code' = decide (code = code') := by
  by_cases h : code = code'
  · simp [isInstance, ofCode, h]
  · simp [isInstance, ofCode, h]

@[simp] theorem isInstance_withCause (e : ThrownError) (cause : Option ThrownError)
    (code : ThreadwireErrorCode) : (e.withCause cause).isInstance code = e.isInstance code := by
  cases cause <;> rfl

end ThrownError

/-- `abortedError` of `utils/timeout.ts`: an abort reason that is itself a timeout or an abort error
is thrown as it is, any other reason becomes the cause of an `OperationAbortedError`. -/
def abortedError (reason : Option ThrownError) : ThrownError :=
  match reason with
  | some e =>
    if e.isInstance .operationTimeout || e.isInstance .operationAborted then e
    else (ThrownError.ofCode .operationAborted).withCause reason
  | none => ThrownError.ofCode .operationAborted

end Threadwire
