import Threadwire.Domain.Errors
import Threadwire.Text.Strings

/-!
# Public errors

`api/PublicError.ts` and the statuses of `api/ThreadwireHttpServer.ts`: what of an error is shown to
the client.
-/

namespace Threadwire

/-- The code of an error class, as text. -/
def ThreadwireErrorCode.text : ThreadwireErrorCode → String
  | .configInvalid => "CONFIG_INVALID"
  | .processInspectionFailed => "PROCESS_INSPECTION_FAILED"
  | .classicProcessTopologyInvalid => "CLASSIC_PROCESS_TOPOLOGY_INVALID"
  | .classicInstallationNotFound => "CLASSIC_INSTALLATION_NOT_FOUND"
  | .classicInstallationQueryFailed => "CLASSIC_INSTALLATION_QUERY_FAILED"
  | .classicStartFailed => "CLASSIC_START_FAILED"
  | .classicStopFailed => "CLASSIC_STOP_FAILED"
  | .processExitTimeout => "PROCESS_EXIT_TIMEOUT"
  | .newProcessNotObserved => "NEW_PROCESS_NOT_OBSERVED"
  | .runtimeNotObserved => "RUNTIME_NOT_OBSERVED"
  | .runtimeRequiredExisting => "RUNTIME_REQUIRED_EXISTING"
  | .runtimeGenerationChanged => "RUNTIME_GENERATION_CHANGED"
  | .runtimeProvenanceUnverified => "RUNTIME_PROVENANCE_UNVERIFIED"
  | .runtimeRecoveryForbidden => "RUNTIME_RECOVERY_FORBIDDEN"
  | .cdpEndpointUnavailable => "CDP_ENDPOINT_UNAVAILABLE"
  | .cdpEndpointTimeout => "CDP_ENDPOINT_TIMEOUT"
  | .cdpTargetListMalformed => "CDP_TARGET_LIST_MALFORMED"
  | .cdpTargetNotFound => "CDP_TARGET_NOT_FOUND"
  | .cdpTargetAmbiguous => "CDP_TARGET_AMBIGUOUS"
  | .cdpAttachFailed => "CDP_ATTACH_FAILED"
  | .cdpDisconnected => "CDP_DISCONNECTED"
  | .cdpNavigationFailed => "CDP_NAVIGATION_FAILED"
  | .cdpReadinessFailed => "CDP_READINESS_FAILED"
  | .operationTimeout => "OPERATION_TIMEOUT"
  | .operationAborted => "OPERATION_ABORTED"
  | .conversationLocatorInvalid => "CONVERSATION_LOCATOR_INVALID"
  | .threadNotFound => "THREAD_NOT_FOUND"
  | .threadHandleCollision => "THREAD_HANDLE_COLLISION"
  | .projectLocatorInvalid => "PROJECT_LOCATOR_INVALID"
  | .projectNotFound => "PROJECT_NOT_FOUND"
  | .projectHandleCollision => "PROJECT_HANDLE_COLLISION"
  | .projectCreationFailed => "PROJECT_CREATION_FAILED"
  | .projectConversationNotCreated => "PROJECT_CONVERSATION_NOT_CREATED"
  | .routeNavigationFailed => "ROUTE_NAVIGATION_FAILED"
  | .existingRouteReadinessTimeout => "EXISTING_ROUTE_READINESS_TIMEOUT"
  | .freshRouteReadinessTimeout => "FRESH_ROUTE_READINESS_TIMEOUT"
  | .turnInputFailed => "TURN_INPUT_FAILED"
  | .turnWriteFailed => "TURN_WRITE_FAILED"
  | .freshConversationNotCreated => "FRESH_CONVERSATION_NOT_CREATED"
  | .turnStateUncertain => "TURN_STATE_UNCERTAIN"
  | .responseStreamUnavailable => "RESPONSE_STREAM_UNAVAILABLE"
  | .responseStreamFailed => "RESPONSE_STREAM_FAILED"
  | .responseParseFailed => "RESPONSE_PARSE_FAILED"

/-- The codes an `ApiRequestError` can have. -/
inductive ApiRequestErrorCode where
  | API_REQUEST_INVALID
  | API_REQUEST_TOO_LARGE
  | API_REQUEST_REJECTED
deriving DecidableEq, Repr

/-- `ApiBoundaryErrorCode`. -/
inductive ApiBoundaryErrorCode where
  | threadwire (code : ThreadwireErrorCode)
  | request (code : ApiRequestErrorCode)
  | CONTROLLER_BUSY
  | INTERNAL_ERROR
deriving DecidableEq, Repr

/-- The code as text. -/
def ApiBoundaryErrorCode.text : ApiBoundaryErrorCode → String
  | .threadwire code => code.text
  | .request .API_REQUEST_INVALID => "API_REQUEST_INVALID"
  | .request .API_REQUEST_TOO_LARGE => "API_REQUEST_TOO_LARGE"
  | .request .API_REQUEST_REJECTED => "API_REQUEST_REJECTED"
  | .CONTROLLER_BUSY => "CONTROLLER_BUSY"
  | .INTERNAL_ERROR => "INTERNAL_ERROR"

/-- An error that reaches the server: an `ApiRequestError`, a `ControllerBusyError`, or another. -/
inductive ApiError where
  | request (code : ApiRequestErrorCode) (statusCode : ℕ)
  | controllerBusy
  | thrown (error : ThrownError)
deriving DecidableEq, Repr

/-- `PublicApiError`, the object under its only key `error`. -/
structure PublicApiError where
  code : ApiBoundaryErrorCode
  message : String
  retryable : Bool
deriving DecidableEq, Repr

/-- `apiMessage`. -/
def apiMessage : ApiBoundaryErrorCode → String
  | .request .API_REQUEST_INVALID => "Invalid Threadwire API request."
  | .request .API_REQUEST_TOO_LARGE =>
    "Threadwire API request exceeds the configured engineering limit."
  | .request .API_REQUEST_REJECTED =>
    "Threadwire API request was rejected by the localhost boundary."
  | .CONTROLLER_BUSY => "Threadwire controller capacity is full."
  | .INTERNAL_ERROR => "Threadwire encountered an internal error."
  | .threadwire _ => "Threadwire operation failed."

/-- The code of `serializePublicError`. -/
def publicErrorCode : ApiError → ApiBoundaryErrorCode
  | .request code _ => .request code
  | .controllerBusy => .CONTROLLER_BUSY
  | .thrown error =>
    match error.head.errorClass with
    | .threadwire code => .threadwire code
    | _ => .INTERNAL_ERROR

/-- `serializePublicError`. -/
def serializePublicError (error : ApiError) : PublicApiError :=
  let code := publicErrorCode error
  { code, message := apiMessage code, retryable := code == .CONTROLLER_BUSY }

/-- `preStreamStatus`. -/
def preStreamStatus : ApiError → ℕ
  | .controllerBusy => 429
  | .request _ _ => 500
  | .thrown error =>
    match error.head.errorClass with
    | .threadwire .threadNotFound | .threadwire .projectNotFound => 404
    | .threadwire _ => 503
    | _ => 500

/-- `JSON.stringify` of a boolean. -/
def boolText (b : Bool) : Text := Text.of (if b then "true" else "false")

/-- `JSON.stringify(serializePublicError(error))`. -/
def publicErrorText (error : ApiError) : Text :=
  let body := serializePublicError error
  Text.of "\x7b\"error\":\x7b\"code\":" ++ Text.quote (Text.of body.code.text) ++
    Text.of ",\"message\":" ++ Text.quote (Text.of body.message) ++
    Text.of ",\"retryable\":" ++ boolText body.retryable ++ Text.of "\x7d\x7d"

end Threadwire
