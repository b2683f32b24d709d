/-!
# Job statuses and rejection codes

Both are closed lists of names with one member for every name this library does
not know, so a service may add names without breaking a device.
-/

namespace DeviceLink

inductive JobStatus
  /-- Waiting to be picked up by the device. -/
  | queued
  | inProgress
  /-- The step's time ran out before the device reported an end. -/
  | timedOut
  | failed
  | succeeded
  | canceled
  /-- The device refused the job. -/
  | rejected
  | removed
  /-- A status without a name here. -/
  | unknown
deriving DecidableEq, Repr, Inhabited

namespace JobStatus

def all : List JobStatus :=
  [.queued, .inProgress, .timedOut, .failed, .succeeded, .canceled, .rejected, .removed, .unknown]

def name : JobStatus → String
  | queued => "QUEUED"
  | inProgress => "IN_PROGRESS"
  | timedOut => "TIMED_OUT"
  | failed => "FAILED"
  | succeeded => "SUCCEEDED"
  | canceled => "CANCELED"
  | rejected => "REJECTED"
  | removed => "REMOVED"
  | unknown => "UNKNOWN"

/-- The status with a name.  `SUCCESS` is an older spelling of `SUCCEEDED`. -/
def ofName (s : String) : JobStatus :=
  if s = "SUCCESS" then .succeeded
  else (all.find? fun status => status.name = s).getD .unknown

/-- Whether an execution never leaves this status. -/
def isTerminal : JobStatus → Bool
  | timedOut | failed | succeeded | canceled | rejected | removed => true
  | queued | inProgress | unknown => false

end JobStatus

inductive RejectedErrorCode
  | invalidTopic
  | invalidJson
  | invalidRequest
  | invalidStateTransition
  | resourceNotFound
  | versionMismatch
  | internalError
  | requestThrottled
  | terminalStateReached
  /-- A code without a name here. -/
  | unknown
deriving DecidableEq, Repr, Inhabited

namespace RejectedErrorCode

def all : List RejectedErrorCode :=
  [.invalidTopic, .invalidJson, .invalidRequest, .invalidStateTransition, .resourceNotFound,
    .versionMismatch, .internalError, .requestThrottled, .terminalStateReached, .unknown]

def name : RejectedErrorCode → String
  | invalidTopic => "InvalidTopic"
  | invalidJson => "InvalidJson"
  | invalidRequest => "InvalidRequest"
  | invalidStateTransition => "InvalidStateTransition"
  | resourceNotFound => "ResourceNotFound"
  | versionMismatch => "VersionMismatch"
  | internalError => "InternalError"
  | requestThrottled => "RequestThrottled"
  | terminalStateReached => "TerminalStateReached"
  | unknown => "Unknown"

def ofName (s : String) : RejectedErrorCode :=
  (all.find? fun code => code.name = s).getD .unknown

end RejectedErrorCode

end DeviceLink
