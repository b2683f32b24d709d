import DeviceLink.Shape.Payload
import DeviceLink.Topic.Params

/-!
# Documents of the job service

Every member may be absent.  The thing and the job that a request is about are
part of its topic and never of its document, so they are kept beside it in an
address.
-/

namespace DeviceLink

def thingNameParam : String := "thingName"
def jobIdParam : String := "jobId"

structure JobAddress where
  thingName : Option String := none
  jobId : Option String := none
deriving DecidableEq, Repr

/-- It names nothing. -/
instance : Inhabited JobAddress := ⟨{}⟩

instance : TopicBinding JobAddress where
  topicParams a := (TopicParams.empty.bind thingNameParam a.thingName).bind jobIdParam a.jobId

structure ThingAddress where
  thingName : Option String := none
deriving DecidableEq, Repr

/-- It names nothing. -/
instance : Inhabited ThingAddress := ⟨{}⟩

instance : TopicBinding ThingAddress where
  topicParams a := TopicParams.empty.bind thingNameParam a.thingName

abbrev StatusDetails := Dict String

structure JobExecutionData where
  jobId : Option String := none
  thingName : Option String := none
  jobDocument : Option Document := none
  status : Option JobStatus := none
  statusDetails : Option StatusDetails := none
  queuedAt : Option Timestamp := none
  startedAt : Option Timestamp := none
  lastUpdatedAt : Option Timestamp := none
  versionNumber : Option Int32 := none
  executionNumber : Option Int64 := none

instance : Payload JobExecutionData where
  name := "JobExecutionData"
  fields := .ofList
    [("jobId", .text), ("thingName", .text), ("jobDocument", .free), ("status", .status),
      ("statusDetails", .dict .text), ("queuedAt", .time), ("startedAt", .time),
      ("lastUpdatedAt", .time), ("versionNumber", .int32), ("executionNumber", .int64)]
  ofVal := fun (a, b, c, d, e, f, g, h, i, j, ()) => ⟨a, b, c, d, e, f, g, h, i, j⟩
  toVal := fun x =>
    (x.jobId, x.thingName, x.jobDocument, x.status, x.statusDetails, x.queuedAt, x.startedAt,
      x.lastUpdatedAt, x.versionNumber, x.executionNumber, ())
  toVal_ofVal := fun _ => rfl
  ofVal_toVal := fun _ => rfl

structure JobExecutionState where
  status : Option JobStatus := none
  statusDetails : Option StatusDetails := none
  versionNumber : Option Int32 := none

instance : Payload JobExecutionState where
  name := "JobExecutionState"
  fields := .ofList
    [("status", .status), ("statusDetails", .dict .text), ("versionNumber", .int32)]
  ofVal := fun (a, b, c, ()) => ⟨a, b, c⟩
  toVal := fun x => (x.status, x.statusDetails, x.versionNumber, ())
  toVal_ofVal := fun _ => rfl
  ofVal_toVal := fun _ => rfl

structure JobExecutionSummary where
  jobId : Option String := none
  executionNumber : Option Int64 := none
  versionNumber : Option Int32 := none
  lastUpdatedAt : Option Timestamp := none
  queuedAt : Option Timestamp := none
  startedAt : Option Timestamp := none

instance : Payload JobExecutionSummary where
  name := "JobExecutionSummary"
  fields := .ofList
    [("jobId", .text), ("executionNumber", .int64), ("versionNumber", .int32),
      ("lastUpdatedAt", .time), ("queuedAt", .time), ("startedAt", .time)]
  ofVal := fun (a, b, c, d, e, f, ()) => ⟨a, b, c, d, e, f⟩
  toVal := fun x =>
    (x.jobId, x.executionNumber, x.versionNumber, x.lastUpdatedAt, x.queuedAt, x.startedAt, ())
  toVal_ofVal := fun _ => rfl
  ofVal_toVal := fun _ => rfl

structure RejectedError where
  clientToken : Option String := none
  code : Option RejectedErrorCode := none
  message : Option String := none
  timestamp : Option Timestamp := none
  executionState : Option JobExecutionState := none

instance : Payload RejectedError where
  name := "RejectedError"
  fields := .ofList
    [("clientToken", .text), ("code", .errorCode), ("message", .text), ("timestamp", .time),
      ("executionState", Payload.shape JobExecutionState)]
  ofVal := fun (a, b, c, d, e, ()) => ⟨a, b, c, d, Payload.read e⟩
  toVal := fun x =>
    (x.clientToken, x.code, x.message, x.timestamp, Payload.write x.executionState, ())
  toVal_ofVal := by rintro ⟨a, b, c, d, e, ⟨⟩⟩; simp; rfl
  ofVal_toVal := by rintro ⟨⟩; simp

/-- Asks for one execution of a job; the latest one unless its number is given. -/
structure DescribeJobExecutionRequest where
  clientToken : Option String := none
  executionNumber : Option Int64 := none
  includeJobDocument : Option Bool := none

instance : Payload DescribeJobExecutionRequest where
  name := "DescribeJobExecutionRequest"
  fields := .ofList
    [("clientToken", .text), ("executionNumber", .int64), ("includeJobDocument", .flag)]
  ofVal := fun (a, b, c, ()) => ⟨a, b, c⟩
  toVal := fun x => (x.clientToken, x.executionNumber, x.includeJobDocument, ())
  toVal_ofVal := fun _ => rfl
  ofVal_toVal := fun _ => rfl

def DescribeJobExecutionRequest.of (thingName jobId : String) :
    Request JobAddress DescribeJobExecutionRequest :=
  ⟨⟨thingName, jobId⟩, {}⟩

structure DescribeJobExecutionResponse where
  clientToken : Option String := none
  execution : Option JobExecutionData := none
  timestamp : Option Timestamp := none

instance : Payload DescribeJobExecutionResponse where
  name := "DescribeJobExecutionResponse"
  fields := .ofList
    [("clientToken", .text), ("execution", Payload.shape JobExecutionData), ("timestamp", .time)]
  ofVal := fun (a, b, c, ()) => ⟨a, Payload.read b, c⟩
  toVal := fun x => (x.clientToken, Payload.write x.execution, x.timestamp, ())
  toVal_ofVal := by rintro ⟨a, b, c, ⟨⟩⟩; simp; rfl
  ofVal_toVal := by rintro ⟨⟩; simp

structure UpdateJobExecutionRequest where
  clientToken : Option String := none
  status : Option JobStatus := none
  statusDetails : Option StatusDetails := none
  expectedVersion : Option Int32 := none
  executionNumber : Option Int64 := none
  includeJobExecutionState : Option Bool := none
  includeJobDocument : Option Bool := none
  stepTimeoutInMinutes : Option Int64 := none

instance : Payload UpdateJobExecutionRequest where
  name := "UpdateJobExecutionRequest"
  fields := .ofList
    [("clientToken", .text), ("status", .status), ("statusDetails", .dict .text),
      ("expectedVersion", .int32), ("executionNumber", .int64),
      ("includeJobExecutionState", .flag), ("includeJobDocument", .flag),
      ("stepTimeoutInMinutes", .int64)]
  ofVal := fun (a, b, c, d, e, f, g, h, ()) => ⟨a, b, c, d, e, f, g, h⟩
  toVal := fun x =>
    (x.clientToken, x.status, x.statusDetails, x.expectedVersion, x.executionNumber,
      x.includeJobExecutionState, x.includeJobDocument, x.stepTimeoutInMinutes, ())
  toVal_ofVal := fun _ => rfl
  ofVal_toVal := fun _ => rfl

/-- Moves the latest execution of a job to a status. -/
def UpdateJobExecutionRequest.of (thingName jobId : String) (status : JobStatus) :
    Request JobAddress UpdateJobExecutionRequest :=
  ⟨⟨thingName, jobId⟩, { status := status }⟩

structure UpdateJobExecutionResponse where
  clientToken : Option String := none
  executionState : Option JobExecutionState := none
  jobDocument : Option Document := none
  timestamp : Option Timestamp := none

instance : Payload UpdateJobExecutionResponse where
  name := "UpdateJobExecutionResponse"
  fields := .ofList
    [("clientToken", .text), ("executionState", Payload.shape JobExecutionState),
      ("jobDocument", .free), ("timestamp", .time)]
  ofVal := fun (a, b, c, d, ()) => ⟨a, Payload.read b, c, d⟩
  toVal := fun x => (x.clientToken, Payload.write x.executionState, x.jobDocument, x.timestamp, ())
  toVal_ofVal := by rintro ⟨a, b, c, d, ⟨⟩⟩; simp; rfl
  ofVal_toVal := by rintro ⟨⟩; simp

structure GetPendingJobExecutionsRequest where
  clientToken : Option String := none

instance : Payload GetPendingJobExecutionsRequest where
  name := "GetPendingJobExecutionsRequest"
  fields := .ofList [("clientToken", .text)]
  ofVal := fun (a, ()) => ⟨a⟩
  toVal := fun x => (x.clientToken, ())
  toVal_ofVal := fun _ => rfl
  ofVal_toVal := fun _ => rfl

def GetPendingJobExecutionsRequest.of (thingName : String) :
    Request ThingAddress GetPendingJobExecutionsRequest :=
  ⟨⟨thingName⟩, {}⟩

structure GetPendingJobExecutionsResponse where
  clientToken : Option String := none
  inProgressJobs : Option (List JobExecutionSummary) := none
  queuedJobs : Option (List JobExecutionSummary) := none
  timestamp : Option Timestamp := none

instance : Payload GetPendingJobExecutionsResponse where
  name := "GetPendingJobExecutionsResponse"
  fields := .ofList
    [("clientToken", .text), ("inProgressJobs", .list (Payload.shape JobExecutionSummary)),
      ("queuedJobs", .list (Payload.shape JobExecutionSummary)), ("timestamp", .time)]
  ofVal := fun (a, b, c, d, ()) => ⟨a, Payload.readList b, Payload.readList c, d⟩
  toVal := fun x =>
    (x.clientToken, Payload.writeList x.inProgressJobs, Payload.writeList x.queuedJobs,
      x.timestamp, ())
  toVal_ofVal := by rintro ⟨a, b, c, d, ⟨⟩⟩; simp; rfl
  ofVal_toVal := by rintro ⟨⟩; simp

structure StartNextPendingJobExecutionRequest where
  clientToken : Option String := none
  statusDetails : Option StatusDetails := none
  stepTimeoutInMinutes : Option Int64 := none

instance : Payload StartNextPendingJobExecutionRequest where
  name := "StartNextPendingJobExecutionRequest"
  fields := .ofList
    [("clientToken", .text), ("statusDetails", .dict .text), ("stepTimeoutInMinutes", .int64)]
  ofVal := fun (a, b, c, ()) => ⟨a, b, c⟩
  toVal := fun x => (x.clientToken, x.statusDetails, x.stepTimeoutInMinutes, ())
  toVal_ofVal := fun _ => rfl
  ofVal_toVal := fun _ => rfl

def StartNextPendingJobExecutionRequest.of (thingName : String) :
    Request ThingAddress StartNextPendingJobExecutionRequest :=
  ⟨⟨thingName⟩, {}⟩

structure StartNextJobExecutionResponse where
  clientToken : Option String := none
  execution : Option JobExecutionData := none
  timestamp : Option Timestamp := none

instance : Payload StartNextJobExecutionResponse where
  name := "StartNextJobExecutionResponse"
  fields := .ofList
    [("clientToken", .text), ("execution", Payload.shape JobExecutionData), ("timestamp", .time)]
  ofVal := fun (a, b, c, ()) => ⟨a, Payload.read b, c⟩
  toVal := fun x => (x.clientToken, Payload.write x.execution, x.timestamp, ())
  toVal_ofVal := by rintro ⟨a, b, c, ⟨⟩⟩; simp; rfl
  ofVal_toVal := by rintro ⟨⟩; simp

/-- Sent whenever the list of pending executions of a thing changes. -/
structure JobExecutionsChangedEvent where
  /-- The executions under the name of their status. -/
  jobs : Option (Dict (List JobExecutionSummary)) := none
  timestamp : Option Timestamp := none

namespace JobExecutionsChangedEvent

instance : Payload JobExecutionsChangedEvent where
  name := "JobExecutionsChangedEvent"
  fields := .ofList
    [("jobs", .dict (.list (Payload.shape JobExecutionSummary))), ("timestamp", .time)]
  ofVal := fun (a, b, ()) => ⟨Payload.readGroups a, b⟩
  toVal := fun x => (Payload.writeGroups x.jobs, x.timestamp, ())
  toVal_ofVal := by rintro ⟨a, b, ⟨⟩⟩; simp; rfl
  ofVal_toVal := by rintro ⟨⟩; simp

/-- The executions listed under the name of a status; an older spelling of the
name is not looked for. -/
def jobsWithStatus (event : JobExecutionsChangedEvent) (status : JobStatus) :
    List JobExecutionSummary :=
  ((event.jobs.bind fun jobs => jobs.get? status.name)).getD []

end JobExecutionsChangedEvent

structure NextJobExecutionChangedEvent where
  execution : Option JobExecutionData := none
  timestamp : Option Timestamp := none

instance : Payload NextJobExecutionChangedEvent where
  name := "NextJobExecutionChangedEvent"
  fields := .ofList [("execution", Payload.shape JobExecutionData), ("timestamp", .time)]
  ofVal := fun (a, b, ()) => ⟨Payload.read a, b⟩
  toVal := fun x => (Payload.write x.execution, x.timestamp, ())
  toVal_ofVal := by rintro ⟨a, b, ⟨⟩⟩; simp; rfl
  ofVal_toVal := by rintro ⟨⟩; simp

end DeviceLink
