import DeviceLink.Jobs.Model
import DeviceLink.Topic.Exchange

/-!
# Operations of the job service
-/

namespace DeviceLink.Jobs

def service : String := "jobs"

def request (name path : String) : Operation :=
  ⟨service, name, "$aws/things/\x7bthingName\x7d/jobs/" ++ path, .requestResponse⟩

def events (name path : String) : Operation :=
  ⟨service, name, "$aws/things/\x7bthingName\x7d/jobs/" ++ path, .event⟩

def describeJobExecution : Operation := request "DescribeJobExecution" "\x7bjobId\x7d/get"
def updateJobExecution : Operation := request "UpdateJobExecution" "\x7bjobId\x7d/update"
def getPendingJobExecutions : Operation := request "GetPendingJobExecutions" "get"
def startNextPendingJobExecution : Operation := request "StartNextPendingJobExecution" "start-next"
def jobExecutionsChanged : Operation := events "JobExecutionsChanged" "notify"
def nextJobExecutionChanged : Operation := events "NextJobExecutionChanged" "notify-next"

def operations : List Operation :=
  [describeJobExecution, updateJobExecution, getPendingJobExecutions,
    startNextPendingJobExecution, jobExecutionsChanged, nextJobExecutionChanged]

def describing : Exchange JobAddress DescribeJobExecutionRequest DescribeJobExecutionResponse
    RejectedError :=
  ⟨fun _ => describeJobExecution⟩

def updating : Exchange JobAddress UpdateJobExecutionRequest UpdateJobExecutionResponse
    RejectedError :=
  ⟨fun _ => updateJobExecution⟩

def listingPending : Exchange ThingAddress GetPendingJobExecutionsRequest
    GetPendingJobExecutionsResponse RejectedError :=
  ⟨fun _ => getPendingJobExecutions⟩

def startingNext : Exchange ThingAddress StartNextPendingJobExecutionRequest
    StartNextJobExecutionResponse RejectedError :=
  ⟨fun _ => startNextPendingJobExecution⟩

def executionsChanged : EventStream ThingAddress JobExecutionsChangedEvent :=
  ⟨fun _ => jobExecutionsChanged⟩

def nextExecutionChanged : EventStream ThingAddress NextJobExecutionChangedEvent :=
  ⟨fun _ => nextJobExecutionChanged⟩

end DeviceLink.Jobs
