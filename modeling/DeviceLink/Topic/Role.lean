/-!
# Roles of topics

An operation either is a request with its two possible answers or a stream of
events.  Each role has a topic of its own: the request and the event use the
operation's base topic, the answers one more level below it.
-/

namespace DeviceLink

inductive OperationKind
  /-- A request that is either accepted or rejected. -/
  | requestResponse
  /-- A stream of events that the service sends on its own. -/
  | event
deriving DecidableEq, Repr

inductive TopicRole
  | request
  | accepted
  | rejected
  | event
deriving DecidableEq, Repr

namespace TopicRole

/-- The level below the base topic, if the role has one. -/
def suffix? : TopicRole → Option String
  | accepted => some "accepted"
  | rejected => some "rejected"
  | request | event => none

def name : TopicRole → String
  | request => "request"
  | accepted => "accepted"
  | rejected => "rejected"
  | event => "event"

def all : List TopicRole := [.request, .accepted, .rejected, .event]

end TopicRole

def OperationKind.supports : OperationKind → TopicRole → Bool
  | .requestResponse, role => role ≠ .event
  | .event, role => role = .event

end DeviceLink
