import DeviceLink.Topic.Role

/-!
# What can be wrong with a topic

A topic is either built from a template and parameters or given as it is.  Each
error names its cause; `TopicError.message` words it.
-/

namespace DeviceLink

inductive ParameterFault
  | empty
  | tooLong
  | separator
  | wildcard
  | control
deriving DecidableEq, Repr

inductive TopicFault
  | empty
  | wildcard
  | nul
deriving DecidableEq, Repr

inductive TopicError
  | missingParameter (operation parameter : String)
  | invalidParameter (parameter value : String) (fault : ParameterFault)
  | roleNotSupported (operation : String) (role : TopicRole)
  | malformedTemplate (template : String)
  | invalidTopic (topic : String) (fault : TopicFault)
  /-- The length of the topic in bytes. -/
  | tooLong (length : Nat)
deriving DecidableEq, Repr

/-- The longest value of a parameter, in bytes. -/
def parameterLimit : Nat := 128

/-- The longest topic that brokers take, in bytes. -/
def topicLimit : Nat := 256

def ParameterFault.message : ParameterFault → String
  | empty => "value is empty"
  | tooLong => "value is too long"
  | separator => "value contains the topic level separator '/'"
  | wildcard => "value contains an MQTT wildcard ('+' or '#')"
  | control => "value contains control characters"

def TopicFault.message : TopicFault → String
  | empty => "topic is empty"
  | wildcard => "wildcard filters are not supported, subscribe to a concrete topic"
  | nul => "topic contains a NUL character"

def TopicError.message : TopicError → String
  | missingParameter operation parameter =>
    "operation " ++ operation ++ " requires parameter '" ++ parameter ++ "'"
  | invalidParameter parameter value fault =>
    "invalid value '" ++ value ++ "' for parameter '" ++ parameter ++ "': " ++ fault.message
  | roleNotSupported operation role =>
    "operation " ++ operation ++ " has no " ++ role.name ++ " topic"
  | malformedTemplate template => "malformed topic template '" ++ template ++ "'"
  | invalidTopic topic fault => "invalid topic '" ++ topic ++ "': " ++ fault.message
  | tooLong length =>
    "topic is " ++ toString length ++ " bytes long, limit is " ++ toString topicLimit

end DeviceLink
