import DeviceLink.Text.Control
import DeviceLink.Topic.Error

/-!
# Valid parameters and topics

The value of a parameter takes exactly one level of a topic: it must not be
empty, hold the level separator or a wildcard.  A topic that a caller gives must
be concrete, because messages find their handler by the exact text.  Both have a
limit in bytes of UTF-8.
-/

namespace DeviceLink

/-- The two characters that stand for more than themselves in a filter. -/
def isWildcard (c : Char) : Bool := c = '+' || c = '#'

def hasChar (p : Char → Bool) (s : String) : Bool := s.toList.any p

/-- What is wrong with the value of a parameter, the first fault in this order. -/
def parameterFault? (value : String) : Option ParameterFault :=
  if value = "" then some .empty
  else if parameterLimit < value.utf8ByteSize then some .tooLong
  else if hasChar (· = '/') value then some .separator
  else if hasChar isWildcard value then some .wildcard
  else if hasChar Text.isControl value then some .control
  else none

def validateParameter (parameter value : String) : Except TopicError Unit :=
  match parameterFault? value with
  | some fault => .error (.invalidParameter parameter value fault)
  | none => .ok ()

def validateTopicLength (topic : String) : Except TopicError Unit :=
  if topicLimit < topic.utf8ByteSize then .error (.tooLong topic.utf8ByteSize) else .ok ()

/-- What keeps a topic from being routed by its exact text. -/
def topicFault? (topic : String) : Option TopicFault :=
  if topic = "" then some .empty
  else if hasChar isWildcard topic then some .wildcard
  else if hasChar (· = '\x00') topic then some .nul
  else none

/-- Accepts the topics that callers may subscribe and publish to. -/
def validateTopic (topic : String) : Except TopicError Unit :=
  match topicFault? topic with
  | some fault => .error (.invalidTopic topic fault)
  | none => validateTopicLength topic

end DeviceLink
