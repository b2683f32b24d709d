import DeviceLink.Shape.Payload
import DeviceLink.Topic.Operation

/-!
# Typed operations

An exchange is a request/response operation together with the types of its three
documents, an event stream one with the type of its events.  Which operation is
meant may depend on the address: a service can keep several templates for one
operation and pick by what the address names.
-/

namespace DeviceLink

namespace Request

variable {Address Body : Type} [Payload Body]

/-- The document of a request.  What its address names is no part of it. -/
def toDocument (request : Request Address Body) : Document := Payload.toDocument request.body

/-- The request that a document holds.  Its address names nothing. -/
def ofDocument (Address Body : Type) [Inhabited Address] [Payload Body] (d : Document) :
    Except CodecError (Request Address Body) :=
  (Payload.ofDocument Body d).map fun body => ⟨default, body⟩

end Request

structure Exchange (Address Body Accepted Rejected : Type) where
  select : Address → Operation

structure EventStream (Address Event : Type) where
  select : Address → Operation

variable {Address Body Accepted Rejected Event : Type} [TopicBinding Address]

def Exchange.topic (exchange : Exchange Address Body Accepted Rejected) (role : TopicRole)
    (address : Address) : Except TopicError String :=
  (exchange.select address).topic role (TopicBinding.topicParams address)

def EventStream.topic (stream : EventStream Address Event) (address : Address) :
    Except TopicError String :=
  (stream.select address).topic .event (TopicBinding.topicParams address)

end DeviceLink
