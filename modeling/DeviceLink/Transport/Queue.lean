import DeviceLink.Transport.Basic

/-!
# The request queue of the MQTT client

The MQTT client takes requests into a queue of fixed capacity that its event
loop reads.  A request that finds the queue full waits, and one that finds it
without a reader fails.
-/

namespace DeviceLink

/-- The queue as its writers see it. -/
structure RequestQueue where
  capacity : Nat
  waiting : List TransportCall := []
  /-- Whether the event loop still reads. -/
  hasReader : Bool := true

inductive QueueReply
  | queued
  | blocked
  | failed (error : TransportError)
deriving DecidableEq, Repr

namespace RequestQueue

/-- Writes a request.  One that would have to wait is abandoned. -/
def push (q : RequestQueue) (call : TransportCall) : RequestQueue × QueueReply :=
  if !q.hasReader then (q, .failed .queueClosed)
  else if q.waiting.length < q.capacity then ({ q with waiting := q.waiting ++ [call] }, .queued)
  else (q, .blocked)

def stop (q : RequestQueue) : RequestQueue := { q with hasReader := false }

end RequestQueue

end DeviceLink
