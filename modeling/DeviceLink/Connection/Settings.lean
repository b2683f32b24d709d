/-!
# Settings of a connection
-/

namespace DeviceLink

structure Settings where
  /-- How many requests wait for the event loop before a writer has to. -/
  eventLoopCapacity : Nat := 10
  /-- How long the broker may take to answer the first connection attempt. -/
  connectionTimeoutMillis : Nat := 5000
  /-- After how many errors in a row the event loop gives up. -/
  maxConsecutiveErrors : UInt32 := 10
deriving DecidableEq, Repr

inductive SettingsError
  | eventLoopCapacity
  | connectionTimeoutMillis
  | maxConsecutiveErrors
deriving DecidableEq, Repr

def SettingsError.message : SettingsError → String
  | eventLoopCapacity => "event_loop_capacity must be greater than 0"
  | connectionTimeoutMillis => "connection_timeout_millis must be greater than 0"
  | maxConsecutiveErrors => "max_consecutive_errors must be greater than 0"

/-- The first setting that is zero, in the order they are declared. -/
def Settings.validate (s : Settings) : Except SettingsError Unit :=
  if s.eventLoopCapacity = 0 then .error .eventLoopCapacity
  else if s.connectionTimeoutMillis = 0 then .error .connectionTimeoutMillis
  else if s.maxConsecutiveErrors = 0 then .error .maxConsecutiveErrors
  else .ok ()

end DeviceLink
