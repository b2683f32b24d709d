import DeviceLink.Transport.Basic

/-!
# The event loop

The loop polls the MQTT client and passes on what concerns the session: messages
and connections that came back without their session.  It ends with a disconnect
in either direction, or when as many polls in a row have failed as the settings
allow.  After each failure before that it waits, longer each time.  Every number
that it computes with is checked to fit.
-/

namespace DeviceLink

inductive ReturnCode
  | success
  | refusedProtocolVersion
  | badClientId
  | serviceUnavailable
  | badUserNamePassword
  | notAuthorized
deriving DecidableEq, Repr

def ReturnCode.name : ReturnCode → String
  | success => "Success"
  | refusedProtocolVersion => "RefusedProtocolVersion"
  | badClientId => "BadClientId"
  | serviceUnavailable => "ServiceUnavailable"
  | badUserNamePassword => "BadUserNamePassword"
  | notAuthorized => "NotAuthorized"

inductive PollResult
  | connected (sessionPresent : Bool) (code : ReturnCode)
  | message (topic : String) (payload : ByteArray)
  /-- The broker took note of a subscription or refused it. -/
  | subscriptionNoted
  | disconnectReceived
  | disconnectSent
  /-- Anything else that is no failure. -/
  | other
  | failed (reason : String)
deriving DecidableEq

inductive Signal
  | dispatch (topic : String) (payload : ByteArray)
  /-- The connection is back, with or without the session it had. -/
  | restored (sessionPresent : Bool)
deriving DecidableEq

inductive Act
  | tell (signal : Signal)
  | sleep (millis : Nat)
deriving DecidableEq

namespace EventLoop

/-- Counts one more failure, if 32 bits hold the number. -/
def countFailure? (failures : UInt32) : Option UInt32 :=
  if failures.toNat + 1 < UInt32.size then some (failures + 1) else none

/-- How long to wait after the given number of failures in a row: a tenth of a
second, twice as long each time, half a minute at most.  The factor has to fit
into 32 bits, and the seconds of the product into 64. -/
def retryDelayMillis? (failures : UInt32) : Option Nat :=
  let factor := Nat.pow 2 (min (failures.toNat - 1) 10)
  let millis := 100 * factor
  if factor < UInt32.size ∧ millis / 1000 < UInt64.size then some (min millis 30000) else none

/-- What the loop does after one poll, and the number of failures in a row with
which it polls again, if it does.  `none` where a number does not fit. -/
def step? (maxFailures failures : UInt32) : PollResult → Option (List Act × Option UInt32)
  | .connected sessionPresent .success => some ([.tell (.restored sessionPresent)], some 0)
  | .connected _ _ => some ([], some 0)
  | .message topic payload => some ([.tell (.dispatch topic payload)], some 0)
  | .subscriptionNoted => some ([], some 0)
  | .disconnectReceived => some ([], none)
  | .disconnectSent => some ([], none)
  | .other => some ([], some 0)
  | .failed _ =>
    (countFailure? failures).bind fun failures =>
      if maxFailures ≤ failures then some ([], none)
      else (retryDelayMillis? failures).map fun millis => ([.sleep millis], some failures)

structure Trace where
  acts : List Act := []
  /-- The results that were not polled any more; `none` if the loop goes on. -/
  unread : Option (List PollResult) := none
deriving DecidableEq

/-- Runs the loop over the results of its polls, in order.  What becomes of a
signal makes no difference to it. -/
def run? (maxFailures failures : UInt32) : List PollResult → Option Trace
  | [] => some {}
  | result :: rest =>
    match step? maxFailures failures result with
    | none => none
    | some (acts, none) => some { acts, unread := some rest }
    | some (acts, some failures) =>
      (run? maxFailures failures rest).map fun trace => { trace with acts := acts ++ trace.acts }

end EventLoop

inductive EstablishmentError
  | network (reason : String)
  | brokerRejected (code : ReturnCode)
  | timeout (millis : Nat)
deriving DecidableEq, Repr

def EstablishmentError.message : EstablishmentError → String
  | network reason => "Network connection failed: " ++ reason
  | brokerRejected code => "Broker rejected connection: " ++ code.name
  | timeout millis => "Connection establishment timed out after " ++ toString millis ++ "ms"

/-- Polls until the broker has answered the connection attempt.  When the results
end before that, the time is up. -/
def establish (timeoutMillis : Nat) : List PollResult → Except EstablishmentError (List PollResult)
  | [] => .error (.timeout timeoutMillis)
  | .connected _ .success :: rest => .ok rest
  | .connected _ code :: _ => .error (.brokerRejected code)
  | .failed reason :: _ => .error (.network reason)
  | _ :: rest => establish timeoutMillis rest

end DeviceLink
