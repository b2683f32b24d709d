import DeviceLink.Connection.EventLoop
import DeviceLink.Connection.Options
import DeviceLink.Topic.Error

/-!
# Errors of the client
-/

namespace DeviceLink

inductive ClientError
  | configuration (error : OptionError)
  | settings (error : SettingsError)
  /-- The value has no payload in the format that was asked for. -/
  | serialization (reason : String)
  /-- The session takes no more commands. -/
  | channelClosed
  | topic (error : TopicError)
  | establishment (error : EstablishmentError)
deriving DecidableEq, Repr

def channelClosedMessage : String := "Subscription manager command channel closed"

def ClientError.message : ClientError → String
  | configuration error => "Configuration error: " ++ error.message
  | settings error => "Invalid configuration value: " ++ error.message
  | serialization reason => "Serialization error: " ++ reason
  | channelClosed => "Subscription error: " ++ channelClosedMessage
  | topic error => "Topic error: " ++ error.message
  | establishment error => "Failed to establish connection: " ++ error.message

/-- Connects: the settings are looked at before the network is. -/
def connect (options : ConnectionOptions) (polls : List PollResult) :
    Except ClientError (List PollResult) :=
  match options.settings.validate with
  | .error e => .error (.settings e)
  | .ok () =>
    match establish options.settings.connectionTimeoutMillis polls with
    | .error e => .error (.establishment e)
    | .ok rest => .ok rest

end DeviceLink
