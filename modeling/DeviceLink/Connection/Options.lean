import DeviceLink.Connection.Settings
import DeviceLink.Connection.Url

/-!
# Options of a connection

A connection is described by a client id and a broker's address, or by a URL
whose query carries the client id and further options.  The options of a URL are
looked at in a fixed order, so of several faults the first in that order is
reported; an option without a meaning comes last.
-/

namespace DeviceLink

inductive OptionError
  | url (error : UrlError)
  | scheme
  | clientId
  | keepAlive
  | cleanSession
  | maxIncomingPacketSize
  | maxOutgoingPacketSize
  | requestChannelCapacity
  | maxRequestBatch
  | pendingThrottle
  | inflight
  | unknown (name : String)
deriving DecidableEq, Repr

def OptionError.message : OptionError → String
  | url error => "Couldn't parse option from url: " ++ error.message
  | scheme => "Unsupported URL scheme."
  | clientId => "Missing client ID."
  | keepAlive => "Invalid keep-alive value."
  | cleanSession => "Invalid clean-session value."
  | maxIncomingPacketSize => "Invalid max-incoming-packet-size value."
  | maxOutgoingPacketSize => "Invalid max-outgoing-packet-size value."
  | requestChannelCapacity => "Invalid request-channel-capacity value."
  | maxRequestBatch => "Invalid max-request-batch value."
  | pendingThrottle => "Invalid pending-throttle value."
  | inflight => "Invalid inflight value."
  | unknown name => "Unknown option: " ++ name

/-- Certificates for a connection on which both sides prove who they are. -/
structure MutualTls where
  authority : String
  certificate : String
  key : String
  /-- The protocols offered while the connection is secured. -/
  protocols : Option (List String)
deriving DecidableEq, Repr

inductive Channel
  | tcp
  | tls (config : MutualTls)
deriving DecidableEq, Repr

structure ConnectionOptions where
  clientId : String
  host : String
  port : Nat
  keepAliveSeconds : Nat := 60
  cleanSession : Bool := true
  credentials : Option (String × String) := none
  channel : Channel := .tcp
  settings : Settings := {}
deriving DecidableEq, Repr

namespace ConnectionOptions

def mqttPort : Nat := 1883

def localhost (clientId : String) : ConnectionOptions := ⟨clientId, "localhost", mqttPort, 60, true, none, .tcp, {}⟩

/-- The port of the web, which brokers share with other protocols. -/
def sharedPort : Nat := 443

def sharedPortProtocol : String := "x-amzn-mqtt-ca"

/-- Secures the connection.  On the shared port the protocol is offered by name. -/
def withMutualTls (options : ConnectionOptions) (authority certificate key : String) :
    ConnectionOptions :=
  let protocols := if options.port = sharedPort then some [sharedPortProtocol] else none
  { options with channel := .tls ⟨authority, certificate, key, protocols⟩ }

/-- A whole number below a bound, with or without a plus sign. -/
def naturalBelow? (bound : Nat) (s : String) : Option Nat :=
  let digits := match s.toList with
    | '+' :: rest => rest
    | cs => cs
  if digits ≠ [] ∧ digits.all Char.isDigit then
    let n := digits.foldl (fun n c => n * 10 + (c.toNat - 48)) 0
    if n < bound then some n else none
  else none

def flag? (s : String) : Option Bool :=
  if s = "true" then some true else if s = "false" then some false else none

/-- The options of a query by name; of several with one name the last counts. -/
abbrev Query := List (String × String)

def option? {α : Type} (query : Query) (name : String) (read : String → Option α)
    (error : OptionError) : Except OptionError (Option α) :=
  match query.reverse.lookup name with
  | none => .ok none
  | some text =>
    match read text with
    | some value => .ok (some value)
    | none => .error error

def optionNames : List String :=
  ["client_id", "keep_alive_secs", "clean_session", "max_incoming_packet_size_bytes",
    "max_outgoing_packet_size_bytes", "request_channel_capacity_num", "max_request_batch_num",
    "pending_throttle_usecs", "inflight_num"]

def ofUrl (text : String) : Except OptionError ConnectionOptions := do
  let url ← match Url.ofText text with
    | .ok url => .ok url
    | .error e => .error (.url e)
  if url.scheme ≠ "mqtt" ∧ url.scheme ≠ "tcp" then
    .error .scheme
  let query := url.queryPairs
  let some clientId := query.reverse.lookup "client_id" | .error .clientId
  let keepAlive ← option? query "keep_alive_secs" (naturalBelow? UInt64.size) .keepAlive
  let cleanSession ← option? query "clean_session" flag? .cleanSession
  let credentials :=
    if url.username = "" then none else some (url.username, url.password.getD "")
  let _ ← option? query "max_incoming_packet_size_bytes" (naturalBelow? UInt64.size)
    .maxIncomingPacketSize
  let _ ← option? query "max_outgoing_packet_size_bytes" (naturalBelow? UInt64.size)
    .maxOutgoingPacketSize
  let _ ← option? query "request_channel_capacity_num" (naturalBelow? UInt64.size)
    .requestChannelCapacity
  let _ ← option? query "max_request_batch_num" (naturalBelow? UInt64.size) .maxRequestBatch
  let _ ← option? query "pending_throttle_usecs" (naturalBelow? UInt64.size) .pendingThrottle
  let _ ← option? query "inflight_num" (naturalBelow? UInt16.size) .inflight
  match query.find? fun pair => !optionNames.contains pair.1 with
  | some (name, _) => .error (.unknown name)
  | none =>
    .ok {
      clientId, host := url.host, port := url.port.getD mqttPort,
      keepAliveSeconds := keepAlive.getD 60, cleanSession := cleanSession.getD true, credentials }

end ConnectionOptions

end DeviceLink
