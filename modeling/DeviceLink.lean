import DeviceLink.Ack.Cell
import DeviceLink.Client.Rehearsal
import DeviceLink.Jobs.Operations
import DeviceLink.Shadow.Operations
import DeviceLink.Token
import DeviceLink.Transport.Queue
import DeviceLink.Proofs.Session.Effect
import DeviceLink.Proofs.Session.Transition
import DeviceLink.Proofs.Session.History
import DeviceLink.Proofs.Session.Subscription
import DeviceLink.Proofs.Session.Acknowledgement
import DeviceLink.Proofs.Session.Delivery
import DeviceLink.Proofs.Session.Refusal
import DeviceLink.Proofs.Session.Release
import DeviceLink.Proofs.Session.CallOrder
import DeviceLink.Proofs.Session.Resubscription
import DeviceLink.Proofs.Session.Shutdown
import DeviceLink.Proofs.Topic.Collision
import DeviceLink.Proofs.Shape.Bytes
import DeviceLink.Proofs.Shape.Tolerance
import DeviceLink.Proofs.Ack.OneShot
import DeviceLink.Proofs.Topic.Outcome
import DeviceLink.Proofs.Topic.Injectivity
import DeviceLink.Proofs.Client.Concrete
import DeviceLink.Proofs.Connection.EventLoop
import DeviceLink.Proofs.Session.IssueOrder
import DeviceLink.Proofs.Timestamp.SystemTime
import DeviceLink.Proofs.Shape.Normalisation
import DeviceLink.Proofs.Client.Attempt
import DeviceLink.Proofs.Client.Rehearsal
import DeviceLink.Proofs.Topic.Binding
import DeviceLink.Proofs.Timestamp.Truncation
import DeviceLink.Proofs.Shape.Nesting
