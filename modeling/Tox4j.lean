import Tox4j.Misc.Run
import Tox4j.Misc.TableLoop
import Tox4j.Misc.Restrict
import Tox4j.Misc.Changes
import Tox4j.Misc.Since
import Tox4j.Misc.Pointwise
import Tox4j.Misc.LockOrder
import Tox4j.Misc.Potential
import Tox4j.Misc.AtomicObject
import Tox4j.Misc.Checked
import Tox4j.Misc.Reader
import Tox4j.Misc.Codec
import Tox4j.Misc.BigEndian
import Tox4j.Misc.SignedXor
import Tox4j.Misc.Numeral
import Tox4j.Misc.LastWrite
import Tox4j.Misc.Sentinel
import Tox4j.Misc.Regroup
import Tox4j.Misc.Mirror
import Tox4j.Adapter.CorePrivate
import Tox4j.Adapter.FileApi
import Tox4j.Adapter.Proofs.FileApi
import Tox4j.Adapter.Session
import Tox4j.Adapter.Proofs.Effects
import Tox4j.Adapter.Proofs.RequestBounds
import Tox4j.Adapter.Channel
import Tox4j.Adapter.EndToEnd
import Tox4j.Adapter.Proofs.Channel
import Tox4j.Adapter.Proofs.EndToEnd
import Tox4j.Adapter.Exchange
import Tox4j.Adapter.Proofs.Exchange
import Tox4j.Adapter.Proofs.ExchangeTurns
import Tox4j.Adapter.Proofs.Completion
import Tox4j.Adapter.Friends
import Tox4j.Adapter.Proofs.Friends
import Tox4j.Adapter.Proxy
import Tox4j.Adapter.Proofs.Proxy
import Tox4j.Instances.ToxInstances
import Tox4j.Instances.Proofs.ToxInstances
import Tox4j.Instances.Proofs.Operations
import Tox4j.Instances.Handles
import Tox4j.Instances.Proofs.Handles
import Tox4j.Instances.LockSteps
import Tox4j.Instances.Proofs.LockSteps
import Tox4j.Instances.Proofs.LockSafety
import Tox4j.Instances.Atomic
import Tox4j.Instances.Proofs.Atomic
import Tox4j.Instances.Managers
import Tox4j.Instances.Proofs.Managers
import Tox4j.Instances.Proofs.Termination
import Tox4j.Instances.Sessions
import Tox4j.Instances.Proofs.Sessions
import Tox4j.Instances.Creation
import Tox4j.Instances.Proofs.Creation
import Tox4j.Jni.Arrays
import Tox4j.Jni.SendFrame
import Tox4j.Jni.Proofs.SendFrame
import Tox4j.Java.Lifetimes
import Tox4j.Java.Proofs.Lifetimes
import Tox4j.Java.Events
import Tox4j.Java.Proofs.Events
import Tox4j.DhtNode.Message
import Tox4j.DhtNode.Types
import Tox4j.DhtNode.Packet
import Tox4j.DhtNode.Main
import Tox4j.DhtNode.Network
import Tox4j.DhtNode.Proofs.Message
import Tox4j.DhtNode.Proofs.Framing
import Tox4j.DhtNode.Proofs.Node
import Tox4j.DhtNode.Proofs.Packet
import Tox4j.DhtNode.Proofs.Fields
import Tox4j.DhtNode.Proofs.Main
import Tox4j.DhtNode.Proofs.Network
import Tox4j.DhtNode.XorBox
import Tox4j.DhtNode.Distance
import Tox4j.DhtNode.Proofs.Distance
import Tox4j.DhtNode.AddressText
import Tox4j.DhtNode.Proofs.AddressText
import Tox4j.DhtNode.Proofs.Survival
import Tox4j.DhtNode.Proofs.Authenticity
import Tox4j.DhtNode.Proofs.RoundTrip
import Tox4j.DhtNode.Layout
import Tox4j.DhtNode.Proofs.Layout
import Tox4j.DhtNode.Proofs.NodesResponse
import Tox4j.DhtNode.History
import Tox4j.DhtNode.Proofs.History
import Tox4j.DhtNode.Proofs.Table
import Tox4j.Adapter.PauseRule
import Tox4j.Adapter.Proofs.PauseRule
import Tox4j.Adapter.Reuse
import Tox4j.Adapter.Proofs.Reuse
import Tox4j.Adapter.Av
import Tox4j.Adapter.Calls
import Tox4j.Adapter.Proofs.Calls
import Tox4j.Adapter.Media
import Tox4j.Adapter.Proofs.Media
import Tox4j.Adapter.Frames
import Tox4j.Adapter.Log
import Tox4j.Adapter.Proofs.AvSteps
import Tox4j.Adapter.Proofs.Frames
import Tox4j.Adapter.Proofs.Log
import Tox4j.Adapter.Proofs.Connection
import Tox4j.Adapter.Isolation
import Tox4j.Adapter.Proofs.Isolation
import Tox4j.Adapter.Proofs.Outstanding
import Tox4j.Adapter.CallHistory
import Tox4j.Adapter.Proofs.CallHistory
import Tox4j.Adapter.Answering
import Tox4j.Adapter.Proofs.Answering
import Tox4j.Adapter.Proofs.AudioAnswering
import Tox4j.Adapter.ReceivedAudio
import Tox4j.Adapter.Proofs.ReceivedAudio
import Tox4j.Adapter.Outgoing
import Tox4j.Adapter.Proofs.Outgoing
import Tox4j.Adapter.ErrorCodes
import Tox4j.Adapter.FileCalls
import Tox4j.Adapter.Slots
import Tox4j.Adapter.Proofs.Cancel
import Tox4j.Adapter.Proofs.Slots
import Tox4j.Adapter.Proofs.ErrorCodes
import Tox4j.Jni.Arguments
import Tox4j.Jni.Proofs.Arguments
import Tox4j.Adapter.Texts
import Tox4j.Adapter.Proofs.Texts
import Tox4j.Adapter.Proofs.SendChunk
import Tox4j.Adapter.Proofs.Progress
import Tox4j.Java.Proofs.FileCompletion
import Tox4j.DhtNode.Proofs.Swarm
import Tox4j.Java.Proofs.FrameRequests
import Tox4j.Jni.Proofs.Exceptions
