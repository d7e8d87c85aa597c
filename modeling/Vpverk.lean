import Vpverk.Transition
import Vpverk.SpinQueue
import Vpverk.Slot
import Vpverk.Addresses
import Vpverk.RouteQueue
import Vpverk.QueueOrder
import Vpverk.Sessions
import Vpverk.SessionHistory
import Vpverk.AddressOwnership
import Vpverk.Octets
import Vpverk.Coroutine
import Vpverk.SortedVector
import Vpverk.FlatMap
import Vpverk.FlatMapRuns
import Vpverk.SearchUses
import Vpverk.CondVar
import Vpverk.Dispatch
import Vpverk.Logger
import Vpverk.LoggerOrder
import Vpverk.LoggerStop
import Vpverk.RouteIntegrity
import Vpverk.LostRoute
import Vpverk.Asioapi
import Vpverk.Peer
import Vpverk.ClientLoops
import Vpverk.ClientShutdown
import Vpverk.DataExchange
import Vpverk.RouterIteration
import Vpverk.ServerToClient
import Vpverk.RouteDecision
import Vpverk.RouterFrames
import Vpverk.RouterEntries
import Vpverk.NestedCalls
import Vpverk.SharedLog
import Vpverk.DuplexStream
import Vpverk.Wire
import Vpverk.WireSteps
import Vpverk.WireDiscipline
import Vpverk.HandshakeWire
import Vpverk.Handshake
import Vpverk.TransferLoops
import Vpverk.TransferWidth
import Vpverk.Settings
import Vpverk.StreamSync
import Vpverk.Flags
import Vpverk.ConnectionLocks
import Vpverk.TunLocks
import Vpverk.TunSchedule
import Vpverk.TunCancel
import Vpverk.TunOrder
import Vpverk.TunPriority
import Vpverk.TunUncancelled
import Vpverk.Demultiplex
import Vpverk.Sweep
import Vpverk.SweepBookkeeping
import Vpverk.SweepProgress
import Vpverk.AcceptLoop
import Vpverk.SessionsDrain
import Vpverk.RouteLifetimes
import Vpverk.SessionRefinement
import Vpverk.SweepExact
import Vpverk.BlockSize
import Vpverk.EmptyQueue
import Vpverk.AddressSelection
import Vpverk.Pairing
import Vpverk.Delivery
import Vpverk.KeyExchange
import Vpverk.Cvkrsa
import Vpverk.LoginExchange
import Vpverk.AddressDelivery
import Vpverk.Rejection
import Vpverk.Admission
import Vpverk.PacketIntegrity
import Vpverk.RouterIsolation
import Vpverk.RouterCalls
import Vpverk.RouterRefinement
import Vpverk.SweepRefinement
import Vpverk.SocketReadEnd
import Vpverk.ClientRefinement
import Vpverk.NetworkRestore
import Vpverk.TunWakeups
