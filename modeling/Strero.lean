import Strero.Rtmp.RoundTrip
import Strero.Rtmp.Isolation
import Strero.Rtmp.Inheritance
import Strero.RtmpClient.Session
import Strero.Onvif
import Strero.AuthThreads
import Strero.Http.Authentication
import Strero.Rtsp.StreamContinuity
import Strero.Rtsp.SlotAccounting
import Strero.Rtsp.SessionState
import Strero.Rtsp.Authentication
import Strero.Rtsp.Segmentation
import Strero.Rtsp.SlotReuse
import Strero.Rtsp.KeyFrames
import Strero.Rtsp.InterleavingIntegrity
import Strero.RtmpClient.SequenceHeader
import Strero.RtmpClient.WholeChunks
import Strero.RtmpClient.CommandAgreement
import Strero.FrameManager
import Strero.Modules.Lifecycle
import Strero.Modules.Configuration
import Strero.Config.Restart
import Strero.Rtmp.ConnectionList
import Strero.RtmpClient.Targets
import Strero.Rtmp.PublishGate
import Strero.Onvif.StreamUri
import Strero.KeyFrameDetectors
import Strero.NalScanners
import Strero.Rtsp.MediaClock
import Strero.Rtsp.AccessUnits
import Strero.Rtsp.RefusedSetup
import Strero.Rtsp.TransportNegotiation
import Strero.Rtsp.SocketOwnership
import Strero.Rtsp.SessionTimeout
import Strero.Rtsp.ResponseBuffers
import Strero.Rtsp.Backchannel
import Strero.RtmpClient.HeaderBuilders
import Strero.RtmpClient.Timestamps
import Strero.RtmpClient.UrlParsing
import Strero.ParameterSets
import Strero.FrameAssembly
import Strero.RtmpClient.CreateStream
import Strero.Rtmp.CommandGrammar
import Strero.Rtmp.PayloadBuffers
import Strero.AuthBuffers
import Strero.Http.RouteTable
import Strero.Http.EndpointList
import Strero.Http.JsonEndpoints
import Strero.Http.Delivery
import Strero.Http.ConnectionSockets
import Strero.Http.RequestAssembly
import Strero.Onvif.SoapResponse
import Strero.Onvif.Discovery
import Strero.Http.Captures
import Strero.Onvif.ActionDispatch
import Strero.Motion.Events
import Strero.Motion.Lifecycle
import Strero.Motion.Zones
import Strero.ImpControl.Setters
import Strero.ImpControl.Coherence
import Strero.ImpControl.Requests
import Strero.ImpControl.Persistence
import Strero.Osd.MotionZones
import Strero.Osd.Clocks
import Strero.Osd.Accounts
import Strero.Osd.Placement
import Strero.Metrics.ProcessMetrics
import Strero.Metrics.Exposition
import Strero.Photosensing.Wiring
import Strero.Rtmp.Handshake
import Strero.RtmpClient.OwnServer
import Strero.Rtmp.CommandMemory
import Strero.SingleInstance
import Strero.Rtsp.LiveDelivery
import Strero.RtmpClient.FrameDelivery
import Strero.RtmpClient.LiveTargets
