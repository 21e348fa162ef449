import VideoCapture.Frame.Packed
import VideoCapture.Frame.Resize
import VideoCapture.Frame.Fill
import VideoCapture.Frame.PixelFormat
import VideoCapture.Logo
import VideoCapture.Logo.Painting
import VideoCapture.Settings.Reader
import VideoCapture.Settings.Writer
import VideoCapture.SoundCards
import VideoCapture.Hotplug.Monitor
import VideoCapture.Hotplug.Hub
import VideoCapture.Dispatch
import VideoCapture.PreviewLoop
import VideoCapture.PreviewProtocol
import VideoCapture.Scripted.Source
import VideoCapture.Scripted.Listener
import VideoCapture.Controller.Builder
import VideoCapture.Controller.Operation
import VideoCapture.Controller.Bridge
import VideoCapture.Controller.Hotplug
import VideoCapture.Scripted.Recorder
import VideoCapture.V4L2.Capture
import VideoCapture.V4L2.Watcher
import VideoCapture.Scripted.Disk
import VideoCapture.Scripted.Nodes
import VideoCapture.Proofs.Trace
import VideoCapture.Proofs.Control
import VideoCapture.Proofs.Conversation
import VideoCapture.Proofs.Custody
import VideoCapture.Proofs.Session
import VideoCapture.Proofs.Settled
import VideoCapture.Proofs.Ownership
import VideoCapture.Proofs.IdleDevice
import VideoCapture.Proofs.Opening
import VideoCapture.Proofs.GeometryLaw
import VideoCapture.Proofs.Delivery
import VideoCapture.Proofs.Frames
import VideoCapture.Proofs.LoopTrace
import VideoCapture.Proofs.Turns
import VideoCapture.Proofs.Adjusting
import VideoCapture.Proofs.Steady
import VideoCapture.Proofs.RecordedSettings
import VideoCapture.Proofs.LoopLaw
import VideoCapture.Proofs.AdjustmentLaw
import VideoCapture.Proofs.Agreement
import VideoCapture.Proofs.Resolution
import VideoCapture.Proofs.Recovery
import VideoCapture.Proofs.Evolution
import VideoCapture.Proofs.Announcing
import VideoCapture.Proofs.Brackets
import VideoCapture.Proofs.BracketLaw
import VideoCapture.Proofs.Presence
import VideoCapture.Proofs.Standby
import VideoCapture.Proofs.Unplugging
import VideoCapture.Proofs.Policy
import VideoCapture.Proofs.TakeOver
import VideoCapture.Proofs.Booking
import VideoCapture.Proofs.Moves
import VideoCapture.Proofs.Handing
import VideoCapture.Proofs.Queued
import VideoCapture.Proofs.Contexts
import VideoCapture.Proofs.Manners
import VideoCapture.Proofs.BridgeLaw
import VideoCapture.Proofs.ForwardingLaw
import VideoCapture.Proofs.Json.Spelling
import VideoCapture.Proofs.Json.Tree
import VideoCapture.Proofs.Json.Printing
import VideoCapture.Proofs.Settings.Records
import VideoCapture.Proofs.Settings.Fields
import VideoCapture.Proofs.Settings.Documents
import VideoCapture.Proofs.Preview.Log
import VideoCapture.Proofs.Preview.Accord
import VideoCapture.Proofs.Preview.Coherence
import VideoCapture.Proofs.Preview.Progress
import VideoCapture.Proofs.Preview.Schedules
import VideoCapture.Proofs.Preview.Sessions
import VideoCapture.Proofs.Frame.Unpacking
import VideoCapture.Proofs.Frame.Resizing
import VideoCapture.Proofs.Frame.Length
import VideoCapture.Proofs.Hotplug.Tracking
import VideoCapture.Proofs.Hotplug.FanOut
import VideoCapture.Proofs.Hotplug.Irrelevance
import VideoCapture.Proofs.V4L2.Sessions
import VideoCapture.Proofs.V4L2.Naming
import VideoCapture.Proofs.V4L2.Attribution
import VideoCapture.Proofs.V4L2.Normalising
import VideoCapture.Proofs.V4L2.Watching
import VideoCapture.Proofs.V4L2.Scale
import VideoCapture.Proofs.V4L2.ReadingBack
import VideoCapture.Proofs.V4L2.Approximation
import VideoCapture.Proofs.Logo.Uses
import VideoCapture.Proofs.Logo.Picture
import VideoCapture.Proofs.Logo.Motion
import VideoCapture.Proofs.Text.Cutting
import VideoCapture.Proofs.CardList
import VideoCapture.Proofs.Jobs.Forest
import VideoCapture.Proofs.Jobs.Contexts
