import AlarmMesh.CommandLine
import AlarmMesh.Config.Reader
import AlarmMesh.Config.Settings
import AlarmMesh.Config.Writer
import AlarmMesh.Config.Yaml.Node
import AlarmMesh.Config.Yaml.Reader
import AlarmMesh.Config.Yaml.Scalar
import AlarmMesh.Device.Alarm
import AlarmMesh.Device.Profile
import AlarmMesh.Gateway.Control
import AlarmMesh.Gateway.Correlator
import AlarmMesh.Gateway.Discovery.Basic
import AlarmMesh.Gateway.Discovery.Interrogation
import AlarmMesh.Gateway.Discovery.Member
import AlarmMesh.Gateway.Discovery.Request
import AlarmMesh.Gateway.Discovery.Session
import AlarmMesh.Gateway.Engine
import AlarmMesh.Gateway.Event
import AlarmMesh.Gateway.Network
import AlarmMesh.Gateway.Service
import AlarmMesh.Gateway.Site
import AlarmMesh.Link.Buffer
import AlarmMesh.Link.ChannelError
import AlarmMesh.Link.Driver
import AlarmMesh.Link.MemoryChannel
import AlarmMesh.Link.Pool
import AlarmMesh.Link.Stream
import AlarmMesh.Link.Stuffing
import AlarmMesh.Main
import AlarmMesh.Metric.Basic
import AlarmMesh.Metric.Catalog
import AlarmMesh.Metric.Tally
import AlarmMesh.Proofs.Config.Check
import AlarmMesh.Proofs.Gateway.Activations
import AlarmMesh.Proofs.Gateway.Acts
import AlarmMesh.Proofs.Gateway.AlarmAccount
import AlarmMesh.Proofs.Gateway.Aside
import AlarmMesh.Proofs.Gateway.Attribution
import AlarmMesh.Proofs.Gateway.Budget
import AlarmMesh.Proofs.Gateway.Chores
import AlarmMesh.Proofs.Gateway.Commute
import AlarmMesh.Proofs.Gateway.Countdown
import AlarmMesh.Proofs.Gateway.Course
import AlarmMesh.Proofs.Gateway.CurrentMap
import AlarmMesh.Proofs.Gateway.Deferred
import AlarmMesh.Proofs.Gateway.DeleteAll
import AlarmMesh.Proofs.Gateway.Deletion
import AlarmMesh.Proofs.Gateway.DetailWord
import AlarmMesh.Proofs.Gateway.Ending
import AlarmMesh.Proofs.Gateway.FaultReport
import AlarmMesh.Proofs.Gateway.Footprint
import AlarmMesh.Proofs.Gateway.Handlers
import AlarmMesh.Proofs.Gateway.Identified
import AlarmMesh.Proofs.Gateway.Lapse
import AlarmMesh.Proofs.Gateway.Lasting
import AlarmMesh.Proofs.Gateway.LateReport
import AlarmMesh.Proofs.Gateway.LatestAlarm
import AlarmMesh.Proofs.Gateway.LatestFault
import AlarmMesh.Proofs.Gateway.LearnMode
import AlarmMesh.Proofs.Gateway.LeftOut
import AlarmMesh.Proofs.Gateway.Lifetime
import AlarmMesh.Proofs.Gateway.Locality
import AlarmMesh.Proofs.Gateway.MapUpdate
import AlarmMesh.Proofs.Gateway.MoveFootprint
import AlarmMesh.Proofs.Gateway.Ownership
import AlarmMesh.Proofs.Gateway.Pacing
import AlarmMesh.Proofs.Gateway.Parking
import AlarmMesh.Proofs.Gateway.Pending
import AlarmMesh.Proofs.Gateway.Phases
import AlarmMesh.Proofs.Gateway.Presence
import AlarmMesh.Proofs.Gateway.Probing
import AlarmMesh.Proofs.Gateway.Questions
import AlarmMesh.Proofs.Gateway.Rearming
import AlarmMesh.Proofs.Gateway.Refused
import AlarmMesh.Proofs.Gateway.Registration
import AlarmMesh.Proofs.Gateway.Removal
import AlarmMesh.Proofs.Gateway.Repetition
import AlarmMesh.Proofs.Gateway.Ring
import AlarmMesh.Proofs.Gateway.Rounds
import AlarmMesh.Proofs.Gateway.Run
import AlarmMesh.Proofs.Gateway.Session
import AlarmMesh.Proofs.Gateway.Settling
import AlarmMesh.Proofs.Gateway.ShownMode
import AlarmMesh.Proofs.Gateway.Silent
import AlarmMesh.Proofs.Gateway.SlotAccount
import AlarmMesh.Proofs.Gateway.StaleMap
import AlarmMesh.Proofs.Gateway.TestMove
import AlarmMesh.Proofs.Gateway.Touch
import AlarmMesh.Proofs.Gateway.Turn
import AlarmMesh.Proofs.Gateway.UnknownCount
import AlarmMesh.Proofs.Gateway.Verdict
import AlarmMesh.Proofs.Gateway.View
import AlarmMesh.Proofs.Gateway.Written
import AlarmMesh.Proofs.Link.Buffered
import AlarmMesh.Proofs.Link.Delivery
import AlarmMesh.Proofs.Link.Holding
import AlarmMesh.Proofs.Link.InPlace
import AlarmMesh.Proofs.Link.Sending
import AlarmMesh.Proofs.Link.Slots
import AlarmMesh.Proofs.Link.Splitting
import AlarmMesh.Proofs.Link.Traffic
import AlarmMesh.Proofs.Radio.Decoding
import AlarmMesh.Proofs.Radio.Encoding
import AlarmMesh.Proofs.Radio.Fields
import AlarmMesh.Proofs.Radio.Layout
import AlarmMesh.Proofs.Radio.SlotCount
import AlarmMesh.Proofs.Radio.SlotSet
import AlarmMesh.Proofs.Shadow.Atomic
import AlarmMesh.Proofs.Shadow.Edit
import AlarmMesh.Proofs.Shadow.Effect
import AlarmMesh.Proofs.Shadow.InPlace
import AlarmMesh.Proofs.Shadow.Names
import AlarmMesh.Proofs.Shadow.Rewrite
import AlarmMesh.Proofs.Shadow.Store
import AlarmMesh.Proofs.Time.DurationText
import AlarmMesh.Proofs.Timers.Lazy
import AlarmMesh.Proofs.Timers.Order
import AlarmMesh.Proofs.Timers.PriorityList
import AlarmMesh.Proofs.Timers.Tied
import AlarmMesh.Radio.Code
import AlarmMesh.Radio.Command
import AlarmMesh.Radio.Decode
import AlarmMesh.Radio.DeviceId
import AlarmMesh.Radio.FaultFlag
import AlarmMesh.Radio.FrameError
import AlarmMesh.Radio.Report
import AlarmMesh.Radio.SidMap
import AlarmMesh.Radio.Word
import AlarmMesh.Shadow.Change
import AlarmMesh.Shadow.InPlace
import AlarmMesh.Shadow.Platform
import AlarmMesh.Shadow.Property
import AlarmMesh.Shadow.Store
import AlarmMesh.Shadow.Table
import AlarmMesh.Shadow.Value
import AlarmMesh.Shadow.ValueText
import AlarmMesh.Text.Blank
import AlarmMesh.Text.Number
import AlarmMesh.Time.Clock
import AlarmMesh.Time.Duration
import AlarmMesh.Time.LazyQueue
import AlarmMesh.Time.TimerQueue
