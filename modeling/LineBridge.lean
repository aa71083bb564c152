import LineBridge.Bench.Pipe
import LineBridge.Bench.Probe
import LineBridge.Bench.Script
import LineBridge.Bench.Tape
import LineBridge.Main
import LineBridge.Spi.Link
import LineBridge.Proofs.DeviceSteps
import LineBridge.Proofs.DeviceWaits
import LineBridge.Proofs.FlatMemory
import LineBridge.Proofs.Outcome
import LineBridge.Proofs.Fronting
import LineBridge.Proofs.Waiting
import LineBridge.Proofs.Transactions
import LineBridge.Proofs.Moves
import LineBridge.Proofs.Requests
import LineBridge.Proofs.Validation
import LineBridge.Proofs.ReadSoundness
import LineBridge.Proofs.TornWrites
import LineBridge.Proofs.AcknowledgedWrites
import LineBridge.Proofs.Calls
import LineBridge.Proofs.FlatRefinement
import LineBridge.Proofs.Loading
import LineBridge.Proofs.LoadedImages
import LineBridge.Proofs.Codec
import LineBridge.Proofs.Deliveries
import LineBridge.Proofs.Agreement
import LineBridge.Proofs.Polls
import LineBridge.Proofs.PlainLinks
import LineBridge.Proofs.Frames
import LineBridge.Proofs.Exchange
import LineBridge.Proofs.Mirroring
import LineBridge.Proofs.RemoteAccesses
import LineBridge.Proofs.Pipes
import LineBridge.Proofs.Timing
import LineBridge.Proofs.DriverRelation
import LineBridge.Proofs.MirroredCalls
import LineBridge.Proofs.StreamRefinement
import LineBridge.Proofs.LikeDevices
import LineBridge.Proofs.AbortedDevices
import LineBridge.Proofs.Emission
import LineBridge.Proofs.TransactionTraces
import LineBridge.Proofs.LoadOutcomes
import LineBridge.Proofs.Sequences
import LineBridge.Proofs.AnyLink
import LineBridge.Proofs.Tilings
import LineBridge.Proofs.RequestTilings
import LineBridge.Proofs.SelfDelimiting
import LineBridge.Proofs.IdleClocks
import LineBridge.Proofs.Performed
import LineBridge.Proofs.ServedFrames
import LineBridge.Proofs.AdapterCommands
import LineBridge.Proofs.AdapterFrames
import LineBridge.Proofs.AdapterTraffic
import LineBridge.Proofs.ElfSegments
import LineBridge.Proofs.ParsedImages
import LineBridge.Proofs.AccessRelation
import LineBridge.Proofs.SteadyLinks
import LineBridge.Proofs.Metering
import LineBridge.Proofs.AnsweredCommands
import LineBridge.Proofs.ClockedCommands
import LineBridge.Proofs.ResponseBoundaries
import LineBridge.Proofs.OpeningCommands
import LineBridge.Proofs.PackedWrites
import LineBridge.Proofs.Guarded
import LineBridge.Proofs.GuardedDriver
import LineBridge.Proofs.InBounds
import LineBridge.Proofs.RequestChecks
import LineBridge.Proofs.RequestEnds
import LineBridge.Proofs.RejectedCommands
import LineBridge.Proofs.ReplySequences
import LineBridge.Proofs.Courses
import LineBridge.Proofs.TransactionOutcomes
import LineBridge.Proofs.RemotePolls
import LineBridge.Proofs.FramedStreams
import LineBridge.Proofs.ElfLayouts
import LineBridge.Proofs.WordWrites
import LineBridge.Proofs.LostAccesses
import LineBridge.Proofs.ExecutionControl
import LineBridge.Proofs.CutReplies
import LineBridge.Proofs.PollingRuns
import LineBridge.Proofs.CommandLogs
import LineBridge.Proofs.Accounts
import LineBridge.Proofs.JsonWriting
import LineBridge.Proofs.SettingsOverlays
import LineBridge.Proofs.LineMemory
import LineBridge.Proofs.IdleTraffic
import LineBridge.Proofs.Operands
import LineBridge.Proofs.DumpedRows
