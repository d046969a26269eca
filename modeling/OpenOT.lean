import OpenOT.Lib.Outcome
import OpenOT.Lib.LittleEndian
import OpenOT.Lib.CircularLog
import OpenOT.Lib.Numbering
import OpenOT.Lib.Intervals
import OpenOT.Lib.Reader
import OpenOT.Lib.Runs
import OpenOT.Lib.Seqlock
import OpenOT.Lib.Checksum
import OpenOT.Carriage.WireFormat
import OpenOT.Carriage.Corruption
import OpenOT.Carriage.RingRaw
import OpenOT.Carriage.Captured
import OpenOT.Carriage.EpochInvariant
import OpenOT.Carriage.EpochAtomic
import OpenOT.Carriage.TransitionLog
import OpenOT.Carriage.EpochReplay
import OpenOT.Carriage.LossInvariant
import OpenOT.Carriage.LossIntervals
import OpenOT.Carriage.LossAccounts
import OpenOT.Carriage.Polling
import OpenOT.Carriage.SnapshotReads
import OpenOT.Carriage.Capture
import OpenOT.Carriage.LossReport
import OpenOT.Carriage.LossRoundTrip
import OpenOT.Carriage.EvictionLog
import OpenOT.Carriage.ConcurrentAppend
import OpenOT.Carriage.ConcurrentSystem
import OpenOT.Shm.Snapshot
import OpenOT.Shm.Restart
import OpenOT.Definition.ResolverRuns
import OpenOT.Lib.CircularTable
import OpenOT.Lib.PackedList
import OpenOT.Lib.History
import OpenOT.Lib.KeyedTable
import OpenOT.St.Encoders
import OpenOT.St.Ring256
import OpenOT.St.RingRefinement
import OpenOT.St.RingRuns
import OpenOT.St.Publishing
import OpenOT.St.Operations
import OpenOT.St.Records
import OpenOT.St.Emissions
import OpenOT.St.Producer
import OpenOT.St.Steps
import OpenOT.St.Decoding
import OpenOT.St.Sources
import OpenOT.St.Feeding
import OpenOT.St.Listing
import OpenOT.St.Signatures
import OpenOT.St.ConditionPairing
import OpenOT.St.ConditionRuns
import OpenOT.St.TransitionGuards
import OpenOT.St.BufferBounds
import OpenOT.St.RecordNumbers
import OpenOT.Lib.Grouping
import OpenOT.Definition.Validated
import OpenOT.Definition.Grammar
import OpenOT.Definition.ResolvedKeys
import OpenOT.Definition.ValueUnits
import OpenOT.Lib.Hex
import OpenOT.Document.Document
import OpenOT.Document.Slots
import OpenOT.Definition.Canonical
import OpenOT.St.Shapes
import OpenOT.St.Conformance
import OpenOT.Conformance.Observer
import OpenOT.Conformance.OracleRuns
import OpenOT.Lib.Text
import OpenOT.Conformance.Report
import OpenOT.Conformance.LiveHarness
import OpenOT.Conformance.LiveRecords
import OpenOT.Conformance.LiveRuns
import OpenOT.Conformance.Fenced
import OpenOT.St.Driving
import OpenOT.St.Tracking
import OpenOT.St.ProducerRefinement
import OpenOT.St.CapturedRing
import OpenOT.St.CapturedRuns
import OpenOT.St.DroppedRecords
import OpenOT.Lib.BitDivision
import OpenOT.St.Checksum
import OpenOT.Lib.ChangeLog
import OpenOT.St.ValueTables
import OpenOT.St.ValueRecords
import OpenOT.St.Observations
import OpenOT.St.ValueLog
import OpenOT.St.AuditChain
import OpenOT.Carriage.ErrorDetection
import OpenOT.Carriage.ControlImage
import OpenOT.Shm.SharedRing
