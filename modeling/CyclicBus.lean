import CyclicBus.Bench.ClockBench
import CyclicBus.Bench.CommandBench
import CyclicBus.Bench.Demand
import CyclicBus.Bench.Sample
import CyclicBus.Main
import CyclicBus.Report.Run
import CyclicBus.Report.Timing
import CyclicBus.Report.Trace
import CyclicBus.Proofs.Clock.FilterInvariant
import CyclicBus.Proofs.Clock.ExactFilter
import CyclicBus.Proofs.Clock.Windows
import CyclicBus.Proofs.Clock.Rollover
import CyclicBus.Proofs.Clock.Slew
import CyclicBus.Proofs.Bus.SameSession
import CyclicBus.Proofs.Exchange.OutputFrame
import CyclicBus.Proofs.Exchange.CycleWords
import CyclicBus.Proofs.Worker.Stopping
import CyclicBus.Proofs.Controller.Custody
import CyclicBus.Proofs.Controller.Sessions
import CyclicBus.Proofs.Controller.FailedStart
import CyclicBus.Proofs.Controller.AcceptedDocument
import CyclicBus.Proofs.Exchange.HeldOutputs
import CyclicBus.Proofs.Exchange.OutputStores
import CyclicBus.Proofs.Exchange.PerfectReference
import CyclicBus.Proofs.Exchange.Edges
import CyclicBus.Proofs.Exchange.Tally
import CyclicBus.Proofs.Exchange.FaithfulSnapshot
import CyclicBus.Proofs.Worker.PipelineAccounts
import CyclicBus.Proofs.Worker.RunBound
import CyclicBus.Proofs.Worker.LaunchProtocol
import CyclicBus.Proofs.ProcessData.Subscriptions
import CyclicBus.Proofs.ProcessData.OutputCommands
import CyclicBus.Proofs.Exchange.WakeupJitter
import CyclicBus.Proofs.Controller.LifecycleEvents
import CyclicBus.Proofs.Config.RoundTrip
import CyclicBus.Proofs.Timing.Percentiles
import CyclicBus.Proofs.Bus.DomainAccess
import CyclicBus.Proofs.Clock.Readings
import CyclicBus.Proofs.Config.FirstViolation
import CyclicBus.Proofs.Trace.SinkMetrics
import CyclicBus.Proofs.Clock.NearestQuotient
import CyclicBus.Proofs.Bus.TotalLengths
import CyclicBus.Proofs.Trace.Handles
