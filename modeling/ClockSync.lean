import ClockSync.Client.ChannelSession
import ClockSync.Main
import ClockSync.Net.Sockets
import ClockSync.Proofs.Estimator.Runs
import ClockSync.Proofs.Estimator.Rate
import ClockSync.Proofs.Estimator.History
import ClockSync.Proofs.Estimator.Verdicts
import ClockSync.Proofs.Estimator.Epochs
import ClockSync.Proofs.Estimator.Bounds
import ClockSync.Proofs.Client.Turns
import ClockSync.Proofs.Client.Runs
import ClockSync.Proofs.Client.Datagrams
import ClockSync.Proofs.Client.Measurements
import ClockSync.Proofs.Client.Sessions
import ClockSync.Proofs.Reflector.Requests
import ClockSync.Proofs.Reflector.Runs
import ClockSync.Proofs.Reflector.Sessions
import ClockSync.Proofs.Hosts
import ClockSync.Proofs.Reflector.Exchanges
import ClockSync.Proofs.Client.LifeCycle
import ClockSync.Proofs.Client.Restarts
import ClockSync.Proofs.Client.Presentation
import ClockSync.Proofs.Client.RestartedSessions
import ClockSync.Proofs.Network
import ClockSync.Proofs.Client.Failures
import ClockSync.Proofs.Client.AccuracyWaits
import ClockSync.Proofs.Client.Channels
import ClockSync.Proofs.Client.ChannelStates
import ClockSync.Proofs.Client.Wakeups
import ClockSync.Proofs.Clock.Runs
import ClockSync.Proofs.Clock.Roundings
import ClockSync.Proofs.Clock.Order
import ClockSync.Proofs.Estimator.Outliers
import ClockSync.Proofs.Estimator.Lines
import ClockSync.Proofs.Accuracy.Summaries
import ClockSync.Proofs.Estimator.Safety
import ClockSync.Proofs.Client.Advances
import ClockSync.Proofs.Reflector.Restarts
import ClockSync.Proofs.Playback
import ClockSync.Proofs.Client.Settings
import ClockSync.Proofs.Endpoints
import ClockSync.Proofs.CommandLine.Commands
import ClockSync.Proofs.Windows.Runs
import ClockSync.Proofs.Estimator.Medians
