import ThreadsPlatform.Proofs.Validity
import ThreadsPlatform.Proofs.Preemption
import ThreadsPlatform.Proofs.Routing
import ThreadsPlatform.Proofs.ExclusiveExecution
import ThreadsPlatform.Proofs.Replay
import ThreadsPlatform.Proofs.TickClock
import ThreadsPlatform.Proofs.RoutingReturns
import ThreadsPlatform.Proofs.WorkerCapacity
import ThreadsPlatform.Proofs.Draining
import ThreadsPlatform.Proofs.LocalRecurrences
import ThreadsPlatform.Proofs.NurtureAnswers
import ThreadsPlatform.Proofs.DiscoveryRuns
import ThreadsPlatform.Proofs.PublishJournal
import ThreadsPlatform.Proofs.SanitisedErrors
import ThreadsPlatform.Proofs.OutboxDelivery
import ThreadsPlatform.Proofs.CommandHandlers
import ThreadsPlatform.Proofs.SharedRequests
import ThreadsPlatform.Proofs.OperatorSessions
import ThreadsPlatform.Proofs.WorkerCredentials
import ThreadsPlatform.Proofs.MediaLocalUpload
import ThreadsPlatform.Proofs.NurtureContent
import ThreadsPlatform.Proofs.RetryTimes
import ThreadsPlatform.Proofs.SessionReports
import ThreadsPlatform.Proofs.ActivityMaterialization
import ThreadsPlatform.Proofs.PageBudget
import ThreadsPlatform.Proofs.DeliveryAttempts
import ThreadsPlatform.Proofs.LocalSessions
import ThreadsPlatform.Workers.ReconnectRecovery
import ThreadsPlatform.Proofs.History
