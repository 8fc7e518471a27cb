import ProcessTriggers.Config.Sources
import ProcessTriggers.Job.Dispatcher
import ProcessTriggers.Log.Logger
import ProcessTriggers.Main
import ProcessTriggers.Proofs.Atomicity
import ProcessTriggers.Proofs.CacheHistory
import ProcessTriggers.Proofs.Comparisons
import ProcessTriggers.Proofs.Conditions
import ProcessTriggers.Proofs.Correlation
import ProcessTriggers.Proofs.Courses
import ProcessTriggers.Proofs.Credentials
import ProcessTriggers.Proofs.EarliestTimes
import ProcessTriggers.Proofs.EffectFlags
import ProcessTriggers.Proofs.ElementAudit
import ProcessTriggers.Proofs.Evaluation
import ProcessTriggers.Proofs.ExecutionLogs
import ProcessTriggers.Proofs.FilledObjects
import ProcessTriggers.Proofs.FiringFaults
import ProcessTriggers.Proofs.Interchange
import ProcessTriggers.Proofs.Interleavings
import ProcessTriggers.Proofs.Isolation
import ProcessTriggers.Proofs.JobReports
import ProcessTriggers.Proofs.NumericTexts
import ProcessTriggers.Proofs.Paths
import ProcessTriggers.Proofs.References
import ProcessTriggers.Proofs.Retries
import ProcessTriggers.Proofs.Statistics
import ProcessTriggers.Proofs.Stops
import ProcessTriggers.Proofs.Ticks
import ProcessTriggers.Proofs.Twins
import ProcessTriggers.Proofs.WebhookBodies
import ProcessTriggers.Proofs.WebhookCalls
