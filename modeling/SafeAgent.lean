import SafeAgent.LiveRuns
import SafeAgent.AuditHead
import SafeAgent.AuditRuns
import SafeAgent.LiveAudit
import SafeAgent.Replies
import SafeAgent.StateRuns
import SafeAgent.SnapshotOnce
import SafeAgent.WorkObservations
import SafeAgent.Signatures
import SafeAgent.MalformedAnswers
import SafeAgent.OfflineVerifiers
import SafeAgent.ObservedReceipts
import SafeAgent.KeyEncoding
import SafeAgent.JournalRoundTrip
import SafeAgent.WorkReceiptTexts
import SafeAgent.KeychainPrompt
import SafeAgent.ControllerIdentity
import SafeAgent.ControllerCommands
import SafeAgent.GitHubRequests
import SafeAgent.WorkBundles
import SafeAgent.BaseUrls
import SafeAgent.DryRuns
import SafeAgent.RecoveryHistory
import SafeAgent.Decisions
import SafeAgent.Quota
import SafeAgent.Utf8
import SafeAgent.SigningDomains
import SafeAgent.AgentConfig
import SafeAgent.WorkEvidence
import SafeAgent.EvidenceReports
import SafeAgent.Embedding
import SafeAgent.Provision
import SafeAgent.ProvisionRetries
import SafeAgent.ConfigReload
import SafeAgent.EvidenceTokens
import SafeAgent.SendableEnvelopes
import SafeAgent.UncertainWrites
