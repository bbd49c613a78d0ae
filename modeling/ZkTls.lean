import ZkTls.AnsweringHost
import ZkTls.AttestationChecks
import ZkTls.CsrfAgreement
import ZkTls.ExtractionOrder
import ZkTls.HandlerProgress
import ZkTls.IssueOrder
import ZkTls.JournalPrivacy
import ZkTls.LeakyPermits
import ZkTls.MessageDecoding
import ZkTls.NotFoundChecks
import ZkTls.NotarizeLogs
import ZkTls.NotaryJournal
import ZkTls.PathNavigation
import ZkTls.PlaintextCensus
import ZkTls.PortalView
import ZkTls.ProofAttribution
import ZkTls.ProofAuthenticity
import ZkTls.Redaction
import ZkTls.RedactionOpenings
import ZkTls.ServiceRestart
import ZkTls.SessionAccounting
import ZkTls.SessionIsolation
import ZkTls.SessionLeaks
import ZkTls.SessionReads
import ZkTls.StoreCapacity
import ZkTls.TemplateLoading
import ZkTls.VerdictHistory
import ZkTls.WireExchange
