import Chancela.Api.ActTimeline
import Chancela.Api.ClusterDelta
import Chancela.Api.ClusterFeed
import Chancela.Api.CollectionWalk
import Chancela.Api.Conservation
import Chancela.Api.FirstOwner
import Chancela.Api.LedgerPages
import Chancela.Api.MetaVerbs
import Chancela.Api.PageAccounting
import Chancela.Api.UserCreation
import Chancela.Api.VerifyMemo
import Chancela.ApiKey.Attenuation
import Chancela.ApiKey.RateLimit
import Chancela.Authz.Coverage
import Chancela.Connector.Jobs
import Chancela.Connector.Restart
import Chancela.Core.Atomic
import Chancela.Core.Binding
import Chancela.Core.External
import Chancela.Core.Freeze
import Chancela.Core.Pages
import Chancela.Core.ProfileCalendar
import Chancela.Core.Registry
import Chancela.Core.TermoFloor
import Chancela.Crates.Reference
import Chancela.Foundation.Cascade
import Chancela.Foundation.Coverage
import Chancela.Foundation.Neighbours
import Chancela.Foundation.Regroup
import Chancela.Foundation.TokenBucket
import Chancela.Foundation.Wording
import Chancela.Groups.Concurrency
import Chancela.Layout.Drawing
import Chancela.Layout.Furniture
import Chancela.Layout.Policy
import Chancela.Layout.Resolution
import Chancela.Ledger.Agreement
import Chancela.Ledger.Append
import Chancela.Ledger.Commitment
import Chancela.Ledger.Membership
import Chancela.Ledger.Reanchor
import Chancela.Ledger.ReanchorPrefix
import Chancela.Ledger.Report
import Chancela.Pades.ByteRange
import Chancela.Pades.Coverage
import Chancela.Pades.Ltv
import Chancela.Pades.ObjectRoundTrip
import Chancela.Pades.SignedFile
import Chancela.Pades.XrefAudit
import Chancela.Rules.Attendance
import Chancela.Rules.Exactness
import Chancela.Rules.Packs
import Chancela.Rules.Statute
import Chancela.Search.Chronology
import Chancela.Search.Scan
import Chancela.Session.Base32
import Chancela.Session.ClusterRevocation
import Chancela.Session.DurableRevocation
import Chancela.Session.Enrolment
import Chancela.Session.GuessBound
import Chancela.Session.Lifetime
import Chancela.Session.SingleUse
import Chancela.Store.Backup
import Chancela.Store.BundleRoundTrip
import Chancela.Store.ImportAccount
import Chancela.Store.Projection
import Chancela.Store.Reconcile
import Chancela.Store.RestorePreflight
import Chancela.Store.RestoreSwap
import Chancela.Store.SingleWriter
import Chancela.Templates.Markdown
import Chancela.Templates.NumeralReading
import Chancela.Templates.Numerals
import Chancela.Token.History
import Chancela.Users.KeyCustody
import Chancela.Users.Migration
import Chancela.Users.Refusal
import Chancela.Users.Rows
import Chancela.Xades.Embedding
import Chancela.Xades.SameInformation
import Chancela.Xades.SignedFacts
import Chancela.Zk.Nonces
