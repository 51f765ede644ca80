import EvoPlatform.Sync.BatchFailure
import EvoPlatform.Sync.LastWriter
import EvoPlatform.Sync.ProjectReplica
import EvoPlatform.Sync.TaskReplica
import EvoPlatform.Billing.Suspension
import EvoPlatform.Billing.Redelivery
import EvoPlatform.Billing.Ownership
import EvoPlatform.Billing.GraceWindow
import EvoPlatform.Billing.Entitlement
import EvoPlatform.Billing.Absorption
import EvoPlatform.Billing.Customers
import EvoPlatform.Auth.PlatformAdmins
import EvoPlatform.Auth.Rotation
import EvoPlatform.Auth.ParallelCalls
import EvoPlatform.Auth.Reuse
import EvoPlatform.Auth.Purges
import EvoPlatform.Auth.PasskeyCounters
import EvoPlatform.Auth.Gate
import EvoPlatform.Auth.TenantAdmins
import EvoPlatform.Auth.InviteTokens
import EvoPlatform.Auth.Confinement
import EvoPlatform.Auth.ResetLinks
import EvoPlatform.Auth.LoginOptions
import EvoPlatform.Auth.Bindings
import EvoPlatform.Auth.Revocation
import EvoPlatform.Sync.PendingRows
import EvoPlatform.Sync.ResyncSound
import EvoPlatform.Sdk.KeyFreshness
import EvoPlatform.Sdk.OneContract
import EvoPlatform.Auth.PasswordPolicies
import EvoPlatform.Auth.SessionRoles
import EvoPlatform.Audit.Namespaces
import EvoPlatform.Foundation.Tombstones
import EvoPlatform.Foundation.LastPerKey
import EvoPlatform.Sync.Collection
import EvoPlatform.Auth.Erasure
import EvoPlatform.Auth.RecoveryMail
import EvoPlatform.Billing.Catalogue
import EvoPlatform.Billing.Redirects
import EvoPlatform.Sync.Requests
import EvoPlatform.Sync.Retry
import EvoPlatform.Sync.RejectedRows
import EvoPlatform.Sync.Rejections
import EvoPlatform.Sync.Serial
import EvoPlatform.Sync.Stubs
import EvoPlatform.Sync.Coalescing
import EvoPlatform.Revenue.StripeHealth
import EvoPlatform.Email.Quota
import EvoPlatform.Email.ActionLink
import EvoPlatform.Email.Injection
import EvoPlatform.Sdk.Refresh
import EvoPlatform.Sdk.Flood
import EvoPlatform.Revenue.PaymentDates
import EvoPlatform.Revenue.Export
import EvoPlatform.Template.RateLimit
import EvoPlatform.Template.OneTimeTokens
import EvoPlatform.Apps.Brand
import EvoPlatform.AdminUi.RoleDropdowns
import EvoPlatform.StripeCatalogue.Raising
import EvoPlatform.Auth.PaddedWords
import EvoPlatform.Auth.SlugLabels
import EvoPlatform.Cli.Renaming
import EvoPlatform.Cli.EnvReading
import EvoPlatform.Apps.PriceConflicts
import EvoPlatform.Revenue.BillingReadiness
import EvoPlatform.Auth.Retention
import EvoPlatform.Email.RelaysApart
import EvoPlatform.Foundation.Utf8
import EvoPlatform.Template.PasswordHistory
import EvoPlatform.Auth.PasskeyOrigins
import EvoPlatform.Template.Navigation
