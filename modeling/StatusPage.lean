import StatusPage.Account
import StatusPage.Account.Email
import StatusPage.Application
import StatusPage.Auth.Keyring
import StatusPage.Auth.Password
import StatusPage.Auth.Service
import StatusPage.Config
import StatusPage.Crypto.Argon2
import StatusPage.Crypto.Blake2b
import StatusPage.Crypto.Crc32
import StatusPage.Crypto.Sha256
import StatusPage.Crypto.Sha384
import StatusPage.Database.Account
import StatusPage.Database.Error
import StatusPage.Database.Event
import StatusPage.Database.Exchange
import StatusPage.Database.Migration
import StatusPage.Database.Row
import StatusPage.Database.Schema
import StatusPage.Database.Script
import StatusPage.Database.Statement
import StatusPage.Database.Store
import StatusPage.Database.Subscriber
import StatusPage.Database.Template
import StatusPage.Database.Value
import StatusPage.Event.Basic
import StatusPage.Event.Rules
import StatusPage.Event.Service
import StatusPage.Form.Account
import StatusPage.Form.Arguments
import StatusPage.Form.Config
import StatusPage.Form.Database
import StatusPage.Form.Event
import StatusPage.Form.Notification
import StatusPage.Form.Scalar
import StatusPage.Form.Store
import StatusPage.Form.Subscriber
import StatusPage.Form.Template
import StatusPage.Http.Failure
import StatusPage.Http.Handler
import StatusPage.Http.MediaType
import StatusPage.Http.Message
import StatusPage.Http.Route
import StatusPage.Http.Server
import StatusPage.Http.Target
import StatusPage.Json.Basic
import StatusPage.Json.Parser
import StatusPage.Json.Printer
import StatusPage.Json.Reader
import StatusPage.Json.Record
import StatusPage.Json.Token
import StatusPage.Named
import StatusPage.Notification.Dispatch
import StatusPage.Notification.Mailbox
import StatusPage.Notification.Telegram
import StatusPage.Paging
import StatusPage.Program
import StatusPage.Request
import StatusPage.Role
import StatusPage.Store.Call
import StatusPage.Store.Memory
import StatusPage.Subscriber
import StatusPage.Subscriptions
import StatusPage.Template.Field
import StatusPage.Template.Parser
import StatusPage.Template.Render
import StatusPage.Text.Base64
import StatusPage.Text.Blank
import StatusPage.Text.Composition
import StatusPage.Text.Direction
import StatusPage.Text.Domain
import StatusPage.Text.Domain.Disallowed
import StatusPage.Text.Domain.Mapping
import StatusPage.Text.Hex
import StatusPage.Text.Joiner
import StatusPage.Text.Lowercase
import StatusPage.Text.Mark
import StatusPage.Text.Numeral
import StatusPage.Text.Printable
import StatusPage.Text.Punycode
import StatusPage.Text.Quoted
import StatusPage.Text.Ranges
import StatusPage.Text.Utf8
import StatusPage.Time.Calendar
import StatusPage.Time.Instant
import StatusPage.Time.Rfc3339
import StatusPage.Uuid
import StatusPage.Proofs.Interleaving
import StatusPage.Proofs.Services
import StatusPage.Proofs.StoreFrame
import StatusPage.Proofs.EventHistory
import StatusPage.Proofs.RefreshTokens
import StatusPage.Proofs.TemplateGrammar
import StatusPage.Proofs.SoloRuns
import StatusPage.Proofs.Authority
import StatusPage.Proofs.StoreIntegrity
import StatusPage.Proofs.StatusLegality
import StatusPage.Proofs.StoredTemplates
import StatusPage.Proofs.Transactions
import StatusPage.Proofs.EndedSessions
import StatusPage.Proofs.AccountPrograms
import StatusPage.Proofs.AccessTokens
import StatusPage.Proofs.Logins
import StatusPage.Proofs.Refusals
import StatusPage.Proofs.RetiredKeys
import StatusPage.Proofs.FailedRequests
import StatusPage.Proofs.HiddenFailures
import StatusPage.Proofs.IssuedTokens
import StatusPage.Proofs.Privileges
import StatusPage.Proofs.FanOut
import StatusPage.Proofs.StatementTexts
import StatusPage.Proofs.FaultyStore
import StatusPage.Proofs.SweptRuns
import StatusPage.Proofs.TemplateComposition
import StatusPage.Proofs.TemplateFlaws
import StatusPage.Proofs.ResolutionTimes
import StatusPage.Proofs.ErrorShapes
import StatusPage.Proofs.MissingValues
import StatusPage.Proofs.EventListing
import StatusPage.Proofs.SubscriberSelection
import StatusPage.Proofs.KeyRotation
import StatusPage.Proofs.FirstFailure
import StatusPage.Proofs.InsertedRows
import StatusPage.Proofs.StartedNotices
import StatusPage.Proofs.WrittenInstants
import StatusPage.Proofs.RecordMembers
import StatusPage.Proofs.JsonForms
import StatusPage.Proofs.EventCreation
import StatusPage.Proofs.MissingReferences
import StatusPage.Proofs.SubscriptionHistory
import StatusPage.Proofs.TemplateHistory
import StatusPage.Proofs.PreviousKeys
import StatusPage.Proofs.ConfiguredNumbers
import StatusPage.Proofs.Lookups
import StatusPage.Proofs.PasswordTexts
import StatusPage.Proofs.FailedLogins
import StatusPage.Proofs.SubscriberGroups
import StatusPage.Proofs.TemplateScan
import StatusPage.Proofs.TokenLifetimes
