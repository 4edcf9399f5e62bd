import SecretServer.Text.Utf16
import SecretServer.Text.Utf8
import SecretServer.Text.Base64
import SecretServer.Concurrency.Interleaving
import SecretServer.Data.Table
import SecretServer.Concurrency.Linearization
import SecretServer.Core.Basic
import SecretServer.Database.Entities
import SecretServer.DataLayer.Repositories
import SecretServer.Data.Buffer
import SecretServer.Services.Encryption
import SecretServer.Services.Envelope
import SecretServer.Services.Validators
import SecretServer.Services.SecretService
import SecretServer.Services.ServiceCalls
import SecretServer.Services.SealedSecrets
import SecretServer.Api.Middleware
import SecretServer.Services.Serializability
import SecretServer.Services.Disclosure
import SecretServer.Services.Guards
import SecretServer.Services.Expiry
import SecretServer.Data.RelatedTables
import SecretServer.Services.Vault
import SecretServer.Services.Noninterference
import SecretServer.Services.ExecutorService
import SecretServer.Services.Provisioning
import SecretServer.Services.ProvisioningRaces
import SecretServer.Schema.Relational
import SecretServer.Schema.Rules
import SecretServer.Migrations.Chain
import SecretServer.Migrations.StoredSecrets
import SecretServer.Api.Controllers
import SecretServer.Data.Since
import SecretServer.Api.Attribution
import SecretServer.Api.Listings
import SecretServer.Services.Authenticity
import SecretServer.Data.HmacKey
import SecretServer.Services.Passphrases
import SecretServer.Api.CreationTimes
import SecretServer.Data.Writes
import SecretServer.Database.Stamping
import SecretServer.Database.ChangeTracker
import SecretServer.Database.Commands
import SecretServer.Database.AuditTimes
import SecretServer.Concurrency.AtomicObject
import SecretServer.Api.SharedVault
import SecretServer.Api.ConcurrentRequests
import SecretServer.Migrations.EntityRows
import SecretServer.Migrations.SavedChanges
import SecretServer.Migrations.EntityStages
import SecretServer.DataLayer.MigratedTables
import SecretServer.Migrations.TargetModels
import SecretServer.Api.ExpiredSecrets
import SecretServer.Services.RevealedTexts
import SecretServer.Concurrency.Lockstep
import SecretServer.Api.IndistinguishableRuns
import SecretServer.Api.Delivery
