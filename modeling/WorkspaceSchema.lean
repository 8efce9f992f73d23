import WorkspaceSchema.Main
import WorkspaceSchema.Provision.Store
import WorkspaceSchema.Proofs.Schema
import WorkspaceSchema.Proofs.Token.Cache
import WorkspaceSchema.Proofs.Credentials
import WorkspaceSchema.Proofs.Provision.Store
import WorkspaceSchema.Proofs.Directory.Client
import WorkspaceSchema.Proofs.Run.Requests
import WorkspaceSchema.Proofs.Run.Protocol
import WorkspaceSchema.Proofs.Run.Result
import WorkspaceSchema.Proofs.Run.DryRun
import WorkspaceSchema.Proofs.CommandLine
import WorkspaceSchema.Proofs.Program
import WorkspaceSchema.Proofs.Run.Secrecy
import WorkspaceSchema.Proofs.Http.Redirects
import WorkspaceSchema.Proofs.Provision.Directory
import WorkspaceSchema.Proofs.Provision.Concurrency
import WorkspaceSchema.Proofs.Directory.Authorization
import WorkspaceSchema.Proofs.Token.Assertion
import WorkspaceSchema.Proofs.Directory.Calls
import WorkspaceSchema.Proofs.Token.Refusal
import WorkspaceSchema.Proofs.Directory.Customer
import WorkspaceSchema.Proofs.Token.Expiry
import WorkspaceSchema.Proofs.Token.Loss
import WorkspaceSchema.Proofs.Schema.Listing
import WorkspaceSchema.Proofs.Account.Setup
import WorkspaceSchema.Proofs.Directory.Endpoint
import WorkspaceSchema.Proofs.CommandLine.Options
import WorkspaceSchema.Proofs.Json.Attributes
import WorkspaceSchema.Proofs.Schema.Document
import WorkspaceSchema.Proofs.CommandLine.Sources
import WorkspaceSchema.Proofs.Directory.Insertion
