import EntityStore.Unit.Json
import EntityStore.Record
import EntityStore.Executor.Scripted
import EntityStore.Store.Declaration
import EntityStore.Main
import EntityStore.Proofs.Executor.History
import EntityStore.Proofs.Executor.Recovery
import EntityStore.Proofs.Repository.Transaction
import EntityStore.Proofs.Repository.Atomicity
import EntityStore.Proofs.Store.Lasting
import EntityStore.Proofs.Store.Dedicated
import EntityStore.Proofs.Store.Filtering
import EntityStore.Proofs.Mapping
import EntityStore.Proofs.Query.Registration
import EntityStore.Proofs.Query.Grammar
import EntityStore.Proofs.Repository.Reachable
import EntityStore.Proofs.Repository.Queries
import EntityStore.Proofs.Store.Isolation
import EntityStore.Proofs.Repository.Columns
import EntityStore.Proofs.Repository.EntityMap
import EntityStore.Proofs.Store.Keys
import EntityStore.Proofs.Repository.Represents
import EntityStore.Proofs.Repository.Saving
import EntityStore.Proofs.Repository.Refinement
import EntityStore.Proofs.Repository.Decoding
import EntityStore.Proofs.Repository.InUse
import EntityStore.Proofs.Repository.Resaving
import EntityStore.Proofs.Executor.Ownership
import EntityStore.Proofs.Store.Writing
import EntityStore.Proofs.Repository.Requests
import EntityStore.Proofs.Repository.StoredRows
import EntityStore.Proofs.Repository.LostUpdates
import EntityStore.Proofs.Repository.GeneratedKeys
import EntityStore.Proofs.Repository.Interchange
import EntityStore.Proofs.Environment.Places
import EntityStore.Proofs.Environment.Units
import EntityStore.Proofs.Text.Hex
import EntityStore.Proofs.Unit.Address
import EntityStore.Proofs.Json.Reading
import EntityStore.Proofs.Unit.Json
import EntityStore.Proofs.Store.Agreement
import EntityStore.Proofs.Environment.Isolation
import EntityStore.Proofs.Environment.Sharing
import EntityStore.Proofs.Executor.Protocol
import EntityStore.Statement.Reader
import EntityStore.Proofs.Statement.Reading
import EntityStore.Proofs.Statement.Legible
import EntityStore.Proofs.Statement.Parameters
import EntityStore.Proofs.Query.Rendering
import EntityStore.Proofs.Query.Acceptance
import EntityStore.Proofs.Executor.OwnCommits
import EntityStore.Proofs.Store.Creation
import EntityStore.Proofs.Name.Words
import EntityStore.Proofs.Schema.Acceptance
import EntityStore.Proofs.Repository.Registrations
import EntityStore.Proofs.Repository.Preparation
import EntityStore.Proofs.Logging
import EntityStore.Proofs.Environment.Timeouts
import EntityStore.Proofs.Repository.Ledger
import EntityStore.Proofs.Environment.Restart
import EntityStore.Proofs.Demo.Steps
import EntityStore.Proofs.Demo.Tables
import EntityStore.Proofs.Demo.Parts
import EntityStore.Proofs.Demo.Runs
