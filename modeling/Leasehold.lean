import Leasehold.Time.Rfc3339
import Leasehold.Store.Memory
import Leasehold.Store.Table
import Leasehold.Registry.Draft
import Leasehold.Engine.Lane
import Leasehold.Service
import Leasehold.Supervisor
import Leasehold.Credential.Issuance
import Leasehold.Credential.HolderRequest
import Leasehold.Credential.StatusList
import Leasehold.Hub.Database
import Leasehold.Hub.Run
import Leasehold.Wire.Entity
import Leasehold.Wire.Answer
import Leasehold.Rehearsal.Pretender
import Leasehold.Rehearsal.Scene
import Leasehold.Rehearsal.Stage
import Leasehold.Proofs.Store.Revision
import Leasehold.Proofs.Store.Version
import Leasehold.Proofs.Store.Page
import Leasehold.Proofs.Store.Order
import Leasehold.Proofs.Text.Bytes
import Leasehold.Proofs.Store.Paging
import Leasehold.Proofs.Store.Codec
import Leasehold.Proofs.Store.Agreement
import Leasehold.Proofs.Store.Failure
import Leasehold.Proofs.Store.Answers
import Leasehold.Proofs.Store.Decoding
import Leasehold.Proofs.Entity.Retry
import Leasehold.Proofs.Entity.Backoff
import Leasehold.Proofs.Registry.Build
import Leasehold.Proofs.Registry.Entries
import Leasehold.Proofs.Registry.Checks
import Leasehold.Proofs.Registry.Tables
import Leasehold.Proofs.Fleet.Basic
import Leasehold.Proofs.Fleet.Move
import Leasehold.Proofs.Fleet.Run
import Leasehold.Proofs.Fleet.Flight
import Leasehold.Proofs.Fleet.Claim
import Leasehold.Proofs.Fleet.Publishers
import Leasehold.Proofs.Fleet.Exclusion
import Leasehold.Proofs.Fleet.Update
import Leasehold.Proofs.Fleet.Path
import Leasehold.Proofs.Fleet.Service
import Leasehold.Proofs.Fleet.Record
import Leasehold.Proofs.Fleet.Touch
import Leasehold.Proofs.Fleet.Terminal
import Leasehold.Proofs.Fleet.Outcome
import Leasehold.Proofs.Fleet.Cancellation
import Leasehold.Proofs.Fleet.Selection
import Leasehold.Proofs.Fleet.Caller
import Leasehold.Proofs.Fleet.Pending
import Leasehold.Proofs.Poll.Steady
import Leasehold.Proofs.Poll.Settlement
import Leasehold.Proofs.Poll.Seat
import Leasehold.Proofs.Poll.Sequence
import Leasehold.Proofs.Poll.Cycle
import Leasehold.Proofs.Poll.Handler
import Leasehold.Proofs.Poll.Hosting
import Leasehold.Proofs.Poll.Interleaving
import Leasehold.Proofs.Poll.Account
import Leasehold.Proofs.Poll.Balance
import Leasehold.Proofs.Poll.Headway
import Leasehold.Proofs.Poll.Seating
import Leasehold.Proofs.Poll.Completion
import Leasehold.Proofs.Poll.Concurrency
import Leasehold.Proofs.Poll.Ledger
import Leasehold.Proofs.Poll.Watch
import Leasehold.Proofs.Poll.Course
import Leasehold.Proofs.Poll.Solitary
import Leasehold.Proofs.Poll.Budget
import Leasehold.Proofs.Poll.Blindness
import Leasehold.Proofs.Poll.Isolation
import Leasehold.Proofs.Poll.Passage
import Leasehold.Proofs.Poll.Restart
import Leasehold.Proofs.Poll.Lifecycle
import Leasehold.Proofs.Credential.Artefacts
import Leasehold.Proofs.Poll.Dialogue
import Leasehold.Proofs.Poll.Transcript
import Leasehold.Proofs.Credential.Calls
import Leasehold.Proofs.Credential.Issuing
import Leasehold.Proofs.Credential.Deadline
import Leasehold.Proofs.Supervisor.Fates
import Leasehold.Proofs.Lane.Ending
import Leasehold.Proofs.Credential.Payloads
