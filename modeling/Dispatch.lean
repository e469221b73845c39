import Dispatch.Aws.Setup
import Dispatch.Http
import Dispatch.Json.Reader
import Dispatch.Log.Desk
import Dispatch.Outbox.Perform
import Dispatch.Proofs.Outbox.Order
import Dispatch.Proofs.Sqs.Resending
import Dispatch.Sqs.Carrier
import Dispatch.Proofs.Outbox.Nesting
import Dispatch.Proofs.Outbox.Load
import Dispatch.Proofs.Outbox.Closing
import Dispatch.Proofs.Outbox.Flushing
import Dispatch.Proofs.Sqs.Matching
import Dispatch.Proofs.Outbox.Capacity
import Dispatch.Proofs.Outbox.Batches
import Dispatch.Proofs.Sqs.Fitting
import Dispatch.Proofs.Outbox.Course
import Dispatch.Proofs.Outbox.Performing
import Dispatch.Proofs.Outbox.Separation
import Dispatch.Proofs.Text.ByteOrder
import Dispatch.Proofs.Outbox.Purposes
import Dispatch.Proofs.Outbox.Sweeping
import Dispatch.Proofs.Outbox.Sending
import Dispatch.Proofs.Envelope.Packing
import Dispatch.Proofs.Sqs.Validation
import Dispatch.Proofs.Log.Provenance
import Dispatch.Proofs.Outbox.Accounting
import Dispatch.Proofs.Outbox.Stuck
import Dispatch.Proofs.Sqs.Book
import Dispatch.Proofs.Sqs.Addresses
import Dispatch.Proofs.Sqs.Misfits
import Dispatch.Proofs.Settings.Latest
import Dispatch.Proofs.Carrier.Sharing
