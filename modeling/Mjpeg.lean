import Mjpeg.Body
import Mjpeg.Main
import Mjpeg.Proofs.Occurrence
import Mjpeg.Proofs.Searching
import Mjpeg.Proofs.Decoding
import Mjpeg.Proofs.Moves
import Mjpeg.Proofs.Parts
import Mjpeg.Proofs.Reading
import Mjpeg.Proofs.RoundTrip
import Mjpeg.Proofs.Publishing
import Mjpeg.Proofs.Running
import Mjpeg.Proofs.LifeCycle
import Mjpeg.Proofs.Timing
import Mjpeg.Proofs.Shutdown
import Mjpeg.Proofs.Announcement
import Mjpeg.Proofs.Declaration
import Mjpeg.Proofs.Limit
import Mjpeg.Proofs.Files
import Mjpeg.Proofs.Capture
import Mjpeg.Proofs.Extraction
import Mjpeg.Proofs.Pipeline
import Mjpeg.Proofs.Agreement
import Mjpeg.Proofs.Headers
import Mjpeg.Proofs.Reemission
import Mjpeg.Proofs.Delivery
import Mjpeg.Proofs.Writing
import Mjpeg.Proofs.Capacity
import Mjpeg.Proofs.Overflow
import Mjpeg.Proofs.Waiting
import Mjpeg.Proofs.Subscriptions
import Mjpeg.Proofs.Observation
import Mjpeg.Proofs.Splitting
import Mjpeg.Proofs.Cursor
import Mjpeg.Proofs.Hosts
import Mjpeg.Proofs.Quoting
import Mjpeg.Proofs.Masking
import Mjpeg.Proofs.Resumption
import Mjpeg.Proofs.Durations
import Mjpeg.Proofs.Counting
import Mjpeg.Proofs.Numbering
