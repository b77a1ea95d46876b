import CueFront.Host.Workspace
import CueFront.Locale
import CueFront.Main
import CueFront.Program
import CueFront.SessionTag
import CueFront.Proofs.Diagnostics.PositionPattern
import CueFront.Proofs.Diagnostics.RoundTrip
import CueFront.Proofs.Run.Outcome
import CueFront.Proofs.Run.Ending
import CueFront.Proofs.Run.Flood
import CueFront.Proofs.Run.Launch
import CueFront.Proofs.Run.Descriptors
import CueFront.Proofs.Run.Pipes
import CueFront.Proofs.Run.Capture
import CueFront.Proofs.Run.Muted
import CueFront.Proofs.Run.Input
import CueFront.Proofs.Run.Reaped
import CueFront.Proofs.Program
import CueFront.Proofs.Request.Spelling
import CueFront.Proofs.Service.Results
import CueFront.Proofs.Service.Errors
import CueFront.Proofs.Host.Turns
import CueFront.Proofs.Diagnostics.Places
import CueFront.Proofs.Request.Order
import CueFront.Proofs.Locale
import CueFront.Proofs.Diagnostics.Blocks
import CueFront.Proofs.Diagnostics.Concatenation
import CueFront.Proofs.Run.Deadline
import CueFront.Proofs.Diagnostics.Insertion
import CueFront.Proofs.Diagnostics.PrintedPaths
import CueFront.Proofs.Diagnostics.LineEnds
import CueFront.Proofs.Diagnostics.Report
import CueFront.Proofs.Diagnostics.Layout
import CueFront.Proofs.Diagnostics.Partition
import CueFront.Proofs.Request.Timeout
