import AppMount.Catalogue
import AppMount.Main
import AppMount.Proofs.Absorbing
import AppMount.Proofs.Adapting
import AppMount.Proofs.Adding
import AppMount.Proofs.Agreement
import AppMount.Proofs.Alike
import AppMount.Proofs.ApplicationCalls
import AppMount.Proofs.ApplicationCode
import AppMount.Proofs.BuilderNotes
import AppMount.Proofs.Completeness
import AppMount.Proofs.Computation
import AppMount.Proofs.Constructing
import AppMount.Proofs.Copies
import AppMount.Proofs.Courses
import AppMount.Proofs.Decorating
import AppMount.Proofs.Effects
import AppMount.Proofs.Escaping
import AppMount.Proofs.FailedBuild
import AppMount.Proofs.FailedCalls
import AppMount.Proofs.Frame
import AppMount.Proofs.Freezing
import AppMount.Proofs.Interleaving
import AppMount.Proofs.Listening
import AppMount.Proofs.Logging
import AppMount.Proofs.Mounting
import AppMount.Proofs.Notes
import AppMount.Proofs.Overlooking
import AppMount.Proofs.Rebuilding
import AppMount.Proofs.Reordering
import AppMount.Proofs.Retrying
import AppMount.Proofs.Signatures
import AppMount.Proofs.Silence
import AppMount.Proofs.SilentFreezing
import AppMount.Proofs.Sparing
import AppMount.Proofs.Streams
import AppMount.Proofs.Telling
import AppMount.Proofs.Validation
import AppMount.Proofs.Vouching
import AppMount.Session.Run
