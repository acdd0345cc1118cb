import WordStrip.Main
import WordStrip.Proofs.AutoCorrection
import WordStrip.Proofs.Commitment
import WordStrip.Proofs.Distinct
import WordStrip.Proofs.Failure
import WordStrip.Proofs.Gesture
import WordStrip.Proofs.Provenance
import WordStrip.Proofs.Replacement
import WordStrip.Proofs.Shape
import WordStrip.Proofs.Typing
import WordStrip.Proofs.Verbatim
import WordStrip.Proofs.Annotation
import WordStrip.Proofs.Idempotence
import WordStrip.Proofs.Number.Order
import WordStrip.Proofs.Permission
import WordStrip.Proofs.TrailingApostrophes
import WordStrip.Proofs.History
import WordStrip.Proofs.Blocks
import WordStrip.Proofs.Confinement
import WordStrip.Proofs.Undeclared
import WordStrip.Proofs.Extension
import WordStrip.Proofs.Observation
import WordStrip.Proofs.Fault
import WordStrip.Proofs.Settings
import WordStrip.Proofs.Alignment
import WordStrip.Proofs.EditDistance
import WordStrip.Proofs.Suppression
import WordStrip.Proofs.Repair
import WordStrip.Proofs.Text.Letter
import WordStrip.Proofs.Capitalization
import WordStrip.Proofs.Score
import WordStrip.Proofs.SpaceLimit
import WordStrip.Proofs.Text.Quoted
import WordStrip.Proofs.Trace
import WordStrip.Proofs.Text.Blank
import WordStrip.Proofs.Text.Uncased
import WordStrip.Proofs.Locale
import WordStrip.Proofs.CandidateFields
