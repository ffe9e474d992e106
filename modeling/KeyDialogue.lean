import KeyDialogue.Answer
import KeyDialogue.Backend.Child
import KeyDialogue.Backend.Exchange
import KeyDialogue.Backend.Wire
import KeyDialogue.Calendar.Date
import KeyDialogue.Calendar.Iso
import KeyDialogue.CommandLine.Command
import KeyDialogue.CommandLine.Dialog
import KeyDialogue.CommandLine.Grammar
import KeyDialogue.CommandLine.Run
import KeyDialogue.CommandLine.Value
import KeyDialogue.Edit
import KeyDialogue.Edit.Deletion
import KeyDialogue.Edit.Expiry
import KeyDialogue.Edit.Menu
import KeyDialogue.Edit.PassphraseChange
import KeyDialogue.Edit.Revocation
import KeyDialogue.Edit.Signing
import KeyDialogue.Edit.SubkeyAddition
import KeyDialogue.Edit.Trusting
import KeyDialogue.Editor
import KeyDialogue.Main
import KeyDialogue.Note
import KeyDialogue.Passphrase.Announcement
import KeyDialogue.Passphrase.Custody
import KeyDialogue.Passphrase.Record
import KeyDialogue.Proofs.Consultation
import KeyDialogue.Proofs.Edits
import KeyDialogue.Proofs.History
import KeyDialogue.Proofs.Product
import KeyDialogue.Proofs.Progress
import KeyDialogue.Proofs.Refusal
import KeyDialogue.Proofs.Run
import KeyDialogue.Proofs.Script
import KeyDialogue.Proofs.Turn
import KeyDialogue.Session
import KeyDialogue.Status.Event
import KeyDialogue.Status.Line
import KeyDialogue.Status.Question
import KeyDialogue.Text.Blank
import KeyDialogue.Text.Graphic
import KeyDialogue.Text.Numeral
import KeyDialogue.Text.Pieces
import KeyDialogue.Text.Quoted
import KeyDialogue.Text.Utf8
import KeyDialogue.Proofs.Pipes
import KeyDialogue.Proofs.SingleLine
import KeyDialogue.Proofs.Secrecy
import KeyDialogue.Proofs.Announcement
import KeyDialogue.Proofs.Slots
import KeyDialogue.Proofs.Explanation
import KeyDialogue.Proofs.Cancellation
import KeyDialogue.Proofs.Decoding
import KeyDialogue.Proofs.Transmission
import KeyDialogue.Proofs.Replay
import KeyDialogue.Proofs.Foreign
import KeyDialogue.Proofs.Validity
import KeyDialogue.Proofs.Algorithm
import KeyDialogue.Proofs.Selection
import KeyDialogue.Proofs.Preparation
import KeyDialogue.Proofs.Capabilities
import KeyDialogue.Proofs.GivingUp
import KeyDialogue.Proofs.Reading
import KeyDialogue.Proofs.Walk
import KeyDialogue.Proofs.Calendar
import KeyDialogue.Proofs.DateText
import KeyDialogue.Proofs.ReasonText
import KeyDialogue.Proofs.Requests
import KeyDialogue.Proofs.Confirmation
import KeyDialogue.Proofs.Replacement
