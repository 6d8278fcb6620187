import BookTheme.Main
import BookTheme.Rehearsal
import BookTheme.Log.Filter
import BookTheme.Text.Visible
import BookTheme.Proofs.Template.Layout
import BookTheme.Proofs.Template.Twice
import BookTheme.Proofs.Contents.Attempts
import BookTheme.Proofs.Contents.Decoding
import BookTheme.Proofs.Files.Growth
import BookTheme.Proofs.Files.Saving
import BookTheme.Proofs.Update.Stages
import BookTheme.Proofs.Update.Safety
import BookTheme.Proofs.CommandLine.Checking
import BookTheme.Proofs.Files.Above
import BookTheme.Proofs.Decimal.Numerals
import BookTheme.Proofs.CommandLine.Writing
import BookTheme.Proofs.Template.Agreement
import BookTheme.Proofs.Template.Failures
import BookTheme.Proofs.Rehearsal.Blind
import BookTheme.Proofs.Update.Preparation
import BookTheme.Proofs.Update.Checking
import BookTheme.Proofs.Json.Grammar
import BookTheme.Proofs.Json.Texts
import BookTheme.Proofs.Json.Numbers
import BookTheme.Proofs.Json.Values
import BookTheme.Proofs.Json.Readers
import BookTheme.Proofs.Json.Records
import BookTheme.Proofs.Json.Layouts
import BookTheme.Proofs.Settings.Fields
import BookTheme.Proofs.Settings.Overrides
import BookTheme.Proofs.Contents.RoundTrip
import BookTheme.Proofs.Settings.Flags
import BookTheme.Proofs.Rehearsal.Abreast
import BookTheme.Proofs.Update.Revision
import BookTheme.Proofs.Template.Guard
import BookTheme.Proofs.Files.Saves
import BookTheme.Proofs.Settings.Conditions
import BookTheme.Proofs.Settings.Address
import BookTheme.Proofs.Template.Truncation
import BookTheme.Proofs.Contents.Bodies
import BookTheme.Proofs.Contents.Pauses
import BookTheme.Proofs.Template.Blocks
