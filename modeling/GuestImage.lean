import GuestImage.Json.Reader
import GuestImage.Main
import GuestImage.Recipe.Grammar
import GuestImage.Recipe.Printer
import GuestImage.Proofs.Recipe.Line
import GuestImage.Proofs.Recipe.Reading
import GuestImage.Proofs.Recipe.Acceptance
import GuestImage.Proofs.Recipe.LineBreak
import GuestImage.Proofs.Recipe.Fault
import GuestImage.Proofs.Recipe.CarriageReturn
import GuestImage.Proofs.Recipe.Invariant
import GuestImage.Proofs.Recipe.RoundTrip
import GuestImage.Proofs.Recipe.Echo
import GuestImage.Proofs.StepKey.Message
import GuestImage.Proofs.StepKey.History
import GuestImage.Proofs.Build.Answers
import GuestImage.Proofs.Build.Asks
import GuestImage.Proofs.Build.Prediction
import GuestImage.Proofs.Build.Meaning
import GuestImage.Proofs.Build.Simulation
import GuestImage.Proofs.Build.Turn
import GuestImage.Proofs.Build.Sharing
import GuestImage.Proofs.CommandLine.DryRun
import GuestImage.Proofs.Build.Steps
import GuestImage.Proofs.CommandLine.Agreement
import GuestImage.Proofs.CommandLine.Flags
import GuestImage.Proofs.Text.Units
import GuestImage.Proofs.Command.Fingerprint
import GuestImage.Proofs.Build.Workdir
import GuestImage.Proofs.Build.Directory
import GuestImage.Proofs.BaseImage
import GuestImage.Proofs.NameTable
import GuestImage.Proofs.Settings.StepCache
import GuestImage.Proofs.Text.Excerpt
import GuestImage.Proofs.CommandLine.Listing
import GuestImage.Proofs.Settings.Entry
import GuestImage.Proofs.Settings.Override
import GuestImage.Proofs.Recipe.Progress
