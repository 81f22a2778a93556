import NativeProps.Config.Session
import NativeProps.Main
import NativeProps.Schema.Encoding
import NativeProps.Proofs.Schema.Reading
import NativeProps.Proofs.Schema.Grammar
import NativeProps.Proofs.Schema.Offence
import NativeProps.Proofs.Schema.RoundTrip
import NativeProps.Proofs.Schema.Defect
import NativeProps.Proofs.Declaration.Dispatch
import NativeProps.Proofs.Declaration.Summarized
import NativeProps.Proofs.Files.Opened
import NativeProps.Proofs.Files.Written
import NativeProps.Proofs.Files.Kept
import NativeProps.Proofs.Config.Precedence
import NativeProps.Proofs.Config.Reload
import NativeProps.Proofs.Config.Sessions
import NativeProps.Proofs.Declaration.Agreement
import NativeProps.Proofs.Declaration.Influence
import NativeProps.Proofs.Declaration.Visible
import NativeProps.Proofs.Declaration.Fragments
import NativeProps.Proofs.Declaration.Collisions
import NativeProps.Proofs.Number.Literals
import NativeProps.Proofs.Number.Nearest
import NativeProps.Proofs.Number.Whole
import NativeProps.Proofs.CommandLine.Stages
import NativeProps.Proofs.Declaration.Undescribed
import NativeProps.Proofs.Declaration.Describable
import NativeProps.Proofs.Declaration.Numeric
import NativeProps.Proofs.CommandLine.Escapes
import NativeProps.Proofs.Log.Announced
import NativeProps.Proofs.Declaration.Enumerators
import NativeProps.Proofs.Text.UpperCase
import NativeProps.Proofs.Declaration.Idempotence
import NativeProps.Proofs.Log.Setups
