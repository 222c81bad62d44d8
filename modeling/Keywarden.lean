import Keywarden.Action
import Keywarden.Audit.Database
import Keywarden.Audit.Ledger
import Keywarden.Audit.Record
import Keywarden.Audit.Store
import Keywarden.Bytes
import Keywarden.Calendar
import Keywarden.Cipher.Aes256
import Keywarden.Cipher.Curve25519
import Keywarden.Cipher.Gcm
import Keywarden.Cipher.Salsa20
import Keywarden.Cipher.SecretBox
import Keywarden.Command.Line
import Keywarden.Command.Listing
import Keywarden.Command.Machine
import Keywarden.Command.Run
import Keywarden.Decimal.Binary64
import Keywarden.Decimal.Shortest
import Keywarden.Disk.Path
import Keywarden.Disk.Tree
import Keywarden.Disk.Volume
import Keywarden.Encoding.Base64
import Keywarden.Encoding.Hex
import Keywarden.Entropy
import Keywarden.Factor
import Keywarden.Failure
import Keywarden.Hash.Argon2Block
import Keywarden.Hash.Argon2id
import Keywarden.Hash.Blake2b
import Keywarden.Hash.Row
import Keywarden.Hash.Sha256
import Keywarden.Identity
import Keywarden.Identity.Store
import Keywarden.InfoFile
import Keywarden.InfoFile.Reading
import Keywarden.InfoFile.Store
import Keywarden.InfoFile.Writing
import Keywarden.Instant
import Keywarden.Json.Document
import Keywarden.Json.Mismatch
import Keywarden.Json.Number
import Keywarden.Json.Printer
import Keywarden.Json.Reader
import Keywarden.Json.Shape
import Keywarden.Json.Syntax
import Keywarden.Json.Tagged
import Keywarden.Json.Text
import Keywarden.Key.Derivation
import Keywarden.Key.Material
import Keywarden.Key.Wrap
import Keywarden.Main
import Keywarden.Notifier
import Keywarden.Primitives
import Keywarden.Primitives.Standard
import Keywarden.Prompt
import Keywarden.Proofs.Action
import Keywarden.Proofs.Action.Inherited
import Keywarden.Proofs.Action.Keeps
import Keywarden.Proofs.Audit.AppendOnly
import Keywarden.Proofs.Audit.Ledger
import Keywarden.Proofs.Audit.Passive
import Keywarden.Proofs.Audit.Store
import Keywarden.Proofs.Command.Addition
import Keywarden.Proofs.Command.Agreement
import Keywarden.Proofs.Command.Coupled
import Keywarden.Proofs.Command.Effect
import Keywarden.Proofs.Command.Keeps
import Keywarden.Proofs.Command.Line
import Keywarden.Proofs.Command.Machine
import Keywarden.Proofs.Command.Passive
import Keywarden.Proofs.Command.Record
import Keywarden.Proofs.Command.Refusal
import Keywarden.Proofs.Command.Session
import Keywarden.Proofs.Command.Trail
import Keywarden.Proofs.Credentials
import Keywarden.Proofs.Credentials.Histories
import Keywarden.Proofs.Disk
import Keywarden.Proofs.Disk.Beside
import Keywarden.Proofs.Disk.Direct
import Keywarden.Proofs.Disk.Grown
import Keywarden.Proofs.Disk.Lead
import Keywarden.Proofs.Disk.Named
import Keywarden.Proofs.Disk.Within
import Keywarden.Proofs.Edit
import Keywarden.Proofs.Encoding.Base64
import Keywarden.Proofs.Encoding.Hex
import Keywarden.Proofs.Exchange
import Keywarden.Proofs.History
import Keywarden.Proofs.Identity.Loading
import Keywarden.Proofs.Identity.SealedBox
import Keywarden.Proofs.Identity.Store
import Keywarden.Proofs.InfoFile.Entry
import Keywarden.Proofs.InfoFile.Fields
import Keywarden.Proofs.InfoFile.Interruption
import Keywarden.Proofs.InfoFile.Rearranged
import Keywarden.Proofs.InfoFile.RoundTrip
import Keywarden.Proofs.InfoFile.Shapes
import Keywarden.Proofs.InfoFile.Store
import Keywarden.Proofs.Json.Document
import Keywarden.Proofs.Json.Grammar
import Keywarden.Proofs.Json.Number
import Keywarden.Proofs.Json.Record
import Keywarden.Proofs.Json.Tagged
import Keywarden.Proofs.Json.Text
import Keywarden.Proofs.Json.Token
import Keywarden.Proofs.Key.Coinciding
import Keywarden.Proofs.Key.Wrap
import Keywarden.Proofs.MasterKey
import Keywarden.Proofs.Primitives.Standard
import Keywarden.Proofs.Recipient
import Keywarden.Proofs.Recipient.Reading
import Keywarden.Proofs.Repository
import Keywarden.Proofs.Repository.Derivable
import Keywarden.Proofs.Repository.Failures
import Keywarden.Proofs.Repository.Forward
import Keywarden.Proofs.Repository.Frame
import Keywarden.Proofs.Repository.Inherited
import Keywarden.Proofs.Repository.Keeps
import Keywarden.Proofs.Repository.Migration
import Keywarden.Proofs.Repository.NewPassphrase
import Keywarden.Proofs.Repository.NewRecipient
import Keywarden.Proofs.Repository.Randomness
import Keywarden.Proofs.Repository.Recipients
import Keywarden.Proofs.Repository.Removal
import Keywarden.Proofs.Sandbox.Dispatch
import Keywarden.Proofs.Sandbox.Loop
import Keywarden.Proofs.Transparent
import Keywarden.Proofs.UnlockService
import Keywarden.Proofs.Unlocking
import Keywarden.Proofs.Unlocking.Damage
import Keywarden.Proofs.Unlocking.Functional
import Keywarden.Proofs.Unlocking.Policy
import Keywarden.Proofs.Unlocking.Refusal
import Keywarden.Proofs.WellFormed
import Keywarden.Recipient
import Keywarden.Repository
import Keywarden.Sandbox
import Keywarden.Sandbox.Loop
import Keywarden.Sandbox.Shelf
import Keywarden.Settings
import Keywarden.Terminal
import Keywarden.Text.Blank
import Keywarden.Text.Quoted
import Keywarden.Text.Repaired
import Keywarden.Text.Table
import Keywarden.Text.Unprintable
import Keywarden.Text.Width
import Keywarden.Text.WidthClass
import Keywarden.Toml.Reader
import Keywarden.Toml.Scalar
import Keywarden.Toml.Syntax
import Keywarden.Toml.Table
import Keywarden.Toml.Text
import Keywarden.UnlockService
import Keywarden.Unlocking
