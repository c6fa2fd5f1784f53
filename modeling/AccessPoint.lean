import AccessPoint.Address.Ipv4
import AccessPoint.Address.Ipv6
import AccessPoint.Address.Zeros.Basic
import AccessPoint.Address.Zeros.Plain
import AccessPoint.Config.Basic
import AccessPoint.Config.Toml
import AccessPoint.Error
import AccessPoint.File
import AccessPoint.Json.Printer
import AccessPoint.Json.Reader
import AccessPoint.Json.Value
import AccessPoint.Log.Config
import AccessPoint.Log.Console
import AccessPoint.Log.Entry
import AccessPoint.Log.Level
import AccessPoint.Lookup
import AccessPoint.Network.Basic
import AccessPoint.Network.Json
import AccessPoint.Proofs.Address.Ipv6
import AccessPoint.Proofs.Address.Padded
import AccessPoint.Proofs.Address.Quad
import AccessPoint.Proofs.Address.Zeros.Canonical
import AccessPoint.Proofs.Address.Zeros.Commute
import AccessPoint.Proofs.Address.Zeros.Dropped
import AccessPoint.Proofs.Address.Zeros.Guarded
import AccessPoint.Proofs.Address.Zeros.Plain
import AccessPoint.Proofs.Address.Zeros.Scan
import AccessPoint.Proofs.Config
import AccessPoint.Proofs.Config.Usable
import AccessPoint.Proofs.Json.Filling
import AccessPoint.Proofs.Json.RoundTrip
import AccessPoint.Proofs.Lists
import AccessPoint.Proofs.Log.Console
import AccessPoint.Proofs.Log.Level
import AccessPoint.Proofs.Lookup.Absent
import AccessPoint.Proofs.Lookup.Columns
import AccessPoint.Proofs.Lookup.Growth
import AccessPoint.Proofs.Lookup.Names
import AccessPoint.Proofs.Lookup.Subscription
import AccessPoint.Proofs.Network
import AccessPoint.Proofs.Record
import AccessPoint.Proofs.Record.Store
import AccessPoint.Proofs.Record.Tables
import AccessPoint.Proofs.Selection
import AccessPoint.Proofs.Selection.Alike
import AccessPoint.Proofs.Selection.Port
import AccessPoint.Proofs.Selection.Single
import AccessPoint.Proofs.Selection.Trace
import AccessPoint.Proofs.Settings
import AccessPoint.Proofs.Table
import AccessPoint.Proofs.Table.Document
import AccessPoint.Proofs.Text.Blank
import AccessPoint.Proofs.Text.Boundary
import AccessPoint.Proofs.Text.Numeral
import AccessPoint.Proofs.Text.Utf8
import AccessPoint.Proofs.Types
import AccessPoint.Proofs.Types.Sets
import AccessPoint.Proofs.Uri.Authority
import AccessPoint.Proofs.Uri.Characters
import AccessPoint.Proofs.Uri.Components
import AccessPoint.Proofs.Uri.Escapes
import AccessPoint.Proofs.Uri.Failure
import AccessPoint.Proofs.Uri.Language
import AccessPoint.Proofs.Uri.Longest
import AccessPoint.Proofs.Uri.Padding
import AccessPoint.Proofs.Uri.Prefix
import AccessPoint.Proofs.Uri.Rounds
import AccessPoint.Recogniser
import AccessPoint.Record.Basic
import AccessPoint.Record.Column
import AccessPoint.Record.Description
import AccessPoint.Record.Json
import AccessPoint.Record.Types
import AccessPoint.Selection
import AccessPoint.Settings
import AccessPoint.Table.Basic
import AccessPoint.Table.Toml
import AccessPoint.Text.Ascii
import AccessPoint.Text.Blank
import AccessPoint.Text.Hex
import AccessPoint.Text.Hidden
import AccessPoint.Text.Numeral
import AccessPoint.Text.Quoted
import AccessPoint.Text.Reader
import AccessPoint.Text.Utf8
import AccessPoint.Toml.Gap
import AccessPoint.Toml.Moment
import AccessPoint.Toml.Node
import AccessPoint.Toml.Number
import AccessPoint.Toml.Reader
import AccessPoint.Toml.Text
import AccessPoint.Toml.Value
import AccessPoint.Uri.Authority
import AccessPoint.Uri.Byte
import AccessPoint.Uri.Grammar
import AccessPoint.Uri.Path
import AccessPoint.Uri.Reference
import AccessPoint.Uri.Run
