import AdapterReport.Main
import AdapterReport.Proofs.Assembler.Lifecycle
import AdapterReport.Proofs.Host.Order
import AdapterReport.Proofs.Json.Record
import AdapterReport.Proofs.Settings.RoundTrip
import AdapterReport.Proofs.Facts.RoundTrip
import AdapterReport.Proofs.Document.Info
import AdapterReport.Proofs.Html.Tokens
import AdapterReport.Proofs.Html.Folding
import AdapterReport.Proofs.Html.Grid
import AdapterReport.Proofs.Table.NoneFound
import AdapterReport.Proofs.Csv.Decoding
import AdapterReport.Proofs.Host.ConfigSpace
import AdapterReport.Proofs.Html.Toggle
import AdapterReport.Proofs.Host.Interfaces
import AdapterReport.Proofs.Facts.Inventory
import AdapterReport.Proofs.Host.DriverInfo
import AdapterReport.Proofs.Host.Memory
import AdapterReport.Proofs.Host.Distribution
import AdapterReport.Proofs.Destination
import AdapterReport.Proofs.Calendar.FileName
import AdapterReport.Proofs.Facts.Summary
import AdapterReport.Proofs.Logging
import AdapterReport.Proofs.Settings.Partial
import AdapterReport.Proofs.Tool.Capture
import AdapterReport.Proofs.Tool.Echo
import AdapterReport.Proofs.Tool.Escape
import AdapterReport.Proofs.Tool.Fields
import AdapterReport.Proofs.Tool.Pattern
import AdapterReport.Proofs.Tool.Arithmetic
import AdapterReport.Proofs.Text.Floating
