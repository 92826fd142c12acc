import DoipWire.BigEndian
import DoipWire.SerialHost.Ports
import DoipWire.SerialHost.Device
import DoipWire.SerialHost.Library
import DoipWire.Cli.Options
import DoipWire.Cli.Run
import DoipWire.Cli.Serial
import DoipWire.Code
import DoipWire.Error
import DoipWire.Header
import DoipWire.Kind
import DoipWire.Log
import DoipWire.Main
import DoipWire.Message.Basic
import DoipWire.Message.Borrowed
import DoipWire.Message.Codes
import DoipWire.Message.Decode
import DoipWire.Message.Encode
import DoipWire.Message.Fields
import DoipWire.Message.Validate
import DoipWire.PayloadType
import DoipWire.SerialHost.Regex.Check
import DoipWire.SerialHost.Regex.Error
import DoipWire.SerialHost.Regex.Scanner
import DoipWire.Session
import DoipWire.Sink
import DoipWire.Source
import DoipWire.Stream
import DoipWire.Tester
import DoipWire.SerialHost.Regex.Alphabetic
import DoipWire.Text.Blank
import DoipWire.SerialHost.Regex.CharName
import DoipWire.Text.Decimal
import DoipWire.Text.DecimalDigit
import DoipWire.Text.Glyph
import DoipWire.Text.Hex
import DoipWire.Text.HexLiteral
import DoipWire.SerialHost.Regex.Identifier
import DoipWire.SerialHost.Lowercase
import DoipWire.Text.Numeral
import DoipWire.Text.Printable
import DoipWire.SerialHost.Query
import DoipWire.Text.Quoted
import DoipWire.SerialHost.Utf8
import DoipWire.SerialHost.Url.Basic
import DoipWire.SerialHost.Url.Host
import DoipWire.SerialHost.Url.Split
import DoipWire.Proofs.Bytes
import DoipWire.Proofs.Reading
import DoipWire.Proofs.Payload
import DoipWire.Proofs.RoundTrip
import DoipWire.Proofs.Reencode
import DoipWire.Proofs.Valid
import DoipWire.Proofs.Framing
import DoipWire.Proofs.Delivery
import DoipWire.Proofs.InPlace
import DoipWire.Proofs.Borrowing
import DoipWire.Proofs.PartialFill
import DoipWire.Proofs.FieldOrder
import DoipWire.Proofs.Refusals
import DoipWire.Proofs.HeaderCodec
import DoipWire.Proofs.Dispatch
import DoipWire.Proofs.ReadPlan
import DoipWire.Proofs.Chunking
import DoipWire.Proofs.Writing
import DoipWire.Proofs.Numerals
import DoipWire.Proofs.Exchange
import DoipWire.Proofs.CommandLine
import DoipWire.Proofs.Filling
