import SellProbe.Abi.Codec
import SellProbe.Abi.Function
import SellProbe.Amount
import SellProbe.Bytecode.HexText
import SellProbe.Bytecode.Instruction
import SellProbe.Bytecode.MinimalProxy
import SellProbe.Bytecode.Scan
import SellProbe.Bytes
import SellProbe.Contract.Call
import SellProbe.Contract.Erc20
import SellProbe.Contract.Exchange
import SellProbe.Contract.Together
import SellProbe.Contract.Supply
import SellProbe.Contract.Transit
import SellProbe.Decimal
import SellProbe.Directory
import SellProbe.Hex
import SellProbe.Json.Basic
import SellProbe.Json.Binary64
import SellProbe.Json.Lexeme
import SellProbe.Json.Mismatch
import SellProbe.Json.Printer
import SellProbe.Json.Reader
import SellProbe.Json.Record
import SellProbe.Json.Wire
import SellProbe.Keccak
import SellProbe.Network.Environment
import SellProbe.Network.Profile
import SellProbe.Network.Registry
import SellProbe.Percentage
import SellProbe.Probe.Config
import SellProbe.Probe.Failure
import SellProbe.Probe.Liquidity
import SellProbe.Probe.Phase
import SellProbe.Probe.PublicRouter
import SellProbe.Probe.Run
import SellProbe.Probe.Stage
import SellProbe.Probe.TransitRouter
import SellProbe.Proofs.BigEndian
import SellProbe.Reflection
import SellProbe.Session.Error
import SellProbe.Session.Program
import SellProbe.Session.Request
import SellProbe.Session.Run
import SellProbe.Session.Script
import SellProbe.Session.Trace
import SellProbe.Session.Transaction
import SellProbe.Session.View
import SellProbe.Storage.Slot
import SellProbe.Storage.Survey
import SellProbe.Supply
import SellProbe.Swap.Cost
import SellProbe.Swap.Logs
import SellProbe.Swap.Quoted
import SellProbe.Text.Blank
import SellProbe.Text.Quoted
import SellProbe.Text.Search
import SellProbe.Text.Shown
import SellProbe.Text.Upper
import SellProbe.Text.Utf8
import SellProbe.Token
import SellProbe.Verdict
import SellProbe.Word
import SellProbe.Proofs.Conduct
import SellProbe.Proofs.Contents
import SellProbe.Proofs.Attribution
import SellProbe.Proofs.Reading
import SellProbe.Proofs.Sellable
import SellProbe.Proofs.Forgery
import SellProbe.Proofs.Ownership
import SellProbe.Proofs.Course
import SellProbe.Proofs.Constants
import SellProbe.Proofs.Mapping
import SellProbe.Proofs.Rate
import SellProbe.Proofs.Seeding
import SellProbe.Proofs.Indifference
import SellProbe.Proofs.Routine
import SellProbe.Proofs.Likeness
import SellProbe.Proofs.Refusal
import SellProbe.Proofs.Naming
import SellProbe.Proofs.Shape
import SellProbe.Proofs.ByteOrder
import SellProbe.Proofs.Overrides
import SellProbe.Proofs.HexDigits
import SellProbe.Proofs.Snapshots
import SellProbe.Proofs.SyntheticSupply
import SellProbe.Proofs.Lexing
import SellProbe.Proofs.Reparsing
import SellProbe.Proofs.Records
import SellProbe.Proofs.Provenance
import SellProbe.Proofs.Conversion
import SellProbe.Proofs.Searching
import SellProbe.Proofs.ByteOffsets
import SellProbe.Proofs.Reasons
import SellProbe.Proofs.Concatenation
import SellProbe.Proofs.Precedence
import SellProbe.Proofs.HexReading
import SellProbe.Proofs.DecidingSnapshot
import SellProbe.Proofs.WordArithmetic
import SellProbe.Proofs.HalfUp
import SellProbe.Proofs.Together
import SellProbe.Proofs.SupplySummary
import SellProbe.Proofs.DecimalText
import SellProbe.Proofs.HexDecoding
import SellProbe.Proofs.Dialogue
import SellProbe.Proofs.PreparedSwap
import SellProbe.Proofs.MinimalProxies
import SellProbe.Proofs.ScannedCode
import SellProbe.Proofs.Utf8Reading
import SellProbe.Proofs.TextResults
import SellProbe.Proofs.ReadOut
