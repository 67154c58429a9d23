import WordCodec.Disassembly
import WordCodec.Forms
import WordCodec.Proofs.Bits
import WordCodec.Proofs.Packing
import WordCodec.Proofs.Fields
import WordCodec.Proofs.Checked
import WordCodec.Proofs.Decoding
import WordCodec.Proofs.Opcodes
import WordCodec.Proofs.RoundTrip
import WordCodec.Proofs.Encoding
import WordCodec.Proofs.Flags
import WordCodec.Proofs.Reencoding
import WordCodec.Proofs.Policies
import WordCodec.Proofs.BuilderCalls
import WordCodec.Proofs.Names
import WordCodec.Proofs.SignExtension
import WordCodec.Proofs.TwosComplement
import WordCodec.Proofs.Lines
import WordCodec.Proofs.Disassembly
import WordCodec.Proofs.Classification
import WordCodec.Proofs.Formats
import WordCodec.Proofs.Conversion
import WordCodec.Proofs.RawEncoding
import WordCodec.Proofs.Positions
import WordCodec.Proofs.Json.Grammar
import WordCodec.Proofs.Json.Texts
import WordCodec.Proofs.Json.Literals
import WordCodec.Proofs.Json.Skipping
import WordCodec.Proofs.Json.Values
import WordCodec.Proofs.Json.Records
import WordCodec.Proofs.Json.Counting
import WordCodec.Proofs.Json.Closed
import WordCodec.Proofs.Json.Outlines
import WordCodec.Proofs.Forms
import WordCodec.Proofs.Configuration
import WordCodec.Proofs.Printing
import WordCodec.Proofs.Displacements
import WordCodec.Proofs.Diagnostics
import WordCodec.Proofs.FlagRecord
import WordCodec.Proofs.Mnemonics
