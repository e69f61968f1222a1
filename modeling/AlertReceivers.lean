import AlertReceivers.Command.Filter
import AlertReceivers.Command.Log
import AlertReceivers.Command.Options
import AlertReceivers.Command.Run
import AlertReceivers.Command.Usage
import AlertReceivers.Decimal.Binary64
import AlertReceivers.Decimal.Digits
import AlertReceivers.Decimal.Shortest
import AlertReceivers.Dict
import AlertReceivers.Document.Basic
import AlertReceivers.Document.Reading
import AlertReceivers.Export.Basic
import AlertReceivers.Export.Block
import AlertReceivers.Export.Json
import AlertReceivers.Export.Style
import AlertReceivers.Failure
import AlertReceivers.Main
import AlertReceivers.Node.Basic
import AlertReceivers.Node.Mismatch
import AlertReceivers.Proofs.Command.Runs
import AlertReceivers.Proofs.Command.Summary
import AlertReceivers.Proofs.Decimal.Digits
import AlertReceivers.Proofs.Decimal.Wholes
import AlertReceivers.Proofs.Dict
import AlertReceivers.Proofs.Document.Answers
import AlertReceivers.Proofs.Document.Decoding
import AlertReceivers.Proofs.Document.GivenWords
import AlertReceivers.Proofs.Document.Numerals
import AlertReceivers.Proofs.Document.OneField
import AlertReceivers.Proofs.Document.Reading
import AlertReceivers.Proofs.Document.Secrecy
import AlertReceivers.Proofs.Document.SecretText
import AlertReceivers.Proofs.Document.SecretWord
import AlertReceivers.Proofs.Document.SpanTexts
import AlertReceivers.Proofs.Document.WrittenReceivers
import AlertReceivers.Proofs.ListFacts
import AlertReceivers.Proofs.Lookup
import AlertReceivers.Proofs.Outcome
import AlertReceivers.Proofs.Receiver.BareNumbers
import AlertReceivers.Proofs.Receiver.Collisions
import AlertReceivers.Proofs.Receiver.Conversion
import AlertReceivers.Proofs.Receiver.Entries
import AlertReceivers.Proofs.Receiver.Exported
import AlertReceivers.Proofs.Receiver.Given
import AlertReceivers.Proofs.Receiver.GivenTexts
import AlertReceivers.Proofs.Receiver.Headers
import AlertReceivers.Proofs.Receiver.Located
import AlertReceivers.Proofs.Receiver.NormalHeaders
import AlertReceivers.Proofs.Receiver.Overlay
import AlertReceivers.Proofs.Receiver.RoundTrip
import AlertReceivers.Proofs.Receiver.Schema
import AlertReceivers.Proofs.Receiver.Secrecy
import AlertReceivers.Proofs.Receiver.Subject
import AlertReceivers.Proofs.Receiver.Tagged
import AlertReceivers.Proofs.Receiver.Tally
import AlertReceivers.Proofs.Receiver.Verdict
import AlertReceivers.Proofs.Receiver.WrittenHeaders
import AlertReceivers.Proofs.Span.Component
import AlertReceivers.Proofs.Span.Composed
import AlertReceivers.Proofs.Span.Elapsed
import AlertReceivers.Proofs.Span.LastSecond
import AlertReceivers.Proofs.Span.MixedRadix
import AlertReceivers.Proofs.Span.Numerals
import AlertReceivers.Proofs.Span.RoundTrip
import AlertReceivers.Proofs.Span.Signs
import AlertReceivers.Proofs.Span.Written
import AlertReceivers.Proofs.Text.AsciiNames
import AlertReceivers.Proofs.Text.ByteOrder
import AlertReceivers.Proofs.Text.CaseForms
import AlertReceivers.Proofs.Text.HeaderName
import AlertReceivers.Proofs.Yaml.Composition
import AlertReceivers.Proofs.Yaml.Denotation
import AlertReceivers.Proofs.Yaml.Difference
import AlertReceivers.Proofs.Yaml.Lexer
import AlertReceivers.Proofs.Yaml.LexerTwins
import AlertReceivers.Proofs.Yaml.Naming
import AlertReceivers.Proofs.Yaml.Numerals
import AlertReceivers.Proofs.Yaml.Reading
import AlertReceivers.Proofs.Yaml.ReplacedReading
import AlertReceivers.Proofs.Yaml.Replacement
import AlertReceivers.Proofs.Yaml.Scalars
import AlertReceivers.Proofs.Yaml.Source
import AlertReceivers.Proofs.Yaml.Tags
import AlertReceivers.Proofs.Yaml.Tokens
import AlertReceivers.Proofs.Yaml.Words
import AlertReceivers.Receiver.Basic
import AlertReceivers.Receiver.Decode
import AlertReceivers.Receiver.DecodeError
import AlertReceivers.Receiver.Editing
import AlertReceivers.Receiver.Export
import AlertReceivers.Receiver.Headers
import AlertReceivers.Receiver.Kind
import AlertReceivers.Receiver.Naming
import AlertReceivers.Receiver.Schema
import AlertReceivers.Receiver.Setting
import AlertReceivers.Receiver.Tally
import AlertReceivers.Secret
import AlertReceivers.Span.Basic
import AlertReceivers.Span.Elapsed
import AlertReceivers.Span.Reader
import AlertReceivers.Span.Unit
import AlertReceivers.Text.Alphanumeric
import AlertReceivers.Text.Blank
import AlertReceivers.Text.CaseMap
import AlertReceivers.Text.HeaderName
import AlertReceivers.Text.Printable
import AlertReceivers.Text.Quoted
import AlertReceivers.Text.Ranges
import AlertReceivers.Yaml.Character
import AlertReceivers.Yaml.Composition
import AlertReceivers.Yaml.Directive
import AlertReceivers.Yaml.Lexer
import AlertReceivers.Yaml.Path
import AlertReceivers.Yaml.Plain
import AlertReceivers.Yaml.Reading
import AlertReceivers.Yaml.Resolution
import AlertReceivers.Yaml.Scalar.Block
import AlertReceivers.Yaml.Scalar.Quoted
import AlertReceivers.Yaml.Scalar.Words
import AlertReceivers.Yaml.Source
import AlertReceivers.Yaml.Tag
import AlertReceivers.Yaml.Token
import AlertReceivers.Yaml.Tree
