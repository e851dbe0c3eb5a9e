import WideColumn.AppType
import WideColumn.Bytes.BigEndian
import WideColumn.Bytes.Hex
import WideColumn.Bytes.TwosComplement
import WideColumn.Codec.Basic
import WideColumn.Codec.Error
import WideColumn.Codec.Framing
import WideColumn.Codec.Scalar
import WideColumn.ColumnType.Basic
import WideColumn.ColumnType.Reader
import WideColumn.Config
import WideColumn.Entity.Access
import WideColumn.Entity.Basic
import WideColumn.Entity.Path
import WideColumn.Error
import WideColumn.FieldType.Basic
import WideColumn.FieldType.Conversion
import WideColumn.FieldType.Insertion
import WideColumn.Mapping.Cache
import WideColumn.Mapping.ClassDecl
import WideColumn.Mapping.Derive
import WideColumn.Mapping.Descriptor
import WideColumn.Mapping.Draft
import WideColumn.Mapping.Error
import WideColumn.Mapping.Hierarchy
import WideColumn.Mapping.Identifier
import WideColumn.Mapping.Inspect
import WideColumn.Mapping.Kind
import WideColumn.Mapping.Manager
import WideColumn.Mapping.Marker
import WideColumn.Mapping.Property
import WideColumn.Proofs.Bytes.Signed
import WideColumn.Proofs.Bytes.Word
import WideColumn.Proofs.Cache.Entries
import WideColumn.Proofs.Cache.Interleaving
import WideColumn.Proofs.Cache.Transparency
import WideColumn.Proofs.Codec.Collection
import WideColumn.Proofs.Codec.Conform
import WideColumn.Proofs.Codec.Cursor
import WideColumn.Proofs.Codec.Frame
import WideColumn.Proofs.Codec.Kept
import WideColumn.Proofs.Codec.Normal
import WideColumn.Proofs.Codec.Null
import WideColumn.Proofs.Codec.RoundTrip
import WideColumn.Proofs.Codec.Scalar
import WideColumn.Proofs.Codec.Spelling
import WideColumn.Proofs.ColumnType.Notation
import WideColumn.Proofs.ColumnType.Text
import WideColumn.Proofs.Entity.Copy
import WideColumn.Proofs.Entity.Route
import WideColumn.Proofs.FieldType.Column
import WideColumn.Proofs.FieldType.Conversion
import WideColumn.Proofs.Mapping.Acceptance
import WideColumn.Proofs.Mapping.Access
import WideColumn.Proofs.Mapping.Conflict
import WideColumn.Proofs.Mapping.Descriptor
import WideColumn.Proofs.Mapping.Embedding
import WideColumn.Proofs.Mapping.Hierarchy
import WideColumn.Proofs.Mapping.Key
import WideColumn.Proofs.Mapping.Merge
import WideColumn.Proofs.Mapping.Precedence
import WideColumn.Proofs.Mapping.Property
import WideColumn.Proofs.Outcome
import WideColumn.Proofs.Pairing
import WideColumn.Proofs.Registry.Representation
import WideColumn.Proofs.Registry.ServerType
import WideColumn.Proofs.ServerType.Text
import WideColumn.Proofs.Store.Binding
import WideColumn.Proofs.Store.RoundTrip
import WideColumn.Proofs.Text.Blank
import WideColumn.Proofs.Text.Utf8
import WideColumn.Proofs.Value.Instant
import WideColumn.Proofs.Value.Part
import WideColumn.Registry
import WideColumn.Samples.Accounts
import WideColumn.Samples.Capitals
import WideColumn.Samples.Embedded
import WideColumn.Samples.Interfaces
import WideColumn.Samples.Layers
import WideColumn.Samples.Records
import WideColumn.Samples.Redeclared
import WideColumn.ServerType.Basic
import WideColumn.ServerType.Reader
import WideColumn.Store.Mapper
import WideColumn.Store.Session
import WideColumn.Store.Statement
import WideColumn.Text.Ascii
import WideColumn.Text.Blank
import WideColumn.Text.CaseTable
import WideColumn.Text.Digits
import WideColumn.Text.LowerCase
import WideColumn.Text.Shape
import WideColumn.Text.ShapeTable
import WideColumn.Text.Utf8
import WideColumn.Trace.Event
import WideColumn.Trace.Traced
import WideColumn.TypeError
import WideColumn.TypeText
import WideColumn.Value.Address
import WideColumn.Value.Basic
import WideColumn.Value.Decimal
import WideColumn.Value.Ieee
import WideColumn.Value.Instant
import WideColumn.Value.Uuid
import WideColumn.Proofs.Store.Key
import WideColumn.Proofs.ServerType.Notation
import WideColumn.Proofs.ServerType.Composed
import WideColumn.Proofs.Codec.Damage
import WideColumn.Proofs.ServerType.Spacing
import WideColumn.Proofs.ServerType.Wrapping
import WideColumn.Proofs.Registry.Resolution
import WideColumn.Proofs.AppType.Column
import WideColumn.Proofs.AppType.Order
import WideColumn.Proofs.Mapping.KeyFault
import WideColumn.Proofs.Mapping.Traversal
import WideColumn.Proofs.Mapping.PropertyOrder
import WideColumn.Proofs.Mapping.Merged
import WideColumn.Proofs.Mapping.Overriding
import WideColumn.Proofs.Mapping.Naming
import WideColumn.Proofs.Mapping.Queries
import WideColumn.Proofs.Cache.Statistics
import WideColumn.Proofs.Store.Execution
import WideColumn.Proofs.Mapping.Quoting
import WideColumn.Proofs.Value.Numeral
import WideColumn.Proofs.FieldType.Insertion
import WideColumn.Proofs.FieldType.Normal
import WideColumn.Proofs.TypeText.Cursor
import WideColumn.Proofs.TypeText.InPlace
