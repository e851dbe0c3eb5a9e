import WideColumn.AppType
import WideColumn.Codec.Framing
import WideColumn.Codec.Scalar
import WideColumn.ServerType.Basic

/-!
# Codecs

A codec turns the values of one column type into bytes and back. There is one for each scalar kind;
the codecs of collections are made from those of their parts; and a program may bring its own.

* `WideColumn.CustomCodec`: a codec of the program's own;
* `WideColumn.Codec`: all codecs;
* `WideColumn.Codec.columnType`, `WideColumn.Codec.appType`: what a codec is for;
* `WideColumn.Codec.encode`, `WideColumn.Codec.decode`: what it does;
* `WideColumn.ColumnType.codec`: the codec of a column type in which every kind has its own.
-/

namespace WideColumn

/-- A codec that a program brings along. -/
structure CustomCodec where
  /-- What the codec is called where it is listed. -/
  name : String
  /-- The type of the columns it reads and writes. -/
  columnType : ColumnType
  /-- The type of the values it takes and makes. -/
  appType : AppType
  /-- The bytes of a value. -/
  encode : Value → Except CodecError Bytes
  /-- The value of bytes. -/
  decode : Bytes → Except CodecError Value

/-- A codec. -/
inductive Codec where
  /-- The codec of a scalar kind. -/
  | scalar (kind : ScalarKind)
  | list (element : Codec)
  | set (element : Codec)
  | map (key value : Codec)
  /-- A codec of the program's own. -/
  | custom (codec : CustomCodec)

namespace Codec

/-- The type of the columns a codec reads and writes. -/
def columnType : Codec → ColumnType
  | scalar k => .scalar k
  | list e => .list e.columnType
  | set e => .set e.columnType
  | map k v => .map k.columnType v.columnType
  | custom c => c.columnType

/-- The type of the values a codec takes and makes. -/
def appType : Codec → AppType
  | scalar k => k.appType
  | list e => .list e.appType
  | set e => .set e.appType
  | map k v => .map k.appType v.appType
  | custom c => c.appType

/-- The server's type for the columns. -/
def serverType (c : Codec) : ServerType :=
  c.columnType.serverType

/-- The codecs of the parts of a collection. -/
def parts : Codec → List Codec
  | list e => [e]
  | set e => [e]
  | map k v => [k, v]
  | scalar _ | custom _ => []

/-- The error of a collection that is given something else. -/
def mismatch (c : Codec) (v : Value) : CodecError :=
  .typeMismatch c.columnType v.kind

/-- The bytes of a value. A set may be given as a list. -/
def encode : Codec → Value → Except CodecError Bytes
  | scalar k, v => k.encode v
  | list e, .list vs => Framing.writeElements .list e.encode vs
  | set e, .set vs => Framing.writeElements .set e.encode vs
  | set e, .list vs => Framing.writeElements .set e.encode vs
  | map k v, .map es => Framing.writeEntries k.encode v.encode es
  | custom c, v => c.encode v
  | c, v => .error (c.mismatch v)

/-- The value of bytes. -/
def decode : Codec → Bytes → Except CodecError Value
  | scalar k, bs => k.decode bs
  | list e, bs => (Framing.readElements .list e.decode bs).map .list
  | set e, bs => (Framing.readElements .set e.decode bs).map .set
  | map k v, bs => (Framing.readEntries k.decode v.decode bs).map .map
  | custom c, bs => c.decode bs

end Codec

/-- The codec of a column type when each kind has its own codec. -/
def ColumnType.codec : ColumnType → Codec
  | scalar k => .scalar k
  | list e => .list e.codec
  | set e => .set e.codec
  | map k v => .map k.codec v.codec

@[simp] theorem ColumnType.columnType_codec (t : ColumnType) : t.codec.columnType = t := by
  induction t with
  | scalar k => rfl
  | list e ih => simp [ColumnType.codec, Codec.columnType, ih]
  | set e ih => simp [ColumnType.codec, Codec.columnType, ih]
  | map k v ihk ihv => simp [ColumnType.codec, Codec.columnType, ihk, ihv]

@[simp] theorem ColumnType.appType_codec (t : ColumnType) : t.codec.appType = t.appType := by
  induction t with
  | scalar k => rfl
  | list e ih => simp [ColumnType.codec, Codec.appType, ColumnType.appType, ih]
  | set e ih => simp [ColumnType.codec, Codec.appType, ColumnType.appType, ih]
  | map k v ihk ihv => simp [ColumnType.codec, Codec.appType, ColumnType.appType, ihk, ihv]

end WideColumn
