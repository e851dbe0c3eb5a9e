import WideColumn.Mapping.Derive
import WideColumn.Samples.Layers

/-!
# Sample: classes with attributes

Classes as a program would write them, for every attribute at least one, and for every way in which
attributes can contradict each other.

* `WideColumn.Samples.reading`, `WideColumn.Samples.audited`, `WideColumn.Samples.note`,
  `WideColumn.Samples.address`, `WideColumn.Samples.mixed`: classes that can be mapped;
* `WideColumn.Samples.records`: these and others, which cannot be mapped or only with other settings.
-/

namespace WideColumn

namespace Samples

/-! ### Short forms -/

/-- A field with attributes. -/
def part (name : String) (type : FieldType) (attributes : FieldAttributes) : FieldDecl :=
  ⟨name, some type, attributes⟩

/-- A field without attributes. -/
def plain (name : String) (type : FieldType) : FieldDecl :=
  ⟨name, some type, {}⟩

/-- A field that is not stored. -/
def unstored (name : String) : FieldDecl :=
  ⟨name, none, {}⟩

/-- An attribute that gives a name. -/
def named (name : String) : Option (Option String) :=
  some (some name)

/-- A codec that only takes texts of ASCII characters. -/
def asciiOnly : Option Codec :=
  some (.scalar .ascii)

/-- A number as the whole of a primary key. -/
def key : FieldDecl :=
  part "id" int32 { partitionKey := some 0 }

/-- A class stored in a table of the keyspace `ks`. -/
def stored (name table : String) (fields : List FieldDecl) : RecordDecl where
  name := name
  attributes := { table := named table, keyspace := some "ks" }
  fields := fields

/-! ### Classes that can be mapped -/

/-- Measurements: a partition key of two columns, a clustering column, a computed property and one
that is not stored. -/
def reading : RecordDecl where
  name := "Reading"
  attributes :=
    { table := named "Readings", keyspace := some "Telemetry", caseSensitiveName := true }
  fields :=
    [part "sensor" (.single .uuid) { partitionKey := some 0 },
      part "day" int32 { partitionKey := some 1 },
      part "ts" int64 { clusteringColumn := some 0 },
      part "value" (.single .float64) { column := named "Value", caseSensitive := true },
      part "ttl" int32 { computed := some "ttl(value)" },
      part "history" (.list (.list (.single .float64))) { frozenValue := true },
      unstored "poll_interval",
      part "unit" string { codec := asciiOnly }]

/-- What all classes with a history have in common; not mapped on its own. -/
def audited : RecordDecl where
  name := "Audited"
  fields := [part "created" int64 { column := named "created_at" }, unstored "dirty"]

/-- An interface with a property that is read only. -/
def labelled : ClassDecl where
  serial := 1
  entityType := none
  name := "Labelled"
  shape := .interface
  markers := []
  superclass := none
  embeddedIn := none
  interfaces := []
  members :=
    [.declared "labels" .getter (.set (.primitive .string)) [.column ⟨some "tag_set", false, none⟩]]
  queries := []

/-- Notes: a class with a superclass and an interface. -/
def note : RecordDecl where
  name := "Note"
  attributes := { table := some none, keyspace := some "notes_ks", interfaces := [labelled] }
  base := some (audited.derive 2)
  fields :=
    [part "id" (.single .uuid) { partitionKey := some 0 },
      plain "body" string,
      plain "labels" (.sortedSet string)]

/-- Addresses: a user-defined type. -/
def address : RecordDecl where
  name := "Address"
  attributes := { udt := named "address", keyspace := some "ks" }
  fields :=
    [part "street" string { field := named "Street", caseSensitive := true },
      part "zip" int32 { field := some none },
      part "Town" string { caseSensitive := true },
      part "code" string { codec := asciiOnly, frozen := true }]

/-- A class with names in mixed case and with every degree of being frozen. -/
def mixed : RecordDecl where
  name := "Mixed"
  attributes := { table := named "Mixed", keyspace := some "Ks", caseSensitiveKeyspace := true }
  fields :=
    [part "type" int64 { partitionKey := some 0, column := named "Id" },
      part "attrs" (.sortedMap string (.sortedMap string int32))
        { column := some none, frozen := true, frozenKey := true, frozenValue := true },
      plain "maybe" (.option string)]

/-- A class without a keyspace of its own. -/
def homeless : RecordDecl where
  name := "Homeless"
  attributes := { table := named "t" }
  fields := [key]

/-! ### Attributes that contradict each other -/

/-- A table and a user-defined type at once. -/
def both : RecordDecl where
  name := "Both"
  attributes := { table := named "both", udt := named "both", keyspace := some "ks" }
  fields := [plain "id" int32]

/-- An accessor that is no interface. -/
def notAnInterface : RecordDecl where
  name := "NotAnInterface"
  attributes := { accessor := true }
  fields := [plain "id" int32]

/-- A user-defined type with a column. -/
def withColumn : RecordDecl where
  name := "WithColumn"
  attributes := { udt := named "u", keyspace := some "ks" }
  fields := [part "value" string { column := named "v" }]

/-- A codec for a property that has a name as a column and one as a field. -/
def doubleCodec : RecordDecl where
  name := "DoubleCodec"
  attributes := { table := some none, udt := some none, keyspace := some "ks" }
  fields :=
    [part "text" string
      { column := named "A", field := named "B", codec := asciiOnly, caseSensitive := true }]

/-- Tables whose fields have attributes that do not go together. -/
def contradictory : List RecordDecl :=
  [stored "BadCodec" "bad" [part "id" int32 { partitionKey := some 0, codec := asciiOnly }],
    stored "WithField" "t" [key, part "value" string { field := named "v" }],
    stored "TwoKeys" "t" [part "id" int32 { partitionKey := some 0, clusteringColumn := some 0 }],
    stored "ColumnComputed" "t"
      [key, part "written" int64 { column := named "w", computed := some "writetime(v)" }],
    stored "EmptyComputed" "t" [key, part "written" int64 { computed := some "" }],
    stored "NegativeKey" "t" [part "id" int32 { partitionKey := some (-1) }]]

/-- All classes. -/
def records : List RecordDecl :=
  [reading, audited, note, address, mixed, homeless, both, notAnInterface, withColumn, doubleCodec]
    ++ contradictory

end Samples

end WideColumn
