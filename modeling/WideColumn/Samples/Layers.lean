import WideColumn.Entity.Basic

/-!
# Sample: entities in layers

Three entity types with the same slots, one of each sort, where each type embeds the one before. So
a slot of one name can be reached in up to three layers of an entity.

* `WideColumn.Samples.slots`: the slots;
* `WideColumn.Samples.single`, `WideColumn.Samples.double`, `WideColumn.Samples.triple`: the types.
-/

namespace WideColumn

namespace Samples

/-- Texts. -/
def string : FieldType := .single .string

/-- Integers of 32 bits. -/
def int32 : FieldType := .single .int32

/-- Integers of 64 bits. -/
def int64 : FieldType := .single .int64

/-- A slot of each sort. -/
def slots : List (String × FieldType) :=
  [("s", string), ("b", .single .bool), ("i", int32), ("l", int64), ("f", .single .float32),
    ("d", .single .float64), ("dec", .single .decimal), ("vi", .single .varint),
    ("blob", .single .bytes), ("ip", .single .address), ("ts", .single .instant),
    ("u", .single .uuid), ("os", .option string), ("oi", .option int32), ("li", .list int32),
    ("ss", .sortedSet string), ("msi", .sortedMap string int32),
    ("lms", .list (.sortedMap string (.list int32)))]

/-- Entities of one layer. -/
def single : EntityType := ⟨⟨"L0", slots⟩, []⟩

/-- Entities with one of the type `single` embedded in them. -/
def double : EntityType := ⟨⟨"L1", slots⟩, [single.outer]⟩

/-- Entities with one of the type `double` embedded in them. -/
def triple : EntityType := ⟨⟨"L2", slots⟩, double.outer :: double.bases⟩

/-- The three types. -/
def layered : List EntityType := [single, double, triple]

end Samples

end WideColumn
