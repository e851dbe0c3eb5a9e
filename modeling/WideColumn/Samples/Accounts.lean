import WideColumn.Mapping.ClassDecl
import WideColumn.Samples.Layers
import WideColumn.Store.Mapper

/-!
# Sample: a table of accounts

A class whose fields are stored in the columns of a table, but for one that is not stored, and what
stores its instances.

* `WideColumn.Samples.unseenAccount`: an instance, and `WideColumn.Samples.newAccount`: the default;
* `WideColumn.Samples.accounts`: the class;
* `WideColumn.Samples.accountMapper`: its table.
-/

namespace WideColumn

namespace Samples

/-- An account as it is before anything is known of it. No slot holds the zero of its type. -/
def newAccount : Entity :=
  ⟨⟨"Account", [⟨"tenant", string, "nobody"⟩, ⟨"id", int32, (-1 : Int32)⟩,
    ⟨"email", .option string, some "unknown"⟩, ⟨"tags", .sortedSet string, ["new"]⟩,
    ⟨"seen", .option (.single .instant), some Instant.epoch⟩, ⟨"scratch", string, "blank"⟩]⟩, []⟩

/-- An account that has never been seen. An account belongs to a tenant, and what is in the scratch
pad is not kept. -/
def unseenAccount : Entity :=
  ⟨⟨"Account", [⟨"tenant", string, "acme"⟩, ⟨"id", int32, (7 : Int32)⟩,
    ⟨"email", .option string, some "ops"⟩, ⟨"tags", .sortedSet string, ["admin", "billing"]⟩,
    ⟨"seen", .option (.single .instant), none⟩, ⟨"scratch", string, "not stored"⟩]⟩, []⟩

/-- A field of an account. -/
def accountField (name : String) (type : FieldType) (markers : List PropertyMarker) : Member :=
  .bound name .field ⟨"Account", name⟩ type markers

/-- The class of accounts. -/
def accounts : ClassDecl where
  serial := 1
  entityType := some "Account"
  name := "Account"
  shape := .concrete
  markers := [.table { keyspace := some "crm", name := some "accounts" }]
  superclass := none
  embeddedIn := none
  interfaces := []
  members :=
    [accountField "tenant" string [.partitionKey 0],
      accountField "id" int32 [.clusteringColumn 0],
      accountField "email" (.option string) [.column { name := some "contact_email" }],
      accountField "tags" (.sortedSet string) [],
      accountField "seen" (.option (.single .instant)) [],
      accountField "scratch" string [.transient]]
  queries := []

/-- The property of a field of an account. -/
def accountProperty (name column : String) (type : FieldType) (role : PropertyRole) : Property where
  name := name
  columnName := column
  appType := type.appType
  role := role
  customCodec := none
  frozen := ⟨false, false, false⟩
  reader := some ⟨[], "Account", name⟩
  writer := some ⟨[], "Account", name⟩
  className := "Account"

/-- What stores accounts. -/
def accountMapper : Mapper where
  descriptor :=
    { className := "Account"
      kind := .table
      keyspace := some "crm"
      name := some "accounts"
      properties :=
        [accountProperty "tenant" "tenant" string (.partitionKey 0),
          accountProperty "id" "id" int32 (.clusteringColumn 0),
          accountProperty "email" "contact_email" (.option string) .regular,
          accountProperty "tags" "tags" (.sortedSet string) .regular,
          accountProperty "seen" "seen" (.option (.single .instant)) .regular,
          accountProperty "scratch" "scratch" string .transient]
      index := [("scratch", 5), ("seen", 4), ("tags", 3), ("email", 2), ("id", 1), ("tenant", 0)]
      partitionPlaces := [0]
      clusteringPlaces := [1]
      queries := [] }
  registry := .standard
  initial := newAccount

end Samples

end WideColumn
