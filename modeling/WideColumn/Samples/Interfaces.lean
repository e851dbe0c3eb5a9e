import WideColumn.Mapping.ClassDecl

/-!
# Sample: classes with interfaces

Two interfaces with the same getter, of which one extends the other one, and a class that implements
them both. What the getter is called in a table depends on the order in which the class names them.
With a third interface, two ways lead from the class to the one that is extended.

A class that declares a property of its interface again, for another part of the key.

An accessor that declares a method of its interface again.

* `WideColumn.Samples.titled`, `WideColumn.Samples.headed`, `WideColumn.Samples.captioned`: the
  interfaces;
* `WideColumn.Samples.article`: the class;
* `WideColumn.Samples.dated`, `WideColumn.Samples.event`: the interface and the class with a key;
* `WideColumn.Samples.tallied`, `WideColumn.Samples.readings`: the interface and the accessor.
-/

namespace WideColumn

namespace Samples

/-- A declaration with a getter whose column has a name. -/
def titling (serial : Nat) (name : String) (shape : ClassShape) (column : Option String)
    (interfaces : List ClassDecl) : ClassDecl where
  serial := serial
  entityType := none
  name := name
  shape := shape
  markers := []
  superclass := none
  embeddedIn := none
  interfaces := interfaces
  members := column.toList.map fun column =>
    .declared "title" .getter (.primitive .string) [.column { name := some column }]
  queries := []

/-- The interface that is extended. -/
def titled : ClassDecl :=
  titling 1 "Titled" .interface (some "title") []

/-- The interface that extends it. -/
def headed : ClassDecl :=
  titling 2 "Headed" .interface (some "heading") [titled]

/-- Another interface that extends it, without a getter of its own. -/
def captioned : ClassDecl :=
  titling 4 "Captioned" .interface none [titled]

/-- A class that implements interfaces. -/
def article (interfaces : List ClassDecl) : ClassDecl :=
  titling 3 "Article" .concrete none interfaces

/-! ### A property in two parts of a key -/

/-- An interface with a day, which is to be a part of the partition key. -/
def dated : ClassDecl where
  serial := 1
  entityType := none
  name := "Dated"
  shape := .interface
  markers := []
  superclass := none
  embeddedIn := none
  interfaces := []
  members := [.declared "day" .getter (.primitive .int32) [.partitionKey 0]]
  queries := []

/-- A class that implements it, with the day as a clustering column. -/
def event : ClassDecl where
  serial := 2
  entityType := none
  name := "Event"
  shape := .concrete
  markers := [.table { keyspace := some "ks", name := some "events" }]
  superclass := none
  embeddedIn := none
  interfaces := [dated]
  members :=
    [.bound "id" .field ⟨"Event", "id"⟩ (.single .int64) [.partitionKey 0],
      .bound "day" .field ⟨"Event", "day"⟩ (.single .int32) [.clusteringColumn 0]]
  queries := []

/-! ### A method with two declarations -/

/-- A declaration with queries and without members. -/
def querying (serial : Nat) (name : String) (markers : List MappingMarker)
    (interfaces : List ClassDecl) (queries : List Query) : ClassDecl where
  serial := serial
  entityType := none
  name := name
  shape := .interface
  markers := markers
  superclass := none
  embeddedIn := none
  interfaces := interfaces
  members := []
  queries := queries

/-- An interface with two methods, of which one has no query and two parameters that do not go
together. -/
def tallied : ClassDecl :=
  querying 1 "Tallied" [] [] [
    ⟨"count", some "SELECT count(*) FROM readings", []⟩,
    ⟨"find", none, [⟨some "id", .primitive .int32⟩, ⟨none, .primitive .int32⟩]⟩]

/-- An accessor that extends it, with a query for this method. -/
def readings (query : Option String) : ClassDecl :=
  querying 2 "Readings" [.accessor] [tallied] [⟨"find", query, [⟨some "id", .primitive .int32⟩]⟩]

end Samples

end WideColumn
