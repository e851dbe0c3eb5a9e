import WideColumn.Mapping.ClassDecl
import WideColumn.Samples.Layers

/-!
# Sample: classes that embed their superclass

A chain of classes of which some embed the instance of their superclass and one is made of the same
instances as its superclass. The class at its end has a getter from an interface.

* `WideColumn.Samples.counted`: the interface;
* `WideColumn.Samples.counter`, `WideColumn.Samples.meter`, `WideColumn.Samples.dial`,
  `WideColumn.Samples.panel`: the classes, each of them the superclass of the next one.
-/

namespace WideColumn

namespace Samples

/-- An interface whose getter reads the count of a counter. -/
def counted : ClassDecl where
  serial := 1
  entityType := none
  name := "Counted"
  shape := .interface
  markers := []
  superclass := none
  embeddedIn := none
  interfaces := []
  members := [.bound "count" .getter ⟨"L0", "i"⟩ int32 []]
  queries := []

/-- A class of a chain, which is stored in a table of its own. -/
def linked (serial : Nat) (name : String) (superclass : Option ClassDecl)
    (embeddedIn : Option String) (interfaces : List ClassDecl) (members : List Member) :
    ClassDecl where
  serial := serial
  entityType := none
  name := name
  shape := .concrete
  markers := [.table { keyspace := some "ks" }]
  superclass := superclass
  embeddedIn := embeddedIn
  interfaces := interfaces
  members := members
  queries := []

/-- Counters, which have a label as well. -/
def counter : ClassDecl :=
  linked 2 "Counter" none none [counted] [.bound "label" .field ⟨"L0", "s"⟩ string []]

/-- Entities with a counter embedded in them. -/
def meter : ClassDecl :=
  linked 3 "Meter" (some counter) (some "L1") [] []

/-- The same entities, as instances of a class that extends the one of before. -/
def dial : ClassDecl :=
  linked 4 "Dial" (some meter) none [] [.bound "note" .field ⟨"L1", "s"⟩ string []]

/-- Entities with one of these embedded in them. -/
def panel : ClassDecl :=
  linked 5 "Panel" (some dial) (some "L2") [] []

end Samples

end WideColumn
