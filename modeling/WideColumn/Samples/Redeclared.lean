import WideColumn.Samples.Embedded

/-!
# Sample: properties that are declared again

Two subclasses of one class. In the first one, the class itself declares an inherited property again.
In the other one, this is left to a class that it implements as if it were an interface.

* `WideColumn.Samples.person`: the class that is extended;
* `WideColumn.Samples.customer`, `WideColumn.Samples.member`: its subclasses.
-/

namespace WideColumn

namespace Samples

/-- Persons, who have a number and a name. -/
def person : ClassDecl :=
  linked 1 "Person" none none []
    [.bound "id" .field ⟨"L0", "i"⟩ int32 [.partitionKey 0],
      .bound "name" .field ⟨"L0", "s"⟩ string []]

/-- Customers, whose name is declared again. -/
def customer : ClassDecl :=
  linked 2 "Customer" (some person) none [] [.bound "name" .field ⟨"L0", "s"⟩ string []]

/-- A class with a name only. -/
def badge : ClassDecl :=
  linked 3 "Badge" none none [] [.bound "name" .field ⟨"L0", "s"⟩ string []]

/-- Members, who have a badge. -/
def member : ClassDecl :=
  linked 4 "Member" (some person) none [badge] []

end Samples

end WideColumn
