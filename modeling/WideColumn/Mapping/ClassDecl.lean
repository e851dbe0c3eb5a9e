import WideColumn.Entity.Access
import WideColumn.Mapping.Marker

/-!
# Class declarations

Classes and interfaces as they are written: with their own markers and members, a superclass and the
interfaces they implement. A class that extends another one may hold the instance of its superclass
in itself, as an embedded entity.

* `WideColumn.Member`: a field, getter or setter;
* `WideColumn.Query`: a method of an accessor;
* `WideColumn.ClassDecl`: a class or interface;
* `WideColumn.ClassId`, `WideColumn.ClassDecl.id`: what tells classes of one name apart.
-/

namespace WideColumn

/-- The forms of a declaration. -/
inductive ClassShape where
  /-- A class that has instances. -/
  | concrete
  /-- A class that only subclasses have instances of. -/
  | abstract
  | interface
  deriving DecidableEq, Repr, Inhabited

/-- What a form is called. -/
def ClassShape.text : ClassShape → String
  | concrete => "class"
  | abstract => "class"
  | interface => "interface"

/-- The forms of a member. -/
inductive MemberOrigin where
  | field
  | getter
  | setter
  deriving DecidableEq, Repr, Inhabited

/-- A member of a class. -/
structure Member where
  /-- The property that the member belongs to. -/
  property : String
  origin : MemberOrigin
  appType : AppType
  markers : List PropertyMarker
  /-- The slot that the property can be read from. -/
  reader : Option SlotRef
  /-- The slot that the property can be written to. -/
  writer : Option SlotRef

namespace Member

/-- A member that is bound to no slot. -/
def declared (property : String) (origin : MemberOrigin) (appType : AppType)
    (markers : List PropertyMarker) : Member :=
  ⟨property, origin, appType, markers, none, none⟩

/-- A member that is bound to a slot of the given type: a field for both directions, a getter for
reading and a setter for writing. -/
def bound (property : String) (origin : MemberOrigin) (slot : SlotRef) (type : FieldType)
    (markers : List PropertyMarker) : Member :=
  { property := property
    origin := origin
    appType := type.appType
    markers := markers
    reader := if origin = .setter then none else some slot
    writer := if origin = .getter then none else some slot }

end Member

/-- A parameter of a query, which may have a name. -/
structure Param where
  name : Option String
  appType : AppType
  deriving DecidableEq, Repr, Inhabited

/-- A method of an accessor with its query, if it has one. -/
structure Query where
  method : String
  text : Option String
  params : List Param
  deriving DecidableEq, Repr, Inhabited

/-- A class or interface as it is declared. Two declarations are the same one exactly if they have
one serial number. -/
structure ClassDecl where
  /-- The serial number of the declaration. -/
  serial : Nat
  /-- The entity type whose declaration it is, if it was made for one. -/
  entityType : Option String
  name : String
  shape : ClassShape
  markers : List MappingMarker
  superclass : Option ClassDecl
  /-- The entity type whose instances embed that of the superclass. Without one the members of the
  superclass apply to the instance itself. -/
  embeddedIn : Option String
  interfaces : List ClassDecl
  members : List Member
  queries : List Query

/-- What tells declarations apart when their descriptors are kept: those made for one entity type
count as one. -/
inductive ClassId where
  | entityType (name : String)
  | declaration (serial : Nat)
  deriving DecidableEq, Repr, Inhabited

namespace ClassDecl

/-- The identity of a declaration. -/
def id (d : ClassDecl) : ClassId :=
  match d.entityType with
  | some name => .entityType name
  | none => .declaration d.serial

/-- Whether a class has a marker that asks for a mapping. -/
def hasMarker (d : ClassDecl) (kind : MappingKind) : Bool :=
  d.markers.any fun m => m.kind == kind

/-- Whether a class has a member of a property. -/
def declares (d : ClassDecl) (property : String) : Bool :=
  d.members.any fun m => m.property == property

end ClassDecl

end WideColumn
