import WideColumn.Mapping.Hierarchy

/-!
# Merging the members of a hierarchy

Every property may be declared by many members: by getters, setters and fields, in the class itself
and in what it inherits from. A draft gathers what they say. Members are met getters first, then
setters, then fields, each from the closest declaration to the farthest; what is met first counts.

* `WideColumn.Draft`: what is known of a property;
* `WideColumn.Draft.absorb`: what one more member adds;
* `WideColumn.Draft.scan`: the members of a hierarchy, in the order in which they are met;
* `WideColumn.Draft.ofLevels`: the drafts of all properties, those of root classes first.
-/

namespace WideColumn

/-- What the members of a property that have been met say about it. -/
structure Draft where
  property : String
  markers : List PropertyMarker := []
  getterType : Option AppType := none
  setterType : Option AppType := none
  fieldType : Option AppType := none
  getter : Option Route := none
  setter : Option Route := none
  fieldReader : Option Route := none
  fieldWriter : Option Route := none

namespace Draft

/-! ### One member after the other -/

/-- The markers after those of one more member: a kind that is present already is not added. -/
def addMarkers (present new : List PropertyMarker) : List PropertyMarker :=
  present ++ new.filter fun m => !present.any fun p => p.kind == m.kind

/-- The draft after one more member, which is declared at a level of the hierarchy. -/
def absorb (d : Draft) (l : Level) (m : Member) : Draft :=
  let d := { d with markers := addMarkers d.markers m.markers }
  match m.origin with
  | .getter =>
    { d with
      getterType := d.getterType <|> some m.appType
      getter := d.getter <|> m.reader.map l.route }
  | .setter =>
    { d with
      setterType := d.setterType <|> some m.appType
      setter := d.setter <|> m.writer.map l.route }
  | .field =>
    { d with
      fieldType := d.fieldType <|> some m.appType
      fieldReader := d.fieldReader <|> m.reader.map l.route
      fieldWriter := d.fieldWriter <|> m.writer.map l.route }

/-- The drafts after one more member: that of its property is extended, or begun at the end. -/
def absorbInto (l : Level) (m : Member) : List Draft → List Draft
  | [] => [absorb { property := m.property } l m]
  | d :: ds => if d.property = m.property then d.absorb l m :: ds else d :: absorbInto l m ds

/-! ### What it comes to -/

/-- The type of the property: getters have the say, then fields, then setters. -/
def appType (d : Draft) : AppType :=
  (d.getterType <|> d.fieldType <|> d.setterType).getD .any

/-- Where the property is read from. -/
def reader (d : Draft) : Option Route :=
  d.getter <|> d.fieldReader

/-- Where the property is written to. -/
def writer (d : Draft) : Option Route :=
  d.setter <|> d.fieldWriter

/-- The marker of a kind that counts. -/
def marker? (d : Draft) (kind : MarkerKind) : Option PropertyMarker :=
  d.markers.find? fun m => m.kind == kind

/-- Whether there is a marker of a kind. -/
def has (d : Draft) (kind : MarkerKind) : Bool :=
  (d.marker? kind).isSome

/-- What the column marker says. -/
def column? (d : Draft) : Option ColumnName :=
  match d.marker? .column with
  | some (.column name) => some name
  | _ => none

/-- What the field marker says. -/
def field? (d : Draft) : Option ColumnName :=
  match d.marker? .field with
  | some (.field name) => some name
  | _ => none

/-- The expression of a computed property. -/
def computed? (d : Draft) : Option String :=
  match d.marker? .computed with
  | some (.computed e) => some e
  | _ => none

/-- The position within the partition key. -/
def partitionKey? (d : Draft) : Option Int32 :=
  match d.marker? .partitionKey with
  | some (.partitionKey n) => some n
  | _ => none

/-- The position within the clustering columns. -/
def clusteringColumn? (d : Draft) : Option Int32 :=
  match d.marker? .clusteringColumn with
  | some (.clusteringColumn n) => some n
  | _ => none

/-! ### The whole hierarchy -/

/-- The members of one form, each with the level that declares it. -/
def membersOf (origin : MemberOrigin) (levels : List Level) : List (Level × Member) :=
  levels.flatMap fun l => (l.decl.members.filter fun m => m.origin == origin).map fun m => (l, m)

/-- The members of a hierarchy in the order in which they are met. -/
def scan (levels : List Level) : List (Level × Member) :=
  membersOf .getter levels ++ (membersOf .setter levels ++ membersOf .field levels)

/-- The drafts of all properties, in the order in which the properties are met. -/
def gather (levels : List Level) : List Draft :=
  (scan levels).foldl (fun ds lm => absorbInto lm.1 lm.2 ds) []

/-- The place of the farthest class that declares a property, interfaces aside. -/
def depth (levels : List Level) (property : String) : Nat :=
  let declaring := levels.zipIdx.filter fun li =>
    li.1.decl.shape != .interface && li.1.decl.declares property
  declaring.foldl (fun deepest li => max deepest li.2) 0

/-- The drafts of all properties. Those that root classes declare come first; otherwise they stay
in the order in which they are met. -/
def ofLevels (levels : List Level) : List Draft :=
  (gather levels).mergeSort fun a b => depth levels b.property ≤ depth levels a.property

end Draft

end WideColumn
