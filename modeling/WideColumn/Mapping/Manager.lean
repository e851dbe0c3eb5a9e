import WideColumn.Mapping.Cache
import WideColumn.Store.Mapper

/-!
# The mapping manager

What a program keeps to map its classes: the codecs, the settings and, if it is connected, a
session. The descriptors it has built are in a cache, which is passed along.

* `WideColumn.MappedType`: an entity type and its declaration;
* `WideColumn.Manager`: the codecs, the settings and the session;
* `WideColumn.Manager.descriptor`, `WideColumn.Manager.descriptorFor`: descriptors by declaration
  and by entity type;
* `WideColumn.Manager.mapper`: what stores the entities of a type.
-/

namespace WideColumn

/-- An entity type with the declaration of its mapping. -/
structure MappedType where
  type : EntityType
  decl : ClassDecl

/-- The codecs, the settings and the session of a program. -/
structure Manager (σ : Type) where
  registry : Registry
  config : Config
  session : Option (Session σ)

namespace Manager

variable {σ : Type} (m : Manager σ)

/-- The descriptor of a declaration. -/
def descriptor (d : ClassDecl) (kind : MappingKind) (c : Cache) :
    Traced MappingError Descriptor × Cache :=
  c.requestBuilt ⟨d.id, kind⟩ d kind m.config

/-- The descriptor of an entity type. -/
def descriptorFor (t : MappedType) (kind : MappingKind) (c : Cache) :
    Traced MappingError Descriptor × Cache :=
  c.requestBuilt ⟨.entityType t.type.name, kind⟩ t.decl kind m.config

/-- What stores the entities of a type with a default entity, and the session to do it with. If
nothing else is said, the slots of the default entity hold the zeros of their types. -/
def mapper (t : MappedType) (initial : Entity := t.type.new) (c : Cache) :
    Traced Error (Mapper × Session σ) × Cache :=
  match m.session with
  | none => (Traced.fail (.session .notConfigured), c)
  | some session =>
    let (d, c) := m.descriptorFor t .table c
    (do
      let d ← d.mapError .mapping
      return (⟨d, m.registry, initial⟩, session), c)

end Manager

end WideColumn
