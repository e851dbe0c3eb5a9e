import WideColumn.Mapping.ClassDecl

/-!
# Flattening a class hierarchy

The declarations that a class is made of, in the order in which they take precedence: the class
itself, its superclasses upwards, and then the interfaces that any of these implement, level by
level, each of them once.

* `WideColumn.Level`: a declaration and the embeddings that lead to its instance;
* `WideColumn.ClassDecl.chain`: a class and its superclasses;
* `WideColumn.ClassDecl.reached`: the interfaces behind a queue of interfaces, breadth first;
* `WideColumn.ClassDecl.levels`: the whole hierarchy.
-/

namespace WideColumn

/-- A declaration of a hierarchy. -/
structure Level where
  decl : ClassDecl
  /-- The embeddings that lead from an instance of the class at the bottom to one of this
  declaration, the outermost first. -/
  embeddings : List String

/-- The way to a slot of a level from an instance of the class at the bottom. -/
def Level.route (l : Level) (slot : SlotRef) : Route :=
  ⟨l.embeddings, slot⟩

namespace ClassDecl

/-- A class and its superclasses upwards, where the class itself is behind the given embeddings. -/
def chainBehind (embeddings : List String) : ClassDecl → List Level
  | d@{ superclass := none, .. } => [⟨d, embeddings⟩]
  | d@{ superclass := some s, embeddedIn := t, .. } =>
    ⟨d, embeddings⟩ :: chainBehind (embeddings ++ t.toList) s

/-- A class and its superclasses upwards. -/
def chain (d : ClassDecl) : List Level :=
  d.chainBehind []

/-- Two queues, one behind the other, share the end of the queue. -/
theorem sizeOf_append (ds es : List ClassDecl) :
    sizeOf (ds ++ es) + 1 = sizeOf ds + sizeOf es := by
  induction ds with
  | nil => simp [Nat.add_comm]
  | cons d ds ih => simp only [List.cons_append, List.cons.sizeOf_spec]; omega

/-- The interfaces of a class are smaller than the class. -/
theorem sizeOf_interfaces_lt (d : ClassDecl) : sizeOf d.interfaces < sizeOf d := by
  cases d
  simp only [ClassDecl.mk.sizeOf_spec]
  omega

/-- The interfaces that are reached from those in a queue: the first one is taken unless it has been
seen, and those it extends in turn join the end of the queue. -/
def reached (seen : List Nat) : (queue : List ClassDecl) → List ClassDecl
  | [] => []
  | d :: queue =>
    if d.serial ∈ seen then reached seen queue
    else d :: reached (d.serial :: seen) (queue ++ d.interfaces)
termination_by queue => sizeOf queue
decreasing_by
  · simp only [List.cons.sizeOf_spec]
    omega
  · have := sizeOf_append queue d.interfaces
    have := sizeOf_interfaces_lt d
    simp only [List.cons.sizeOf_spec]
    omega

/-- The declarations that a class is made of, the closest one first. -/
def levels (d : ClassDecl) : List Level :=
  let chain := d.chain
  let queue := chain.flatMap fun l => l.decl.interfaces
  chain ++ (reached (chain.map (·.decl.serial)) queue).map fun i => ⟨i, []⟩

end ClassDecl

end WideColumn
