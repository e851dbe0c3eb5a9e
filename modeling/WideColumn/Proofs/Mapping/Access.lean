import Mathlib
import WideColumn.Proofs.Entity.Route
import WideColumn.Proofs.Mapping.Descriptor
import WideColumn.Proofs.Mapping.Hierarchy
import WideColumn.Samples.Embedded

/-!
# Which slot a property is

A property is read and written through one of its members each: through the first getter or setter
that is bound to a slot, or else through the first such field. The way to the slot leads from an
instance of the class that is mapped to one of the class with the member, through the embeddings on
the way up (`WideColumn.ClassDecl.crossing`). They are collected on this way, so that the outermost
one is the first one to be gone through.

So a property that is read and written through a field of some class up the chain *is* the slot of
this field in the instance that is embedded there: it is read from there, and written to there and
to no other place.

* `WideColumn.Draft.readingMember?`, `WideColumn.Draft.writingMember?`: the member that a property
  is read, and written, through;
* `WideColumn.ClassDecl.crossing`: the embeddings up to a class of the chain;
* `WideColumn.Property.ending_assign`: writing a property in place changes nothing if it fails;
* `WideColumn.Descriptor.access_of_field`: **a property is the slot of its field.**
-/

namespace List

/-- What is found first with a result has this result. -/
theorem findSome?_eq_bind_find? {α β : Type} (f : α → Option β) (l : List α) :
    l.findSome? f = (l.find? fun a => (f a).isSome).bind f := by
  induction l with
  | nil => rfl
  | cons a l ih =>
    rw [findSome?_cons, find?_cons]
    cases h : f a with
    | none => exact ih
    | some b => exact h.symm

end List

namespace WideColumn

namespace Draft

variable {levels : List Level} {name : String}

/-! ### Members that a property is accessed through -/

/-- The first member that is bound in the one way, or else in the other way. -/
def firstBound (f g : Level × Member → Option Route) (lms : List (Level × Member)) :
    Option (Level × Member) :=
  (lms.find? fun lm => (f lm).isSome) <|> lms.find? fun lm => (g lm).isSome

/-- **The member that a property is read through.** -/
def readingMember? (levels : List Level) (name : String) : Option (Level × Member) :=
  firstBound (readerFrom .getter) (readerFrom .field) (membersOfProperty name (scan levels))

/-- **The member that a property is written through.** -/
def writingMember? (levels : List Level) (name : String) : Option (Level × Member) :=
  firstBound (writerFrom .setter) (writerFrom .field) (membersOfProperty name (scan levels))

/-- The first one that is bound tells the way, if being bound in either way is having one. -/
theorem firstBound_bind {f g h : Level × Member → Option Route}
    (hf : ∀ lm, (f lm).isSome → f lm = h lm) (hg : ∀ lm, (g lm).isSome → g lm = h lm)
    (lms : List (Level × Member)) :
    (lms.findSome? f <|> lms.findSome? g) = (firstBound f g lms).bind h := by
  rw [firstBound, List.findSome?_eq_bind_find?, List.findSome?_eq_bind_find?]
  cases hfirst : lms.find? fun lm => (f lm).isSome with
  | some lm =>
    have hbound : (f lm).isSome := (List.find?_some hfirst :)
    obtain ⟨r, hr⟩ := Option.isSome_iff_exists.mp hbound
    change (f lm <|> _) = h lm
    rw [← hf lm hbound, hr]
    rfl
  | none =>
    change ((lms.find? fun lm => (g lm).isSome).bind g) =
      (lms.find? fun lm => (g lm).isSome).bind h
    cases hsecond : lms.find? fun lm => (g lm).isSome with
    | none => rfl
    | some lm => exact hg lm (List.find?_some hsecond :)

/-- Where a member of the given form is bound, if it is bound to a slot. Reading and writing are the
two cases of this. -/
def boundFrom (slot? : Member → Option SlotRef) (origin : MemberOrigin) (lm : Level × Member) :
    Option Route :=
  if lm.2.origin = origin then (slot? lm.2).map lm.1.route else none

/-- The first member that is bound, in one form or else in the other, tells the way. -/
theorem findSome?_boundFrom (slot? : Member → Option SlotRef) (first second : MemberOrigin)
    (lms : List (Level × Member)) :
    (lms.findSome? (boundFrom slot? first) <|> lms.findSome? (boundFrom slot? second)) =
      (firstBound (boundFrom slot? first) (boundFrom slot? second) lms).bind
        fun lm => (slot? lm.2).map lm.1.route := by
  have hbound : ∀ origin lm, (boundFrom slot? origin lm).isSome →
      boundFrom slot? origin lm = (slot? lm.2).map lm.1.route := by
    intro origin lm h
    rw [boundFrom] at h ⊢
    split_ifs at h ⊢
    · rfl
    · cases h
  exact firstBound_bind (hbound first) (hbound second) lms

/-- **Where a property is read from** is told by the member that it is read through. -/
theorem reader_declared (levels : List Level) (name : String) :
    (declared levels name).reader =
      (readingMember? levels name).bind fun lm => lm.2.reader.map lm.1.route :=
  findSome?_boundFrom (·.reader) .getter .field _

/-- Where it is written to is told by the member that it is written through. -/
theorem writer_declared (levels : List Level) (name : String) :
    (declared levels name).writer =
      (writingMember? levels name).bind fun lm => lm.2.writer.map lm.1.route :=
  findSome?_boundFrom (·.writer) .setter .field _

end Draft

namespace ClassDecl

/-! ### The way up -/

/-- **The embeddings on the way up to a class of the chain**, the outermost first. -/
def crossing (d : ClassDecl) (k : Nat) : List String :=
  (d.ancestry.take k).flatMap (·.embeddedIn.toList)

/-- The way to a class of the chain leads through the embeddings of all classes before it. -/
theorem getElem?_chainBehind {d : ClassDecl} {embeddings : List String} {k : Nat} {l : Level}
    (h : (d.chainBehind embeddings)[k]? = some l) : l.embeddings = embeddings ++ d.crossing k := by
  induction d using superclass_induction generalizing embeddings k with
  | step d ih =>
    rw [chainBehind_eq] at h
    cases k with
    | zero =>
      obtain rfl := Option.some.inj h
      exact (List.append_nil _).symm
    | succ k =>
      rw [List.getElem?_cons_succ] at h
      rw [crossing, ancestry_eq, List.take_succ_cons, List.flatMap_cons, ← List.append_assoc]
      cases hs : d.superclass with
      | none =>
        rw [hs] at h
        cases h
      | some s =>
        rw [hs] at h
        exact ih s hs h

theorem getElem?_chain {d : ClassDecl} {k : Nat} {l : Level} (h : d.chain[k]? = some l) :
    l.embeddings = d.crossing k :=
  getElem?_chainBehind h

end ClassDecl

/-! ### Properties -/

namespace Property

variable {p : Property} {e e' : Entity} {v : Value} {r : Route}

theorem get_of_reader (h : p.reader = some r) (e : Entity) :
    p.get e = (r.read e).mapError (p.accessError .read) := by
  rw [get, h]

/-- A property is written in place. -/
def assign (p : Property) (v : Value) : Entity.Update PropertyError Unit :=
  match p.writer with
  | none => throw (p.accessError .write .unsupported)
  | some r => (r.assign v).adapt (p.accessError .write)

/-- **Writing a property in place changes nothing if it fails**, and otherwise what is to be
changed. -/
theorem ending_assign (p : Property) (v : Value) (e : Entity) :
    (p.assign v).ending e = e.outcome (p.set e v) := by
  rw [assign, set]
  cases p.writer with
  | none => rfl
  | some r =>
    have hadapt : Entity.Update.ending ((r.assign v).adapt (p.accessError .write)) e =
        (((r.assign v).ending e).1.mapError (p.accessError .write), ((r.assign v).ending e).2) := rfl
    dsimp only
    rw [hadapt, r.ending_assign]
    cases r.write e v <;> rfl

end Property

namespace Descriptor

variable {d : ClassDecl} {kind : MappingKind} {config : Config} {desc : Descriptor} {p : Property}

/-- The routes of a property, where it is read and written through one member. -/
theorem routes_of_members {l l' : Level} {m m' : Member} (hkind : kind ≠ .accessor)
    (hbuild : (build d kind config).result = .ok desc) (hp : p ∈ desc.properties)
    (hreads : Draft.readingMember? d.levels p.name = some (l, m))
    (hwrites : Draft.writingMember? d.levels p.name = some (l', m')) :
    p.reader = m.reader.map l.route ∧ p.writer = m'.writer.map l'.route := by
  obtain ⟨-, hdeclared⟩ := (mem_properties_iff hkind hbuild).mp hp
  have hreader : p.reader = (Draft.declared d.levels p.name).reader :=
    congrArg Property.reader hdeclared.symm
  have hwriter : p.writer = (Draft.declared d.levels p.name).writer :=
    congrArg Property.writer hdeclared.symm
  rw [hreader, hwriter, Draft.reader_declared, Draft.writer_declared, hreads, hwrites]
  exact ⟨rfl, rfl⟩

/-- **A property is the slot of its field**, where it is read and written through a field of a class
up the chain and the embeddings on the way there apply one after the other: it has the value that
the field has there, it is written there after the conversion to the type of the slot and nowhere
else, and nothing at all is changed if this fails. -/
theorem access_of_field {k : Nat} {l : Level} {m : Member} {slot : SlotRef} {e b : Entity}
    (hkind : kind ≠ .accessor) (hbuild : (build d kind config).result = .ok desc)
    (hp : p ∈ desc.properties) (hl : d.chain[k]? = some l)
    (hreads : Draft.readingMember? d.levels p.name = some (l, m))
    (hwrites : Draft.writingMember? d.levels p.name = some (l, m))
    (hreader : m.reader = some slot) (hwriter : m.writer = some slot)
    (hlead : Route.descend? (d.crossing k) e = some b) :
    p.get e = (slot.read b).mapError (p.accessError .read) ∧
    ∀ v,
      ((∃ e', p.set e v = .ok e') ↔
        ∃ s x, slot.find b = .ok s ∧ s.type.ofValue v = .ok x) ∧
      (∀ e', p.set e v = .ok e' → (p.assign v).ending e = (.ok (), e') ∧
        ∃ s x, slot.find b = .ok s ∧ s.type.ofValue v = .ok x ∧
          p.get e' = .ok (s.type.toValue x) ∧ e'.shape = e.shape ∧
          ∀ path, e'.slot? path =
            if path = ⟨(d.crossing k).length, slot.slot⟩ then some ⟨s.name, s.type, x⟩
            else e.slot? path) ∧
      ∀ err, p.set e v = .error err → (p.assign v).ending e = (.error err, e) := by
  obtain ⟨hroute, hroute'⟩ := routes_of_members hkind hbuild hp hreads hwrites
  rw [hreader] at hroute
  rw [hwriter] at hroute'
  let r : Route := ⟨d.crossing k, slot⟩
  have hr : l.route slot = r := congrArg (Route.mk · slot) (ClassDecl.getElem?_chain hl)
  rw [Option.map_some, hr] at hroute hroute'
  obtain ⟨hreach, hcrossed⟩ := Route.reach_of_descend? hlead
  have hfind : ∀ s, slot.find b = .ok s ↔ r.slot? e = some s := by
    intro s
    rw [← Route.find_reach_eq_ok_iff, hreach]
  have hplace : r.place e = ⟨(d.crossing k).length, slot.slot⟩ :=
    congrArg (SlotPath.mk · slot.slot) hcrossed
  have hset : ∀ v e', p.set e v = .ok e' ↔ r.write e v = .ok e' := by
    intro v e'
    rw [Property.set_eq_ok_iff, hroute']
    simp only [Option.some.injEq, exists_eq_left']
  refine ⟨?_, fun v => ⟨?_, fun e' h => ?_, fun err h => ?_⟩⟩
  · rw [Property.get_of_reader hroute, Route.read, hreach]
  · simp only [hset, Route.write_eq_ok_iff, hfind]
    constructor
    · rintro ⟨e', s, x, hs, hx, -⟩
      exact ⟨s, x, hs, hx⟩
    · rintro ⟨s, x, hs, hx⟩
      exact ⟨_, s, x, hs, hx, rfl⟩
  · refine ⟨by rw [Property.ending_assign, h]; rfl, ?_⟩
    obtain ⟨s, x, hs, hx, hshape, hnew, hslots⟩ := Route.slot?_of_write ((hset v e').mp h)
    have hread : r.read e' = .ok (s.type.toValue x) := Route.read_eq_ok_iff.mpr ⟨_, hnew, rfl⟩
    refine ⟨s, x, (hfind s).mpr hs, hx, ?_, hshape, hplace ▸ hslots⟩
    rw [Property.get_of_reader hroute, hread]
    rfl
  · rw [Property.ending_assign, h]
    rfl

open Samples in
/-- The label of the counter that is embedded in a panel, behind two embeddings and a class that
embeds nothing. -/
theorem access_of_field_panel : ∃ desc p e',
    (build panel .table {}).result = .ok desc ∧ p ∈ desc.properties ∧ p.name = "label" ∧
      panel.crossing 3 = ["L2", "L1"] ∧ p.set triple.new (.text "new") = .ok e' ∧
      p.get e' = .ok (.text "new") ∧ e'.slot? ⟨1, "s"⟩ = triple.new.slot? ⟨1, "s"⟩ := by
  let label : Member := .bound "label" .field ⟨"L0", "s"⟩ string []
  let l : Level := ⟨counter, ["L2", "L1"]⟩
  have hbuild : ((build panel .table {}).result.map fun desc =>
      desc.properties.map (·.name)) = .ok ["label", "note", "count"] := by
    cbv
  obtain ⟨desc, hdesc, hnames⟩ := Except.map_eq_ok_iff.mp hbuild
  have hlabel : "label" ∈ desc.properties.map (·.name) := hnames ▸ List.mem_cons_self
  obtain ⟨p, hp, hname⟩ := List.mem_map.mp hlabel
  have hlevels : panel.levels =
      [⟨panel, []⟩, ⟨dial, ["L2"]⟩, ⟨meter, ["L2"]⟩, l, ⟨counted, []⟩] := by
    simp [ClassDecl.levels, ClassDecl.chain, ClassDecl.chainBehind_eq, ClassDecl.reached, l, panel,
      dial, meter, counter, counted, linked]
  have hreads : Draft.readingMember? panel.levels p.name = some (l, label) := by
    rw [hname, hlevels]
    rfl
  have hwrites : Draft.writingMember? panel.levels p.name = some (l, label) := by
    rw [hname, hlevels]
    rfl
  have hl : panel.chain[3]? = some l := rfl
  have hlead : Route.descend? (panel.crossing 3) triple.new = some single.new := rfl
  obtain ⟨-, hset⟩ := access_of_field (by decide) hdesc hp hl hreads hwrites
    rfl rfl hlead
  obtain ⟨hok, hwritten, -⟩ := hset (.text "new")
  obtain ⟨e', he'⟩ := hok.mpr ⟨⟨"s", string, ""⟩, "new", rfl, rfl⟩
  obtain ⟨-, s, x, hs, hx, hget, -, hslots⟩ := hwritten e' he'
  cases hs
  cases hx
  refine ⟨desc, p, e', hdesc, hp, hname, rfl, he', hget, ?_⟩
  rw [hslots]
  rfl

end Descriptor

end WideColumn
