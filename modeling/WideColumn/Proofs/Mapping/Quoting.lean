import Mathlib
import WideColumn.Proofs.Mapping.Naming

/-!
# Names in quotes

A name that is written with regard to case stands between quotes, and may hold quotes itself. Who
reads the statement in which it stands goes from left to right: behind the opening quote, two quotes
are one quote of the name, and a quote that is not followed by another one is the closing one
(`WideColumn.Identifier.readQuoted`). A name with quotes at its ends, or with many in a row, puts them
next to the quotes around it, and nothing but their number tells them apart.

Here this reader is shown to accept what is put in quotes and nothing else
(`WideColumn.Identifier.readQuoted_eq_some_iff`). So a name cannot end its own quotes, two names are
never written alike, and what follows a name in a statement is read as what follows.

* `WideColumn.Identifier.readQuoted`: **the reader** of names in quotes;
* `WideColumn.Identifier.IsQuoted`: a text is one name in quotes;
* `WideColumn.Descriptor.QuotesNames`: the names of a descriptor that a class gives with regard to
  case are in quotes;
* `WideColumn.Descriptor.quote_reads_back`: **no name breaks out of its quotes**, be it by itself or
  in a descriptor.
-/

namespace WideColumn

namespace Identifier

variable {cs name rest : List Char}

/-! ### The reader -/

/-- What stands behind an opening quote, up to the closing one, and what follows. -/
def readInside : List Char → Option (List Char × List Char)
  | [] => none
  | '"' :: '"' :: cs => (readInside cs).map fun p => ('"' :: p.1, p.2)
  | '"' :: cs => some ([], cs)
  | c :: cs => (readInside cs).map fun p => (c :: p.1, p.2)

/-- The name in quotes at the start of a text, and what follows. -/
def readQuoted : List Char → Option (List Char × List Char)
  | '"' :: cs => readInside cs
  | _ => none

/-- **A text is one name in quotes**: it is read as a whole, and as this name. -/
def IsQuoted (text name : String) : Prop :=
  readQuoted text.toList = some (name.toList, [])

/-! ### What is read -/

theorem readInside_cons {c : Char} (hc : c ≠ '"') (cs : List Char) :
    readInside (c :: cs) = (readInside cs).map fun p => (c :: p.1, p.2) := by
  rw [readInside]
  · exact fun _ h => absurd h hc
  · exact hc

theorem readInside_quote (h : rest.head? ≠ some '"') :
    readInside ('"' :: rest) = some ([], rest) := by
  rw [readInside]
  rintro cs rfl
  exact h rfl

/-- **What is doubled is read as it was**: its quotes are read in pairs, from the left, so that the
closing quote is the first one that is left over. -/
theorem readInside_double (cs : List Char) (h : rest.head? ≠ some '"') :
    readInside (double cs ++ '"' :: rest) = some (cs, rest) := by
  induction cs with
  | nil => exact readInside_quote h
  | cons c cs ih =>
    rw [double]
    split_ifs with hc
    · rw [List.cons_append, List.cons_append, readInside, ih, hc]
      rfl
    · rw [List.cons_append, readInside_cons hc, ih]
      rfl

/-- **What is read was doubled**, up to a quote that stands alone. -/
theorem eq_double_of_readInside (h : readInside cs = some (name, rest)) :
    cs = double name ++ '"' :: rest ∧ rest.head? ≠ some '"' := by
  fun_induction readInside cs generalizing name with
  | case1 => cases h
  | case2 cs ih =>
    obtain ⟨p, hp, heq⟩ := Option.map_eq_some_iff.mp h
    obtain ⟨rfl, rfl⟩ := Prod.mk.inj heq
    obtain ⟨hcs, hrest⟩ := ih hp
    refine ⟨?_, hrest⟩
    rw [double, if_pos rfl, List.cons_append, List.cons_append, ← hcs]
  | case3 cs halone =>
    obtain ⟨rfl, rfl⟩ := Prod.mk.inj (Option.some.inj h)
    refine ⟨rfl, fun hquote => ?_⟩
    obtain ⟨ds, rfl⟩ := List.head?_eq_some_iff.mp hquote
    exact halone ds rfl
  | case4 c cs _ hc ih =>
    obtain ⟨p, hp, heq⟩ := Option.map_eq_some_iff.mp h
    obtain ⟨rfl, rfl⟩ := Prod.mk.inj heq
    obtain ⟨hcs, hrest⟩ := ih hp
    refine ⟨?_, hrest⟩
    rw [double, if_neg hc, List.cons_append, ← hcs]

/-- **The reader accepts what is put in quotes and nothing else**, and stops behind it. -/
theorem readQuoted_eq_some_iff :
    readQuoted cs = some (name, rest) ↔ cs = quoteChars name ++ rest ∧ rest.head? ≠ some '"' := by
  have hchars : quoteChars name ++ rest = '"' :: (double name ++ '"' :: rest) := by
    simp [quoteChars]
  rw [hchars]
  constructor
  · intro h
    unfold readQuoted at h
    split at h
    · obtain ⟨hcs, hrest⟩ := eq_double_of_readInside h
      exact ⟨congrArg _ hcs, hrest⟩
    · cases h
  · rintro ⟨rfl, hrest⟩
    exact readInside_double name hrest

/-- **A text is a name in quotes** exactly if it is this name, put in quotes. -/
theorem isQuoted_iff {text name : String} : IsQuoted text name ↔ text = quote name := by
  rw [IsQuoted, readQuoted_eq_some_iff, List.append_nil, quote, ← String.toList_inj,
    String.toList_ofList]
  exact and_iff_left (by simp)

/-- Two names are never written alike. -/
theorem quote_injective : Function.Injective quote := by
  intro a b hab
  have ha : IsQuoted (quote a) a := isQuoted_iff.mpr rfl
  have hb : IsQuoted (quote a) b := isQuoted_iff.mpr hab
  exact String.toList_inj.mp (congrArg Prod.fst (Option.some.inj (ha.symm.trans hb)))

/-- A name that is given with regard to case is written in quotes. -/
theorem isQuoted_of_written? {given otherwise : Option String} {text name : String}
    (htext : some text = written? given true otherwise)
    (hname : Descriptor.nonEmpty given = some name) : IsQuoted text name := by
  rw [written?_of_nonEmpty hname] at htext
  exact isQuoted_iff.mpr (Option.some.inj htext)

end Identifier

/-! ### Descriptors -/

namespace Descriptor

variable {d : ClassDecl} {kind : MappingKind} {config : Config} {desc : Descriptor}

/-- **The names that a class gives with regard to case are in quotes** in its descriptor: each of
them is a single name to a reader, and the one that is given. -/
structure QuotesNames (d : ClassDecl) (kind : MappingKind) (desc : Descriptor) : Prop where
  /-- The keyspace that the marker of the class names. -/
  keyspace : ∀ name, (entityName d kind).caseSensitiveKeyspace →
    nonEmpty (entityName d kind).keyspace = some name →
    ∃ text, desc.keyspace = some text ∧ Identifier.IsQuoted text name
  /-- The table or user-defined type that the marker of the class names. -/
  name : ∀ name, (entityName d kind).caseSensitiveName →
    nonEmpty (entityName d kind).name = some name →
    ∃ text, desc.name = some text ∧ Identifier.IsQuoted text name
  /-- The columns or fields that the markers of the properties name. -/
  columnName : ∀ p ∈ desc.properties, ∀ name, (d.givenColumn p.name).caseSensitive →
    nonEmpty (d.givenColumn p.name).name = some name →
    Identifier.IsQuoted p.columnName name

/-- Accessors have no names and no properties. -/
theorem properties_of_build_accessor (h : (build d .accessor config).result = .ok desc) :
    desc.properties = [] := by
  obtain ⟨-, -, h⟩ := Traced.result_bind_eq_ok_iff.mp h
  obtain ⟨queries, -, h⟩ := Traced.result_bind_eq_ok_iff.mp h
  obtain ⟨-, -, h⟩ := Traced.result_bind_eq_ok_iff.mp h
  obtain rfl := Traced.result_pure_eq_ok_iff.mp h
  rfl

/-- The marker of an accessor gives no names. -/
theorem entityName_accessor (d : ClassDecl) : entityName d .accessor = {} := by
  rw [entityName]
  cases hm : d.markers.find? (·.kind == .accessor) with
  | none => rfl
  | some m =>
    have hkind : m.kind = .accessor := eq_of_beq (List.find?_some hm :)
    cases m with
    | accessor => rfl
    | _ => cases hkind

theorem quotesNames_accessor (h : (build d .accessor config).result = .ok desc) :
    desc.QuotesNames d .accessor where
  keyspace name hcase := by simp [entityName_accessor] at hcase
  name name hcase := by simp [entityName_accessor] at hcase
  columnName p hp := by simp [properties_of_build_accessor h] at hp

/-- **Every descriptor quotes the names** that are given with regard to case. -/
theorem quotesNames_of_build (h : (build d kind config).result = .ok desc) :
    desc.QuotesNames d kind := by
  by_cases hkind : kind = .accessor
  · subst hkind
    exact quotesNames_accessor h
  obtain ⟨-, -, partition, clustering, keyspace, -, -, hkeyspace, hdesc⟩ :=
    (result_build_eq_ok_iff hkind).mp h
  refine ⟨fun name hcase hgiven => ?_, fun name hcase hgiven => ?_, fun p hp name hcase hgiven => ?_⟩
  · rw [resolveKeyspace_eq_ok_iff, hcase, Identifier.written?_of_nonEmpty hgiven,
      Option.some_or] at hkeyspace
    exact ⟨keyspace, by rw [hdesc],
      Identifier.isQuoted_iff.mpr (Option.some.inj hkeyspace).symm⟩
  · have hname := some_resolveName d kind
    rw [hcase] at hname
    exact ⟨resolveName d kind, by rw [hdesc], Identifier.isQuoted_of_written? hname hgiven⟩
  · have hcolumn := columnName_eq_of_build hkind h hp
    rw [hcase] at hcolumn
    -- where there is an expression, no column is named
    cases he : d.expression? p.name with
    | none =>
      rw [he, Option.none_or] at hcolumn
      exact Identifier.isQuoted_of_written? hcolumn hgiven
    | some e =>
      rw [givenColumn_eq_of_expression? hkind h hp he] at hgiven
      cases hgiven

/-- **No name breaks out of its quotes.** A reader of statements takes every name in quotes for one
name, the one that was put in quotes, and stops at its end whatever follows, unless this goes on with
a quote; so two names are never written alike. And in every descriptor this is how the keyspace, the
table or user-defined type and each column or field are written whose names the class gives with
regard to case. -/
theorem quote_reads_back :
    (∀ name, Identifier.IsQuoted (Identifier.quote name) name) ∧
    (∀ (name : String) (rest : List Char), rest.head? ≠ some '"' →
      Identifier.readQuoted ((Identifier.quote name).toList ++ rest) = some (name.toList, rest)) ∧
    Function.Injective Identifier.quote ∧
    ∀ (d : ClassDecl) (kind : MappingKind) (config : Config) (desc : Descriptor),
      (build d kind config).result = .ok desc → desc.QuotesNames d kind := by
  refine ⟨fun name => Identifier.isQuoted_iff.mpr rfl, fun name rest hrest => ?_,
    Identifier.quote_injective, fun d kind config desc => quotesNames_of_build⟩
  rw [Identifier.quote, String.toList_ofList]
  exact Identifier.readQuoted_eq_some_iff.mpr ⟨rfl, hrest⟩

/-- A name with quotes at both ends, and a table of readings, whose name and one of whose columns
are in quotes. -/
theorem quote_reads_back_reading :
    Identifier.IsQuoted "\"\"\"a\"\"\"" "\"a\"" ∧
    ∃ desc : Descriptor, (build (Samples.reading.decl 1) .table {}).result = .ok desc ∧
      desc.QuotesNames (Samples.reading.decl 1) .table ∧ desc.name = some "\"Readings\"" ∧
      Identifier.IsQuoted "\"Readings\"" "Readings" := by
  have hquoted : Identifier.quote "\"a\"" = "\"\"\"a\"\"\"" := by
    decide
  have hgiven : entityName (Samples.reading.decl 1) .table = ⟨some "Telemetry", some "Readings",
      false, true⟩ := by
    cbv
  have hbuild : ((build (Samples.reading.decl 1) .table {}).result.map (·.name)) =
      .ok (some "\"Readings\"") := by
    cbv
  obtain ⟨desc, h, hname⟩ := Except.map_eq_ok_iff.mp hbuild
  have hnames := quote_reads_back.2.2.2 _ _ _ desc h
  obtain ⟨text, htext, hread⟩ := hnames.name "Readings" (by rw [hgiven]) (by rw [hgiven]; rfl)
  obtain rfl : text = "\"Readings\"" := Option.some.inj (htext.symm.trans hname)
  exact ⟨hquoted ▸ quote_reads_back.1 "\"a\"", desc, h, hnames, hname, hread⟩

end Descriptor

end WideColumn
