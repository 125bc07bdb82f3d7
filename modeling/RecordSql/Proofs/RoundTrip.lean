import RecordSql.Generate
import RecordSql.Proofs.Printing
import RecordSql.Proofs.Reading

/-!
# `RecordSql.Proofs.RoundTrip`: output that is read back

The tables and the catalogs of a run are written as documents that can be decoded again
(`Generate.render_decodes`). Three things come together: what is printed is a document of the
list of values (`isDocument_printLines`), the reader finds these values again
(`IsDocument.read?_eq`), and each value decodes to what it was made from (`table?_ofTable`,
`catalog?_ofCatalog`). Texts may have any characters. Sizes and numbers of nodes must be those
of 64 bits, as decoding takes no others.
-/

set_option autoImplicit false

namespace RecordSql

/-! ### Sizes -/

/-- The numbers of a column have 64 bits. -/
structure Field.Sized (f : Field) : Prop where
  node : f.node < Document.sizeBound
  size : f.size < Document.sizeBound

/-- The numbers of all columns that a table holds, also in its indexes and foreign keys, have
64 bits. -/
structure Table.Sized (t : Table) : Prop where
  fields : ∀ f ∈ t.fields, f.Sized
  primary : ∀ f ∈ t.primary, f.Sized
  indexes : ∀ ix ∈ t.indexes, ∀ f ∈ ix.fields, f.Sized
  foreignKeys : ∀ k ∈ t.foreignKeys, ∀ f ∈ k.fromFields, f.Sized

namespace Document

open RecordSql.Table (SqlType)
open RecordSql.Tag (Operator)

/-! ### Structures and lists -/

/-- If each item has a result, the items have the list of the results. -/
theorem mapM_eq_some_map {α β : Type} {f : α → Option β} {g : α → β} {xs : List α}
    (h : ∀ x ∈ xs, f x = some (g x)) : xs.mapM f = some (xs.map g) := by
  induction xs with
  | nil => rfl
  | cons x xs ih =>
    rw [List.mapM_cons, h x List.mem_cons_self, ih fun y hy => h y (List.mem_cons_of_mem x hy)]
    rfl

/-- A key that does not repeat has one entry. -/
theorem filter_key_eq {es : List (String × Value)} (h : (es.map (·.1)).Nodup)
    {e : String × Value} (he : e ∈ es) : es.filter (·.1 == e.1) = [e] := by
  induction es with
  | nil => cases he
  | cons f es ih =>
    obtain ⟨hf, hes⟩ := List.nodup_cons.mp h
    rcases List.mem_cons.mp he with rfl | he
    · have hnone : es.filter (·.1 == e.1) = [] := by
        refine List.filter_eq_nil_iff.mpr fun g hg hkey => hf ?_
        exact List.mem_map.mpr ⟨g, hg, beq_iff_eq.mp hkey⟩
      rw [List.filter_cons, if_pos (beq_self_eq_true e.1), hnone]
    · have hne : f.1 ≠ e.1 := fun heq => hf (List.mem_map.mpr ⟨e, he, heq.symm⟩)
      rw [List.filter_cons, if_neg (by simpa using hne), ih hes he]

/-- An object with the keys of a structure in their order has the fields of the structure. -/
theorem slots?_object {es : List (String × Value)} {names : List String}
    (hnames : es.map (·.1) = names) (h : names.Nodup) :
    (Value.object es).slots? names = some (es.map fun e => some e.2) := by
  subst hnames
  show (es.map (·.1)).mapM (fun name => atMostOne? (es.filter (·.1 == name))) = _
  rw [List.mapM_map]
  refine mapM_eq_some_map fun e he => ?_
  show atMostOne? (es.filter (·.1 == e.1)) = _
  rw [filter_key_eq h he]
  rfl

/-- A list is decoded if its items are. -/
theorem list?_map {α ι : Type} {decode : Value → Option α} {encode : ι → Value} {get : ι → α}
    {xs : List ι} (h : ∀ x ∈ xs, decode (encode x) = some (get x)) :
    (Value.array (xs.map encode)).list? decode = some (xs.map get) := by
  show (xs.map encode).mapM decode = _
  rw [List.mapM_map]
  exact mapM_eq_some_map h

/-- A list is read back if its items are. -/
theorem list?_array {α : Type} {decode : Value → Option α} {encode : α → Value} {xs : List α}
    (h : ∀ x ∈ xs, decode (encode x) = some x) :
    (Value.array (xs.map encode)).list? decode = some xs := by
  rw [list?_map h, List.map_id']

/-! ### Tables -/

/-- The name of a column type is that of no other. -/
theorem ofName?_name (type : SqlType) : SqlType.ofName? type.name = some type := by
  cases type <;> decide

/-- A comparison is read back, also one whose function has the name of another comparison. -/
theorem operator?_ofOperator (operator : Operator) :
    operator? (ofOperator operator) = some operator := by
  cases operator <;> rfl

/-- A column is read back. -/
theorem field?_ofField {f : Field} (h : f.Sized) : field? (ofField f) = some f := by
  have hslots : (ofField f).slots? fieldKeys = _ := slots?_object rfl (by decide)
  have hnode : Value.size? (.natural f.node) = some f.node := if_pos h.node
  have hsize : Value.size? (.natural f.size) = some f.size := if_pos h.size
  have htype : Value.choice? SqlType.ofName? (.string f.type.name) = some f.type :=
    ofName?_name f.type
  rw [field?, hslots]
  simp [required, hnode, hsize, htype, operator?_ofOperator, Value.string?, Value.bool?]

/-- The columns of a list are read back. -/
theorem list?_ofField {fs : List Field} (h : ∀ f ∈ fs, f.Sized) :
    (Value.array (fs.map ofField)).list? field? = some fs :=
  list?_array fun f hf => field?_ofField (h f hf)

/-- A list of texts is read back. -/
theorem list?_string (texts : List String) :
    (Value.array (texts.map .string)).list? Value.string? = some texts :=
  list?_array fun _ _ => rfl

/-- An index is read back. -/
theorem index?_ofIndex {ix : Index} (h : ∀ f ∈ ix.fields, f.Sized) :
    index? (ofIndex ix) = some ix := by
  have hslots : (ofIndex ix).slots? indexKeys = _ := slots?_object rfl (by decide)
  rw [index?, hslots]
  simp [required, list?_ofField h, Value.string?, Value.bool?]

/-- A foreign key is read back. -/
theorem foreignKey?_ofForeignKey {k : ForeignKey} (h : ∀ f ∈ k.fromFields, f.Sized) :
    foreignKey? (ofForeignKey k) = some k := by
  have hslots : (ofForeignKey k).slots? foreignKeyKeys = _ := slots?_object rfl (by decide)
  rw [foreignKey?, hslots]
  simp [required, list?_ofField h, list?_string, Value.string?, Value.bool?]

/-- A table is read back. -/
theorem table?_ofTable {t : Table} (h : t.Sized) : table? (ofTable t) = some t := by
  have hslots : (ofTable t).slots? tableKeys = _ := slots?_object rfl (by decide)
  have hindexes : (Value.array (t.indexes.map ofIndex)).list? index? = some t.indexes :=
    list?_array fun ix hix => index?_ofIndex (h.indexes ix hix)
  have hforeignKeys : (Value.array (t.foreignKeys.map ofForeignKey)).list? foreignKey?
      = some t.foreignKeys :=
    list?_array fun k hk => foreignKey?_ofForeignKey (h.foreignKeys k hk)
  rw [table?, hslots]
  simp [required, list?_ofField h.fields, list?_ofField h.primary, hindexes, hforeignKeys,
    Value.string?]

/-! ### Catalogs -/

/-- A statement is read back. -/
theorem statement?_ofStatement (s : Statement) : statement? (ofStatement s) = some s := by
  have hslots : (ofStatement s).slots? statementKeys = _ := slots?_object rfl (by decide)
  have hkind : Value.choice? StatementKind.ofName? (.string s.kind.name) = some s.kind := by
    cases s.kind <;> decide
  rw [statement?, hslots]
  simp [required, hkind, Value.string?]

/-- A catalog is read back. -/
theorem catalog?_ofCatalog (c : Catalog) : catalog? (ofCatalog c) = some c := by
  have hslots : (ofCatalog c).slots? catalogKeys = _ := slots?_object rfl (by decide)
  have hstatements : (Value.array (c.statements.map ofStatement)).list? statement?
      = some c.statements :=
    list?_array fun s _ => statement?_ofStatement s
  rw [catalog?, hslots]
  simp [required, hstatements, Value.string?]

/-! ### Nesting -/

variable {room : Nat}

/-- A number of 64 bits can be written. -/
theorem fits_natural {n : Nat} (h : n < sizeBound) : (Value.natural n).Fits room :=
  .natural (Numeral.overflows_toDigits h)

/-- A comparison has one object at most. -/
theorem fits_ofOperator (operator : Operator) : (ofOperator operator).Fits (room + 1) := by
  cases operator with
  | equal => exact .string
  | like => exact .string
  | call function => exact .object (List.forall_mem_singleton.mpr .string)

/-- Lists have one array more than their items. -/
theorem fits_list {α : Type} {encode : α → Value} {xs : List α}
    (h : ∀ x ∈ xs, (encode x).Fits room) : (Value.array (xs.map encode)).Fits (room + 1) :=
  .array (List.forall_mem_map.mpr h)

/-- A column has two levels of nesting. -/
theorem fits_ofField {f : Field} (h : f.Sized) : (ofField f).Fits (room + 2) := by
  refine .object ?_
  simp only [List.forall_mem_cons]
  exact ⟨fits_natural h.node, .string, .string, .bool, .bool, fits_natural h.size,
    fits_ofOperator f.operator, .bool, by simp⟩

/-- An index has four levels of nesting. -/
theorem fits_ofIndex {ix : Index} (h : ∀ f ∈ ix.fields, f.Sized) :
    (ofIndex ix).Fits (room + 4) := by
  refine .object ?_
  simp only [List.forall_mem_cons]
  exact ⟨.string, .bool, fits_list fun f hf => fits_ofField (h f hf), by simp⟩

/-- A foreign key has four levels of nesting. -/
theorem fits_ofForeignKey {k : ForeignKey} (h : ∀ f ∈ k.fromFields, f.Sized) :
    (ofForeignKey k).Fits (room + 4) := by
  refine .object ?_
  simp only [List.forall_mem_cons]
  exact ⟨.string, .string, fits_list fun _ _ => .string, fits_list fun _ _ => .string,
    fits_list fun f hf => fits_ofField (h f hf), .bool, by simp⟩

/-- A table has six levels of nesting. -/
theorem fits_ofTable {t : Table} (h : t.Sized) : (ofTable t).Fits (room + 6) := by
  refine .object ?_
  simp only [List.forall_mem_cons]
  exact ⟨.string, fits_list fun f hf => fits_ofField (h.fields f hf),
    fits_list fun f hf => fits_ofField (h.primary f hf),
    fits_list fun ix hix => fits_ofIndex (h.indexes ix hix),
    fits_list fun k hk => fits_ofForeignKey (h.foreignKeys k hk), by simp⟩

/-- A catalog has three levels of nesting. -/
theorem fits_ofCatalog (c : Catalog) : (ofCatalog c).Fits (room + 3) := by
  have hstatement : ∀ s : Statement, (ofStatement s).Fits (room + 1) := by
    intro s
    refine .object ?_
    simp only [List.forall_mem_cons]
    exact ⟨.string, .string, .string, by simp⟩
  refine .object ?_
  simp only [List.forall_mem_cons]
  exact ⟨.string, fits_list fun s _ => hstatement s, by simp⟩

/-- A printed list of values is a document that the reader reads to its end, if the nesting of
the values leaves one level to the list. -/
theorem read?_printLines {vs : List Value} (h : ∀ v ∈ vs, v.Fits room)
    (hroom : room + 1 = nestingLimit) :
    IsDocument (printLines vs) (.array vs) ∧
      read? nestingLimit (printLines vs) = some ⟨.array vs, true⟩ := by
  have hdocument := isDocument_printLines h
  exact ⟨hdocument, hdocument.read?_eq (hroom ▸ .array h)⟩

end Document

namespace Generate

open RecordSql.Document (IsDocument catalog? nestingLimit read? table?)

/-- The output of a run as a document of catalogs or of tables is a text of the JSON grammar
that is read to its end and decodes to the same list: the same catalogs or tables, in the same
order and number, with all they have. This holds for any catalogs, and for any tables whose
sizes and numbers of nodes have 64 bits; nothing is asked of the characters in their texts. -/
theorem render_decodes (gs : List Generated) :
    (∃ v, IsDocument (render .json gs) v ∧
      read? nestingLimit (render .json gs) = some ⟨v, true⟩ ∧
      v.list? catalog? = some (gs.map (·.catalog))) ∧
    ((∀ g ∈ gs, g.table.Sized) →
      ∃ v, IsDocument (render .model gs) v ∧
        read? nestingLimit (render .model gs) = some ⟨v, true⟩ ∧
        v.list? table? = some (gs.map (·.table))) := by
  constructor
  · have hfits : ∀ v ∈ gs.map fun g => Document.ofCatalog g.catalog, v.Fits (123 + 3) :=
      List.forall_mem_map.mpr fun g _ => Document.fits_ofCatalog g.catalog
    obtain ⟨hdocument, hread⟩ := Document.read?_printLines hfits rfl
    exact ⟨_, hdocument, hread,
      Document.list?_map fun g _ => Document.catalog?_ofCatalog g.catalog⟩
  · intro hsized
    have hfits : ∀ v ∈ gs.map fun g => Document.ofTable g.table, v.Fits (120 + 6) :=
      List.forall_mem_map.mpr fun g hg => Document.fits_ofTable (hsized g hg)
    obtain ⟨hdocument, hread⟩ := Document.read?_printLines hfits rfl
    exact ⟨_, hdocument, hread,
      Document.list?_map fun g hg => Document.table?_ofTable (hsized g hg)⟩

/-- A table with the greatest numbers, a comparison by a function that has the name of another
comparison, and texts with quotes, backslashes, control characters and other letters. -/
def unusual : Generated where
  table :=
    let field : Field :=
      { node := 2 ^ 64 - 1, name := "\t\"é\\", type := .long, size := 2 ^ 64 - 1
        operator := .call "Like", valueFirst := true }
    { name := "", fields := [field], primary := [field],
      indexes := [{ name := "\x01\n", unique := true, fields := [field, field] }],
      foreignKeys := [{ name := "ß", toTable := "/", fromColumns := ["\x7f"], toColumns := [],
                        fromFields := [field], many := true }] }
  catalog := { table := "\x00", statements := [{ label := "😀", kind := .query, sql := "\r" }] }

/-- Such a table is read back as well. -/
theorem render_decodes_unusual :
    unusual.table.Sized ∧ ∃ v, IsDocument (render .model [unusual]) v ∧
      read? nestingLimit (render .model [unusual]) = some ⟨v, true⟩ ∧
      v.list? table? = some [unusual.table] := by
  have hfield : ∀ f ∈ unusual.table.fields, f.Sized :=
    List.forall_mem_singleton.mpr ⟨by decide, by decide⟩
  have hsized : unusual.table.Sized := by
    have hcopies : ∀ f ∈ unusual.table.fields ++ unusual.table.fields, f.Sized :=
      List.forall_mem_append.mpr ⟨hfield, hfield⟩
    exact ⟨hfield, hfield, List.forall_mem_singleton.mpr hcopies,
      List.forall_mem_singleton.mpr hfield⟩
  exact ⟨hsized, (render_decodes [unusual]).2 (List.forall_mem_singleton.mpr hsized)⟩

end Generate

end RecordSql
