import RecordSql.CommandLine.Execute
import RecordSql.Proofs.Accounts
import RecordSql.Proofs.Structures

/-!
# `RecordSql.Proofs.Denotations`: which documents describe a record

A definition can be written in many ways: each field in it as an object or as a list, and its
annotations as well, keys in any order, unknown keys anywhere, defaults left out or not.
`Denotes` says which values these are. It is a relation on the structure of the definition, so
that each part of it is written on its own. The decoder accepts these values and no others
(`nested?_eq_some_iff`).

A spelling of a definition (`IsSpelling`) is a text of such a value with no more nesting than the
reader allows. `spellings_agree` says that all spellings of a definition are read as the same
tree, so that a run does the same on each of them. Without deep values under unknown keys, the
nesting of a spelling is at most twice that of the definition (`Denotes.depth_le`).
-/

set_option autoImplicit false

namespace RecordSql.Record.Nested

mutual

/-- How deep definitions are nested in a definition, with itself. -/
def depth : Nested → Nat
  | field _ _ _ _ ds => depthAll ds + 1

/-- How deep definitions are nested in several of them. -/
def depthAll : List Nested → Nat
  | [] => 0
  | d :: ds => max d.depth (depthAll ds)

end

end RecordSql.Record.Nested

namespace RecordSql.Document

open RecordSql.Record (Kind Nested Tags)

variable {Unknown : Value → Prop}

/-! ### Kinds and annotations -/

/-- The name of a kind is that of no other. -/
theorem ofName?_eq_some_iff (s : String) (k : Kind) : Kind.ofName? s = some k ↔ s = k.name := by
  constructor
  · intro h
    unfold Kind.ofName? at h
    have hname := List.find?_some h
    exact (beq_iff_eq.mp hname).symm
  · rintro rfl
    cases k <;> decide

/-- What the annotations may be written as, in order. -/
def annotations (t : Tags) : List (Option Value → Prop) :=
  let flag := fun b slot => OrDefault false DenotesFlag slot b
  let text := fun s slot => OrDefault none (OrNull DenotesText) slot s
  [flag t.skip, text t.name, flag t.primary, flag t.auto,
    fun slot => OrDefault 0 DenotesSize slot t.size, text t.type, text t.index, text t.unique,
    text t.foreign, text t.foreignGroup, flag t.many, text t.tableName]

/-- The value denotes the annotations. -/
def DenotesTags (Unknown : Value → Prop) (v : Value) (t : Tags) : Prop :=
  ∃ slots, v.HasSlots Unknown tagKeys slots ∧
    List.Forall₂ (fun holds slot => holds slot) (annotations t) slots

/-- More may be allowed under unknown keys. -/
theorem DenotesTags.mono {Unknown' : Value → Prop} (hmono : ∀ w, Unknown w → Unknown' w)
    {v : Value} {t : Tags} (h : DenotesTags Unknown v t) : DenotesTags Unknown' v t := by
  obtain ⟨slots, hslots, hannotations⟩ := h
  exact ⟨slots, hslots.mono hmono, hannotations⟩

/-- A truth value or none is read. -/
theorem flag_eq_some_iff {slot : Option Value} {b : Bool} :
    optional false Value.bool? slot = some b ↔ OrDefault false DenotesFlag slot b :=
  optional_eq_some_iff fun v => bool?_eq_some_iff v b

/-- Text, null or none is read. -/
theorem text_eq_some_iff {slot : Option Value} {s : Option String} :
    optional none (Value.nullable? Value.string?) slot = some s
      ↔ OrDefault none (OrNull DenotesText) slot s :=
  optional_eq_some_iff fun _ => nullable?_eq_some_iff string?_eq_some_iff rfl

/-- Annotations are decoded. -/
theorem tags?_eq_some_iff (v : Value) (t : Tags) :
    tags? v = some t ↔ DenotesTags (fun _ => True) v t := by
  have hsize : ∀ {slot n}, optional 0 Value.size? slot = some n ↔ OrDefault 0 DenotesSize slot n :=
    optional_eq_some_iff fun v => size?_eq_some_iff v _
  have hkeys : tagKeys.Nodup := by decide
  unfold tags? DenotesTags annotations
  rw [Option.bind_eq_bind, Option.bind_eq_some_iff]
  refine exists_congr fun slots => ?_
  rw [slots?_eq_some_iff hkeys]
  refine and_congr_right fun hslots => ?_
  have hlength : slots.length = 12 := hslots.length_eq
  match slots, hlength with
  | [_, _, _, _, _, _, _, _, _, _, _, _], _ =>
    obtain ⟨⟩ := t
    simp only [Option.bind_eq_bind, Option.bind_eq_some_iff, Option.pure_def, Option.some.injEq,
      Tags.mk.injEq, flag_eq_some_iff, text_eq_some_iff, hsize, List.forall₂_cons,
      List.Forall₂.nil, and_true, existsAndEq]

/-! ### Definitions -/

/-- The value denotes the definition. Each field inside it is written on its own. -/
inductive Denotes (Unknown : Value → Prop) : Value → Nested → Prop where
  | field {v : Value} {name typeName : String} {kind : Option Kind} {tags : Option Tags}
      {ds : List Nested} {kindSlot tagsSlot childrenSlot : Option Value}
      (hslots : v.HasSlots Unknown nestedKeys
        [some (.string name), some (.string typeName), kindSlot, tagsSlot, childrenSlot])
      (hkind : OrDefault none (OrNull (DenotesName Kind.name)) kindSlot kind)
      (htags : OrDefault none (OrNull (DenotesTags Unknown)) tagsSlot tags)
      (hchildren : OrDefault [] (ListOf (Denotes Unknown)) childrenSlot ds) :
      Denotes Unknown v (.field name typeName kind tags ds)

/-- The definitions under the key `children` are those of the slot of that name. -/
theorem childrenOfEntries?_eq (entries : List (String × Value)) :
    childrenOfEntries? entries
      = optional [] nestedList? ((entries.find? (·.1 == "children")).map (·.2)) := by
  induction entries with
  | nil => rfl
  | cons e entries ih =>
    obtain ⟨key, v⟩ := e
    rw [childrenOfEntries?, List.find?_cons]
    by_cases hkey : key = "children"
    · rw [if_pos hkey, beq_iff_eq.mpr hkey]
      rfl
    · rw [if_neg hkey, beq_eq_false_iff_ne.mpr hkey, ih]

/-- The definitions at a position are those of the item there. -/
theorem childrenOfItems?_eq (items : List Value) (position : Nat) :
    childrenOfItems? position items = optional [] nestedList? items[position]? := by
  induction items generalizing position with
  | nil => cases position <;> rfl
  | cons v items ih =>
    cases position with
    | zero => rfl
    | succ position => rw [childrenOfItems?, ih, List.getElem?_cons_succ]

/-- The children of a definition are read from the last one of its slots. -/
theorem nested?_of_slots {v : Value} {slots : List (Option Value)}
    (h : v.slots? nestedKeys = some slots) :
    nested? v = (optional [] nestedList? (slots.getD 4 none)).bind (assemble? slots) := by
  cases v with
  | array items =>
    obtain ⟨-, rfl⟩ : items.length ≤ nestedKeys.length ∧
        items.map some ++ List.replicate (nestedKeys.length - items.length) none = slots := by
      simpa [Value.slots?] using h
    show ((Value.array items).slots? nestedKeys).bind (fun slots =>
      (childrenOfItems? 4 items).bind (assemble? slots)) = _
    rw [h, childrenOfItems?_eq, getD_map_some_append]
    rfl
  | object entries =>
    have hsearch : nestedKeys.mapM (fun name => atMostOne? (entries.filter (·.1 == name)))
      = some slots := h
    simp only [mapM_eq_some_iff, nestedKeys, List.forall₂_cons_left_iff] at hsearch
    obtain ⟨_, _, -, ⟨_, _, -, ⟨_, _, -, ⟨_, _, -, ⟨slot, _, hslot, -, rfl⟩, rfl⟩, rfl⟩, rfl⟩,
      rfl⟩ := hsearch
    have hfind : (entries.find? (·.1 == "children")).map (·.2) = slot := by
      rw [← List.head?_filter, atMostOne?_filter_eq_some_iff.mp hslot]
      cases slot <;> rfl
    show ((Value.object entries).slots? nestedKeys).bind (fun slots =>
      (childrenOfEntries? entries).bind (assemble? slots)) = _
    rw [h, childrenOfEntries?_eq, hfind]
    rfl
  | _ => cases h

/-- What is decoded has slots. -/
theorem exists_slots_of_nested? {v : Value} {d : Nested} (h : nested? v = some d) :
    ∃ slots, v.slots? nestedKeys = some slots := by
  refine Option.ne_none_iff_exists'.mp fun hnone => ?_
  cases v with
  | array items =>
    have hbind : ((Value.array items).slots? nestedKeys).bind (fun slots =>
      (childrenOfItems? 4 items).bind (assemble? slots)) = some d := h
    rw [hnone] at hbind
    cases hbind
  | object entries =>
    have hbind : ((Value.object entries).slots? nestedKeys).bind (fun slots =>
      (childrenOfEntries? entries).bind (assemble? slots)) = some d := h
    rw [hnone] at hbind
    cases hbind
  | _ => cases h

/-- A list of definitions is decoded if its items are. -/
theorem nestedList?_eq_some_iff {v : Value} {ds : List Nested}
    (h : ∀ items, nestedAll? items = some ds
      ↔ List.Forall₂ (Denotes fun _ => True) items ds) :
    nestedList? v = some ds ↔ ListOf (Denotes fun _ => True) v ds := by
  cases v with
  | array items =>
    show nestedAll? items = some ds ↔ _
    rw [h]
    exact ⟨.array, fun ⟨hitems⟩ => hitems⟩
  | _ => constructor <;> intro h <;> cases h

/-- The parts of a definition are decoded one by one. -/
theorem assemble?_eq_some_iff {nameSlot typeSlot kindSlot tagsSlot childrenSlot : Option Value}
    {ds ds' : List Nested} {name typeName : String} {kind : Option Kind} {tags : Option Tags} :
    assemble? [nameSlot, typeSlot, kindSlot, tagsSlot, childrenSlot] ds
        = some (.field name typeName kind tags ds')
      ↔ nameSlot = some (.string name) ∧ typeSlot = some (.string typeName) ∧
          OrDefault none (OrNull (DenotesName Kind.name)) kindSlot kind ∧
          OrDefault none (OrNull (DenotesTags fun _ => True)) tagsSlot tags ∧ ds = ds' := by
  have hname : ∀ {slot s}, required Value.string? slot = some s ↔ slot = some (.string s) := by
    intro slot s
    simp [required, Option.bind_eq_some_iff, string?_eq_some_iff, DenotesText]
  have hkind : ∀ {slot k}, optional none (Value.nullable? (Value.choice? Kind.ofName?)) slot
      = some k ↔ OrDefault none (OrNull (DenotesName Kind.name)) slot k :=
    optional_eq_some_iff fun _ =>
      nullable?_eq_some_iff (choice?_eq_some_iff ofName?_eq_some_iff) rfl
  have htags : ∀ {slot t}, optional none (Value.nullable? tags?) slot = some t
      ↔ OrDefault none (OrNull (DenotesTags fun _ => True)) slot t :=
    optional_eq_some_iff fun _ => nullable?_eq_some_iff tags?_eq_some_iff rfl
  simp only [assemble?, Option.bind_eq_bind, Option.bind_eq_some_iff, Option.pure_def,
    Option.some.injEq, Nested.field.injEq, hname, hkind, htags, existsAndEq, true_and]

-- The recursion is on the definition. The value is not the place for it: an object does not say
-- which of its entries holds the definitions inside.
mutual

/-- A value is decoded as a definition exactly if it denotes the definition. -/
theorem nested?_eq_some_iff : ∀ (d : Nested) (v : Value),
    nested? v = some d ↔ Denotes (fun _ => True) v d
  | .field name typeName kind tags ds, v => by
    have hkeys : nestedKeys.Nodup := by decide
    have hchildren : ∀ {slot}, optional [] nestedList? slot = some ds
        ↔ OrDefault [] (ListOf (Denotes fun _ => True)) slot ds :=
      optional_eq_some_iff fun _ => nestedList?_eq_some_iff (nestedAll?_eq_some_iff ds)
    constructor
    · intro h
      obtain ⟨slots, hslots⟩ := exists_slots_of_nested? h
      rw [nested?_of_slots hslots] at h
      have hslots := (slots?_eq_some_iff hkeys).mp hslots
      have hlength : slots.length = 5 := hslots.length_eq
      match slots, hlength with
      | [_, _, _, _, _], _ =>
        obtain ⟨ds', hds, hparts⟩ := Option.bind_eq_some_iff.mp h
        obtain ⟨rfl, rfl, hkind, htags, rfl⟩ := assemble?_eq_some_iff.mp hparts
        exact .field hslots hkind htags (hchildren.mp hds)
    · rintro ⟨hslots, hkind, htags, hds⟩
      rw [nested?_of_slots ((slots?_eq_some_iff hkeys).mpr hslots)]
      exact Option.bind_eq_some_iff.mpr ⟨ds, hchildren.mpr hds,
        assemble?_eq_some_iff.mpr ⟨rfl, rfl, hkind, htags, rfl⟩⟩

/-- Items are decoded as definitions exactly if they denote them one by one. -/
theorem nestedAll?_eq_some_iff : ∀ (ds : List Nested) (items : List Value),
    nestedAll? items = some ds ↔ List.Forall₂ (Denotes fun _ => True) items ds
  | [], [] => by simp [nestedAll?]
  | [], v :: items => by
    simp [nestedAll?, Option.bind_eq_some_iff]
  | d :: ds, [] => by simp [nestedAll?]
  | d :: ds, v :: items => by
    rw [List.forall₂_cons, ← nested?_eq_some_iff d v, ← nestedAll?_eq_some_iff ds items]
    simp [nestedAll?, Option.bind_eq_some_iff]

end

/-! ### Nesting -/

mutual

/-- More may be allowed under unknown keys. -/
theorem Denotes.mono {Unknown' : Value → Prop} (hmono : ∀ w, Unknown w → Unknown' w) :
    ∀ (d : Nested) {v : Value}, Denotes Unknown v d → Denotes Unknown' v d
  | .field _ _ _ _ ds, _, .field hslots hkind htags hchildren =>
    .field (hslots.mono hmono) hkind
      (htags.mono fun _ => OrNull.mono fun _ _ => DenotesTags.mono hmono)
      (hchildren.mono fun _ ⟨hitems⟩ => .array (Denotes.monoAll hmono ds hitems))

/-- More may be allowed under unknown keys of several definitions. -/
theorem Denotes.monoAll {Unknown' : Value → Prop} (hmono : ∀ w, Unknown w → Unknown' w) :
    ∀ (ds : List Nested) {items : List Value}, List.Forall₂ (Denotes Unknown) items ds →
      List.Forall₂ (Denotes Unknown') items ds
  | [], _, .nil => .nil
  | d :: ds, _, .cons h hs => .cons (Denotes.mono hmono d h) (Denotes.monoAll hmono ds hs)

end

/-- Annotations are flat, apart from what is under unknown keys. -/
theorem DenotesTags.depth_le {room : Nat} {v : Value} {t : Tags}
    (h : DenotesTags (·.depth ≤ room) v t) : v.depth ≤ room + 1 := by
  obtain ⟨slots, hslots, hannotations⟩ := h
  have hflag : ∀ {w : Value} {b : Bool}, OrDefault false DenotesFlag (some w) b → w.depth = 0 := by
    rintro _ _ (_ | ⟨rfl⟩)
    rfl
  have htext : ∀ {w : Value} {s : Option String},
      OrDefault none (OrNull DenotesText) (some w) s → w.depth = 0 := by
    rintro _ _ (_ | _ | rfl) <;> rfl
  have hsize : ∀ {w : Value} {n : Nat}, OrDefault 0 DenotesSize (some w) n → w.depth = 0 := by
    rintro _ _ (_ | ⟨⟨rfl, -⟩⟩)
    rfl
  have hflat : ∀ holds ∈ annotations t, ∀ w, holds (some w) → w.depth = 0 := by
    simp only [annotations, List.forall_mem_cons]
    exact ⟨fun _ => hflag, fun _ => htext, fun _ => hflag, fun _ => hflag, fun _ => hsize,
      fun _ => htext, fun _ => htext, fun _ => htext, fun _ => htext, fun _ => htext,
      fun _ => hflag, fun _ => htext, fun _ h => nomatch h⟩
  refine hslots.depth_le (fun w hw => ?_) fun _ => id
  obtain ⟨holds, hmem, hslot⟩ := Catalog.exists_of_mem_forall₂ hannotations hw
  exact (hflat holds hmem w hslot).trans_le (Nat.zero_le room)

mutual

/-- A field in a field takes an array and an object, and what is under unknown keys comes on
top. -/
theorem Denotes.depth_le {room : Nat} : ∀ (d : Nested) {v : Value},
    Denotes (·.depth ≤ room) v d → v.depth ≤ 2 * d.depth + room
  | .field _ _ _ _ ds, v, .field hslots hkind htags hchildren => by
    -- The array of the children is one level, the structure around it is another.
    have hknown : v.depth ≤ (2 * Nested.depthAll ds + room + 1) + 1 := by
      refine hslots.depth_le ?_ fun w hw => by omega
      simp only [List.mem_cons, List.not_mem_nil, or_false]
      rintro w (hw | hw | rfl | rfl | rfl)
      · cases hw
        exact Nat.zero_le _
      · cases hw
        exact Nat.zero_le _
      · rcases hkind with _ | _ | rfl | rfl
        · exact Nat.zero_le _
        · exact Nat.zero_le _
        · exact Nat.succ_le_succ (Nat.zero_le _)
      · rcases htags with _ | _ | htags
        · exact Nat.zero_le _
        · have hle := htags.depth_le
          omega
      · rcases hchildren with _ | ⟨⟨hitems⟩⟩
        exact Nat.succ_le_succ (depthOfItems_le_iff.mpr (Denotes.depth_leAll ds hitems))
    rw [Nested.depth]
    omega

/-- The same for each of several definitions. -/
theorem Denotes.depth_leAll {room : Nat} : ∀ (ds : List Nested) {items : List Value},
    List.Forall₂ (Denotes (·.depth ≤ room)) items ds →
      ∀ v ∈ items, v.depth ≤ 2 * Nested.depthAll ds + room
  | [], _, .nil => fun _ hv => nomatch hv
  | d :: ds, _, .cons h hs => by
    rw [Nested.depthAll]
    refine List.forall_mem_cons.mpr ⟨?_, fun v hv => ?_⟩
    · have hle := Denotes.depth_le d h
      omega
    · have hle := Denotes.depth_leAll ds hs v hv
      omega

end

/-! ### Spellings -/

/-- The text is a document of a value that denotes the definition, nested no deeper than the
reader allows. -/
def IsSpelling (text : String) (d : Nested) : Prop :=
  ∃ v, Denotes (fun _ => True) v d ∧ IsDocument text v ∧ v.depth ≤ nestingLimit

/-- Every spelling of a definition is read as the tree of the definition. So two spellings of it
give the same tree, and a run does the same on both. Every document of a value that denotes the
definition is a spelling, unless the definition or what is under unknown keys is nested too
deep. -/
theorem spellings_agree (d : Nested) :
    (∀ text, IsSpelling text d → readTrees text = .ok [d.toTree]) ∧
    (∀ text text' i, IsSpelling text d → IsSpelling text' d →
      CommandLine.plan i text = CommandLine.plan i text') ∧
    ∀ text v room, Denotes (·.depth ≤ room) v d → IsDocument text v →
      2 * d.depth + room ≤ nestingLimit → IsSpelling text d := by
  have hread : ∀ text, IsSpelling text d → readTrees text = .ok [d.toTree] := by
    rintro text ⟨v, hv, hdocument, hdepth⟩
    have hnested : nested? v = some d := (nested?_eq_some_iff d v).mpr hv
    rw [readTrees, hdocument.read?_of_depth_le hdepth]
    simp [records?, hnested]
  refine ⟨hread, fun text text' i h h' => ?_, fun text v room hv hdocument hroom => ?_⟩
  · rw [CommandLine.plan, CommandLine.plan, hread text h, hread text' h']
  · exact ⟨v, Denotes.mono (fun _ _ => trivial) d hv, hdocument,
      (Denotes.depth_le d hv).trans hroom⟩

/-- A record with a key and a name of limited size. -/
def member : Nested :=
  .field "Member" "Member" none none
    [.field "ID" "int64" none none [], .field "Name" "string" none (some { size := 80 }) []]

/-- The record as an object that holds a list and an object with unknown keys. -/
def mixedMember : Value :=
  .object [("children", .array [
      .array [.string "ID", .string "int64", .null],
      .object [("tags", .array [.bool false, .null, .bool false, .bool false, .natural 80]),
        ("note", .array []), ("type", .string "string"), ("note", .null),
        ("name", .string "Name")]]),
    ("type", .string "Member"), ("version", .string "1"), ("name", .string "Member")]

/-- The record as lists all the way. -/
def plainMember : Value :=
  .array [.string "Member", .string "Member", .null, .null, .array [
    .array [.string "ID", .string "int64"],
    .array [.string "Name", .string "string", .null, .object [("size", .natural 80)]]]]

/-- Both are read as the same tree. -/
theorem spellings_agree_member :
    readTrees (print mixedMember) = .ok [member.toTree] ∧
    ∀ i, CommandLine.plan i (print mixedMember) = CommandLine.plan i (print plainMember) := by
  have harray : ∀ {room vs}, (Value.array vs).Fits (room + 1) ↔ ∀ v ∈ vs, v.Fits room :=
    ⟨fun (.array h) => h, .array⟩
  have hobject : ∀ {room es}, (Value.object es).Fits (room + 1) ↔ ∀ e ∈ es, e.2.Fits room :=
    ⟨fun (.object h) => h, .object⟩
  have hsize : ∀ {room}, (Value.natural 80).Fits room := fits_natural (by decide)
  have hmixed : IsSpelling (print mixedMember) member := by
    have hfits : mixedMember.Fits 4 := by
      simp [mixedMember, harray, hobject, Value.Fits.string, Value.Fits.null, Value.Fits.bool,
        hsize]
    exact ⟨mixedMember, (nested?_eq_some_iff _ _).mp rfl, isDocument_print hfits, by decide⟩
  have hplain : IsSpelling (print plainMember) member := by
    have hfits : plainMember.Fits 4 := by
      simp [plainMember, harray, hobject, Value.Fits.string, Value.Fits.null, hsize]
    exact ⟨plainMember, (nested?_eq_some_iff _ _).mp rfl, isDocument_print hfits, by decide⟩
  exact ⟨(spellings_agree member).1 _ hmixed,
    fun i => (spellings_agree member).2.1 _ _ i hmixed hplain⟩

end RecordSql.Document
