import Mathlib.Data.List.Infix
import RecordSql.Files.Disk

/-!
# `RecordSql.Proofs.Places`: where a path leads

A path is a text, and many texts lead to one place: `sql/schema.sql`, `./sql//schema.sql` and
`sql/old/../schema.sql` are the same file. What a path leads to does not depend on the disk, so
`Place.ofPath` says it once and for all, and `Place.folders` lists the folders that have to be
there before.

The folders are read off another text, the path of the folder in which the file lies. That text is
made by cutting at the end of the path, character by character, while the steps are made by cutting
the whole path at separators. `exists_steps_eq` says that both agree: the folder has all steps but
the last one, whatever separators and `.` steps stand between them.

```text
path                     steps                    folders after the start
schema.sql               schema.sql
sql//./schema.sql        sql schema.sql           sql
sql/old/../schema.sql    sql old .. schema.sql    sql, sql/old, sql
```
-/

set_option autoImplicit false

namespace RecordSql.Files

open RecordSql.Text (split split_append split_of_forall_not)

/-! ### The end of a path -/

/-- The steps of two texts with a separator between them are the steps of both. -/
theorem steps_append_separator (cs ds : List Char) :
    steps (String.ofList (cs ++ '/' :: ds)) =
      steps (String.ofList cs) ++ steps (String.ofList ds) := by
  unfold steps
  rw [String.toList_ofList, String.toList_ofList, String.toList_ofList,
    split_append cs (by rfl), List.map_append, List.filter_append]

/-- What is trimmed from the end of a path leads nowhere. -/
theorem steps_trimTail (cs : List Char) :
    steps (String.ofList (trimTail cs).reverse) = steps (String.ofList cs.reverse) := by
  have hseparator : ∀ rest : List Char,
      steps (String.ofList ('/' :: rest).reverse) = steps (String.ofList rest.reverse) := by
    intro rest
    rw [List.reverse_cons, steps_append_separator]
    exact List.append_nil _
  have hdot : ∀ rest : List Char,
      steps (String.ofList ('.' :: '/' :: rest).reverse) = steps (String.ofList rest.reverse) := by
    intro rest
    rw [List.reverse_cons, List.reverse_cons, List.append_assoc, List.singleton_append,
      steps_append_separator]
    exact List.append_nil _
  fun_induction trimTail cs with
  | case1 rest ih => rw [ih, hseparator, hdot]
  | case2 c rest ih => rw [ih, hseparator]
  | case3 => rfl

/-- Only the end of a path is trimmed. -/
theorem trimTail_suffix (cs : List Char) : trimTail cs <:+ cs := by
  fun_induction trimTail cs with
  | case1 rest ih => exact ih.trans (List.suffix_cons '.' ('/' :: rest))
  | case2 c rest ih => exact ih.trans (List.suffix_cons '/' (c :: rest))
  | case3 => exact List.suffix_rfl

/-- The first character of a path stays, also if it is a separator. -/
theorem getLast?_trimTail (cs : List Char) : (trimTail cs).getLast? = cs.getLast? := by
  fun_induction trimTail cs with
  | case1 rest ih => rw [ih, List.getLast?_cons_cons]
  | case2 c rest ih => rw [ih, List.getLast?_cons_cons]
  | case3 => rfl

/-! ### The name of a file -/

/-- A name that a file can have: it is not empty, it is not the step `.`, and there is no separator
in it. -/
structure IsName (cs : List Char) : Prop where
  ne_nil : cs ≠ []
  ne_dot : cs ≠ ['.']
  not_mem : '/' ∉ cs

/-- The path of a file is a name, on its own or after a separator. -/
theorem exists_name {path : String} (h : namesFile path = true) :
    ∃ name, IsName name ∧
      (path.toList = name ∨ ∃ before, path.toList = before ++ '/' :: name) := by
  obtain ⟨name, hname, hpath⟩ := Text.exists_last_piece (· == '/') path.toList
  have hlast : ((split (· == '/') path.toList).getLast?).getD [] = name := by
    rcases hpath with hpath | ⟨before, sep, hsep, hpath⟩
    · rw [hpath, split_of_forall_not hname]
      rfl
    · rw [hpath, split_append (p := (· == '/')) before hsep, split_of_forall_not hname,
        List.getLast?_concat]
      rfl
  unfold namesFile at h
  rw [hlast] at h
  simp only [Bool.and_eq_true, bne_iff_ne, ne_eq] at h
  refine ⟨name, ⟨h.1, h.2, fun hmem => by simpa using hname '/' hmem⟩, ?_⟩
  rcases hpath with hpath | ⟨before, sep, hsep, hpath⟩
  · exact Or.inl hpath
  · exact Or.inr ⟨before, beq_iff_eq.mp hsep ▸ hpath⟩

namespace IsName

variable {name : List Char}

/-- A name is one step. -/
theorem steps_eq (h : IsName name) : steps (String.ofList name) = [String.ofList name] := by
  have hsplit : split (· == '/') name = [name] := by
    refine split_of_forall_not fun c hc => ?_
    rw [beq_eq_false_iff_ne]
    rintro rfl
    exact h.not_mem hc
  have hne : String.ofList name ≠ "" := by
    simpa [← String.toList_inj] using h.ne_nil
  have hdot : String.ofList name ≠ "." := by
    simpa [← String.toList_inj] using h.ne_dot
  unfold steps
  rw [String.toList_ofList, hsplit]
  simp [hne, hdot]

/-- Nothing is trimmed from a path that ends in a name. -/
theorem trimTail_append (h : IsName name) (rest : List Char) :
    trimTail (name.reverse ++ rest) = name.reverse ++ rest := by
  have hslash : '/' ∉ name.reverse := mt List.mem_reverse.mp h.not_mem
  have hdot : name.reverse ≠ ['.'] := fun heq =>
    h.ne_dot (by simpa using congrArg List.reverse heq)
  obtain ⟨c, cs, hcs⟩ := List.exists_cons_of_ne_nil (mt List.reverse_eq_nil_iff.mp h.ne_nil)
  rw [hcs] at hslash hdot ⊢
  rw [List.cons_append]
  unfold trimTail
  split
  · -- The name would be a dot, or the separator would be in it.
    cases cs <;> simp_all
  · simp_all
  · rfl

/-- Without its name a path ends in a separator or is empty, and its end is trimmed. -/
theorem parent_eq (h : IsName name) {path : String} {rest : List Char}
    (hpath : path.toList.reverse = name.reverse ++ rest)
    (hrest : ∀ c ∈ rest.head?, c = '/') :
    parent path = String.ofList (trimTail rest).reverse := by
  have hdrop : (name.reverse ++ rest).dropWhile (· != '/') = rest := by
    rw [List.dropWhile_append_of_pos]
    · cases rest with
      | nil => rfl
      | cons c rest => simp [hrest c rfl]
    · intro c hc
      rw [bne_iff_ne]
      rintro rfl
      exact h.not_mem (List.mem_reverse.mp hc)
  unfold parent
  rw [hpath, h.trimTail_append, hdrop]

end IsName

/-! ### The path of the folder -/

/-- The path of the folder has all steps of the path but the last one, and leads from the same
place. -/
theorem exists_steps_eq {path : String} (h : namesFile path = true) :
    ∃ name, steps path = steps (parent path) ++ [name] ∧
      Place.startOf (parent path) = Place.startOf path := by
  obtain ⟨name, hname, hpath | ⟨before, hpath⟩⟩ := exists_name h
  · have hreverse : path.toList.reverse = name.reverse ++ [] := by simp [hpath]
    have hparent : parent path = "" := hname.parent_eq hreverse (by simp)
    have hsteps := hname.steps_eq
    rw [← hpath, String.ofList_toList] at hsteps
    have hrelative : isAbsolute path = false := by
      unfold isAbsolute
      rw [hpath, beq_eq_false_iff_ne]
      exact fun hhead => hname.not_mem (List.mem_of_mem_head? hhead)
    refine ⟨path, by rw [hparent, hsteps]; rfl, ?_⟩
    rw [hparent, Place.startOf, Place.startOf, hrelative]
    rfl
  · have hparent : parent path = String.ofList (trimTail ('/' :: before.reverse)).reverse :=
      hname.parent_eq (by simp [hpath]) (by simp)
    have hfolder : steps (parent path) = steps (String.ofList before) := by
      rw [hparent, steps_trimTail, List.reverse_cons, List.reverse_reverse, steps_append_separator]
      exact List.append_nil _
    have hsteps := steps_append_separator before name
    rw [← hpath, String.ofList_toList, hname.steps_eq, ← hfolder] at hsteps
    have habsolute : isAbsolute (parent path) = isAbsolute path := by
      unfold isAbsolute
      rw [hparent, hpath, String.toList_ofList, List.head?_reverse, getLast?_trimTail,
        List.getLast?_eq_head?_reverse, List.reverse_cons, List.reverse_reverse]
      cases before <;> rfl
    exact ⟨String.ofList name, hsteps, by rw [Place.startOf, Place.startOf, habsolute]⟩

/-- It is the beginning of the path. -/
theorem parent_prefix (path : String) : (parent path).toList <+: path.toList := by
  have hsuffix := (trimTail_suffix ((trimTail path.toList.reverse).dropWhile (· != '/'))).trans
    ((List.dropWhile_suffix _).trans (trimTail_suffix path.toList.reverse))
  unfold parent
  rwa [String.toList_ofList, ← List.reverse_suffix, List.reverse_reverse]

/-- So it can be used if the path can. -/
theorem isUsable_parent {path : String} (h : isUsable path = true) :
    isUsable (parent path) = true := by
  obtain ⟨rest, hrest⟩ := parent_prefix path
  have hpath : path = parent path ++ String.ofList rest := by
    rw [← String.toList_inj, String.toList_append, String.toList_ofList, hrest]
  unfold isUsable at h ⊢
  simp only [Bool.and_eq_true, Bool.not_eq_true', List.contains_eq_mem, decide_eq_false_iff_not,
    decide_eq_true_eq] at h ⊢
  obtain ⟨hnul, hsize⟩ := h
  rw [hpath, String.utf8ByteSize_append] at hsize
  rw [hpath, String.toList_append, List.mem_append, not_or] at hnul
  exact ⟨hnul.1, by omega⟩

/-! ### Places -/

namespace Place

/-- The place to which a path leads. -/
def ofPath (path : String) : Place :=
  (steps path).foldl beyond (startOf path)

/-- Three ways to write a path, the last of them through a folder that need not be there. -/
example : ["sql/schema.sql", "./sql//schema.sql", "sql/old/../schema.sql"].map ofPath =
    [["sql", "schema.sql"], ["sql", "schema.sql"], ["sql", "schema.sql"]] := by
  decide +kernel

/-- The folders in which a path lies, from the place where it begins on. -/
def folders (path : String) : List Place :=
  (steps (parent path)).scanl beyond (startOf (parent path))

/-- A path begins in a folder that is always there. -/
theorem isGiven_startOf (path : String) : isGiven (startOf path) = true := by
  unfold startOf
  split <;> rfl

end Place

end RecordSql.Files
