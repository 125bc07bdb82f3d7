import RecordSql.CommandLine.Execute
import RecordSql.Proofs.Changes

/-!
# `RecordSql.Proofs.Histories`: what a file holds after a run

A run does one thing after the other, and each of them is about one file or none. So what a file
holds in the end can be told from the list of what has been done, without the disk: of each thing
it is enough to know what it does to the text of a file at a given place (`Effect.textAfter`).

* `text?_perform` is the step. It says the same of all files, those that are not meant included.
* `exists_done` is the run, which may stop before its end: the things that have been done are a
  prefix of the list, and each file has the text that its history gives it.
* `performAll_appends`: a run that appends to one file does not stop at all, if the file can be
  opened in the beginning.

`schemas_appended` puts this together for schema scripts, which are appended to one file, and for
the output that is written after them.
-/

set_option autoImplicit false

namespace RecordSql.CommandLine

open RecordSql.Files (Disk FileError Place)

/-! ### One thing -/

/-- What the text of the file at a place becomes when something is done. -/
def Effect.textAfter (p : Place) (text : Option String) : Effect → Option String
  | .append path more => if Place.ofPath path = p then some (text.getD "" ++ more) else text
  | .write path new => if Place.ofPath path = p then some new else text
  | .print _ => text

/-- The place of the file that is meant. -/
def Effect.place? : Effect → Option Place
  | .append path _ | .write path _ => some (Place.ofPath path)
  | .print _ => none

/-- What is done to another file leaves the text as it is. -/
theorem Effect.textAfter_of_ne {e : Effect} {p : Place} (h : e.place? ≠ some p)
    (text : Option String) : e.textAfter p text = text := by
  cases e with
  | append path more => exact if_neg fun hp => h (congrArg some hp)
  | write path new => exact if_neg fun hp => h (congrArg some hp)
  | print _ => rfl

/-- A change that succeeds gives one file its new text and leaves all others alone. -/
theorem text?_change {k : Disk} {path : String} {f : String → String} {failure : FileError}
    (h : (k.change path f failure).2 = none) (p : Place) :
    (k.change path f failure).1.text? p =
      if Place.ofPath path = p then some (f ((k.text? p).getD "")) else k.text? p := by
  obtain ⟨k', heq, hrewrites⟩ := (Disk.opens_of_change h).change_eq f failure
  rw [heq, hrewrites.text?_eq, Disk.textOf]
  split
  · rename_i hp
    rw [hp]
  · rfl

/-- Appending is a change of the disk. -/
theorem perform_append (w : World) (path text : String) :
    perform w (.append path text) =
      ({ w with disk := (w.disk.change path (· ++ text) (.openFailed path)).1 },
        (w.disk.change path (· ++ text) (.openFailed path)).2) := by
  rw [← Disk.append, perform]

/-- So is writing. -/
theorem perform_write (w : World) (path text : String) :
    perform w (.write path text) =
      ({ w with disk := (w.disk.change path (fun _ => text) (.writeFailed path)).1 },
        (w.disk.change path (fun _ => text) (.writeFailed path)).2) := by
  rw [← Disk.write, perform]

/-- What is done changes the text of each file as it should, or it fails and changes no text. -/
theorem text?_perform (w : World) (e : Effect) (p : Place) :
    (perform w e).1.disk.text? p =
      if (perform w e).2 = none then e.textAfter p (w.disk.text? p) else w.disk.text? p := by
  cases e with
  | append path text =>
    rw [perform_append]
    dsimp only
    split
    · rename_i h
      rw [text?_change h, Effect.textAfter]
    · rename_i h
      rw [(Disk.grows_change h).text?_eq]
  | write path text =>
    rw [perform_write]
    dsimp only
    split
    · rename_i h
      rw [text?_change h, Effect.textAfter]
    · rename_i h
      rw [(Disk.grows_change h).text?_eq]
  | print text =>
    rw [perform, if_pos rfl, Effect.textAfter]

/-! ### One thing after the other -/

/-- What has been done in a run is the list up to the first thing that fails, and the whole list if
nothing does. Each file has the text that this makes of the text before. -/
theorem exists_done (w : World) (es : List Effect) :
    ∃ done, done <+: es ∧ ((performAll w es).2 = none → done = es) ∧
      ∀ p, (performAll w es).1.disk.text? p =
        done.foldl (Effect.textAfter p) (w.disk.text? p) := by
  induction es generalizing w with
  | nil => exact ⟨[], List.prefix_rfl, fun _ => rfl, fun _ => rfl⟩
  | cons e es ih =>
    have hstep := text?_perform w e
    rw [performAll]
    split
    · rename_i v hv
      obtain ⟨done, hbegin, hall, htexts⟩ := ih v
      refine ⟨e :: done, List.cons_prefix_cons.mpr ⟨rfl, hbegin⟩, fun h => ?_, fun p => ?_⟩
      · rw [hall h]
      · rw [htexts, List.foldl_cons]
        congr 1
        simpa [hv] using hstep p
    · rename_i v failure hv
      -- The first thing has failed, so nothing is done.
      refine ⟨[], List.nil_prefix, nofun, fun p => ?_⟩
      simpa [hv] using hstep p

/-- A run in which nothing is done to a file leaves its text as it is, whether it stops or not. -/
theorem text?_performAll_of_ne {p : Place} {es : List Effect} (h : ∀ e ∈ es, e.place? ≠ some p)
    (w : World) : (performAll w es).1.disk.text? p = w.disk.text? p := by
  have hfoldl : ∀ {done : List Effect}, (∀ e ∈ done, e.place? ≠ some p) → ∀ text,
      done.foldl (Effect.textAfter p) text = text := by
    intro done hdone text
    induction done with
    | nil => rfl
    | cons e done ih =>
      obtain ⟨he, hdone⟩ := List.forall_mem_cons.mp hdone
      rw [List.foldl_cons, Effect.textAfter_of_ne he, ih hdone]
  obtain ⟨done, hbegin, -, htexts⟩ := exists_done w es
  rw [htexts, hfoldl fun e he => h e (hbegin.subset he)]

/-- Appending to a file that can be opened does not fail, however often it is done: after the first
time the folders are there, and the file stays where it is. -/
theorem performAll_appends {w : World} {path : String} (h : w.disk.Opens path) (text : String)
    (texts : List String) :
    ∃ v, performAll w ((text :: texts).map (Effect.append path)) = (v, none) ∧
      v.output = w.output ∧
      w.disk.Rewrites path (w.disk.textOf path ++ String.join (text :: texts)) v.disk := by
  induction texts generalizing w text with
  | nil =>
    obtain ⟨k, heq, hrewrites⟩ := h.change_eq (· ++ text) (.openFailed path)
    refine ⟨{ w with disk := k }, ?_, rfl, ?_⟩
    · simp only [List.map_singleton, performAll, perform_append, heq]
    · simpa using hrewrites
  | cons next texts ih =>
    obtain ⟨k, heq, hrewrites⟩ := h.change_eq (· ++ text) (.openFailed path)
    obtain ⟨v, hrest, houtput, hrewrites'⟩ := ih (w := { w with disk := k }) (hrewrites.opens h) next
    refine ⟨v, ?_, houtput, ?_⟩
    · rw [List.map_cons, performAll, perform_append, heq]
      exact hrest
    · -- The next text goes after what the file holds now.
      have htext : k.textOf path = w.disk.textOf path ++ text := by
        rw [Disk.textOf, hrewrites.text?_eq, if_pos rfl, Option.getD_some]
      have hboth := hrewrites.trans hrewrites'
      rwa [htext, String.append_assoc, ← String.join_cons] at hboth

/-! ### Schema scripts -/

/-- Appending the schema scripts of what has been generated, as a run does it before its output. -/
def appendSchema (path : String) (gs : List Generated) : Effect :=
  .append path (Generate.schemaScript gs)

/-- The scripts of all lists are the scripts of all catalogs in them. -/
theorem join_map_schemaScript (runs : List (List Generated)) :
    String.join (runs.map Generate.schemaScript) =
      String.join (runs.flatten.map (·.catalog.schemaScript)) := by
  induction runs with
  | nil => rfl
  | cons gs runs ih =>
    rw [List.map_cons, String.join_cons, ih, List.flatten_cons, List.map_append, String.join_append]
    rfl

/-- Schema scripts that are appended to a file one list after the other, and the output that is
written after them.

If the file can be opened, which is so exactly if appending to it does not fail
(`Disk.append_eq_none_iff`), nothing fails, however many lists there are and whatever is in them. The
file then has the text that it had before, if there was one, and after it the scripts of all
catalogs in order. All other files are as they were. After the first list the folders of the path
are there and the file can be read, also if none of this was there before and the scripts are empty.

Output that is written to a path of another file leaves the file alone, even if it cannot be
written. Output that is written to the same path can be written and is all that the file holds
then. -/
theorem schemas_appended {w : World} {path : String} (h : w.disk.Opens path)
    (runs : List (List Generated)) :
    ∃ v, performAll w (runs.map (appendSchema path)) = (v, none) ∧ v.output = w.output ∧
      v.disk.textOf path =
        w.disk.textOf path ++ String.join (runs.flatten.map (·.catalog.schemaScript)) ∧
      (∀ p ≠ Place.ofPath path, v.disk.text? p = w.disk.text? p) ∧
      (runs ≠ [] → v.disk.read? path = some (v.disk.textOf path) ∧
        ∀ p ∈ Place.folders path, v.disk.at? p = some .folder) ∧
      (∀ other output, Place.ofPath other ≠ Place.ofPath path →
        (perform v (.write other output)).1.disk.text? (Place.ofPath path) =
          v.disk.text? (Place.ofPath path)) ∧
      ∀ output, ∃ u, perform v (.write path output) = (u, none) ∧
        u.disk.read? path = some output ∧
        ∀ p ≠ Place.ofPath path, u.disk.text? p = v.disk.text? p := by
  -- Without a list nothing is done, and then the folders may still be missing.
  have happended : ∃ v, performAll w (runs.map (appendSchema path)) = (v, none) ∧
      v.output = w.output ∧ v.disk.Opens path ∧
      v.disk.textOf path = w.disk.textOf path ++ String.join (runs.map Generate.schemaScript) ∧
      (runs ≠ [] → w.disk.Rewrites path (v.disk.textOf path) v.disk) := by
    cases runs with
    | nil => exact ⟨w, rfl, rfl, h, by simp, fun hne => absurd rfl hne⟩
    | cons gs runs =>
      obtain ⟨v, hrun, houtput, hrewrites⟩ := performAll_appends h (Generate.schemaScript gs)
        (runs.map Generate.schemaScript)
      have htext : v.disk.textOf path = _ := hrewrites.textOf_eq
      refine ⟨v, ?_, houtput, hrewrites.opens h, htext, fun _ => htext ▸ hrewrites⟩
      rw [← hrun, ← List.map_cons, List.map_map]
      rfl
  obtain ⟨v, hrun, houtput, hopens, htext, hrewrites⟩ := happended
  refine ⟨v, hrun, houtput, ?_, ?_, ?_, ?_, ?_⟩
  · rw [htext, join_map_schemaScript]
  · intro p hp
    have hother : ∀ e ∈ runs.map (appendSchema path), e.place? ≠ some p :=
      List.forall_mem_map.mpr fun gs _ heq => hp (Option.some.inj heq).symm
    have hframe := text?_performAll_of_ne hother w
    rwa [hrun] at hframe
  · intro hne
    exact ⟨(hrewrites hne).read?_eq h, (hrewrites hne).folders⟩
  · intro other output hother
    have hplace : (Effect.write other output).place? ≠ some (Place.ofPath path) :=
      fun heq => hother (Option.some.inj heq)
    rw [text?_perform, Effect.textAfter_of_ne hplace, ite_self]
  · intro output
    obtain ⟨k, heq, hwritten⟩ := hopens.change_eq (fun _ => output) (.writeFailed path)
    refine ⟨{ v with disk := k }, ?_, ?_, ?_⟩
    · rw [perform_write, heq]
    · exact hwritten.read?_eq hopens
    · intro p hp
      rw [hwritten.text?_eq, if_neg (Ne.symm hp)]

/-- Three appends to a schema file that has a line already. The second appends nothing, and the path
goes through a folder that is not there before. -/
theorem schemas_appended_tags :
    let tags : Generated := ⟨{ name := "tags" }, ⟨"tags", [⟨"createTagStmt", .schema, "CREATE 1"⟩,
      ⟨"selectTagStmt", .query, "SELECT 1"⟩]⟩⟩
    let schema := ["sql", "schema.sql"]
    let old := ["sql", "old.sql"]
    let w : World := { disk := ⟨[(["sql"], .folder), (schema, .file "-- kept\n"),
      (old, .file "-- old\n")]⟩ }
    let path := "gen/../sql/./schema.sql"
    w.disk.Opens path ∧
    ∃ v, performAll w ([[tags], [], [tags, tags]].map (appendSchema path)) = (v, none) ∧
      v.disk.read? path = some "-- kept\nCREATE 1;\nCREATE 1;\nCREATE 1;\n" ∧
      v.disk.text? old = some "-- old\n" ∧
      v.disk.at? ["gen"] = some .folder := by
  intro tags schema old w path
  have happend : (w.disk.append path "").2 = none := by decide +kernel
  have hopens : w.disk.Opens path := Disk.append_eq_none_iff.mp happend
  obtain ⟨v, hrun, -, htext, hothers, hfolders, -⟩ :=
    schemas_appended hopens [[tags], [], [tags, tags]]
  obtain ⟨hread, hmade⟩ := hfolders (List.cons_ne_nil _ _)
  refine ⟨hopens, v, hrun, ?_, ?_, ?_⟩
  · rw [hread, htext]
    decide +kernel
  · rw [hothers old (by decide +kernel)]
    rfl
  · exact hmade ["gen"] (by decide +kernel)

end RecordSql.CommandLine
