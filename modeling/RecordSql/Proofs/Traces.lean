import RecordSql.CommandLine.Execute
import RecordSql.Proofs.Runs

/-!
# `RecordSql.Proofs.Traces`: what a run that fails leaves behind

A run has two halves. The first one reads the input and makes the tables, the catalogs and the
output, and `run_cases` says how it can end: with a failure and nothing done, or with the list of
what is to be done. `Stops` lists the failures.

The second half does one thing after the other. What it has done before it fails stays done. The
output comes last, and nothing fails after a text is printed, so a failed run prints nothing
(`performAll_effects_output`).

`execute_of_unfit` puts the halves together for the arguments of a run.
-/

set_option autoImplicit false

namespace RecordSql.CommandLine

open RecordSql.Files (Disk FileError)
open RecordSql.Record (Tree)

variable {i : Invocation} {k : Disk}

/-! ### The first half -/

/-- What a run does with the tables and catalogs that it has made. -/
def Invocation.effects (i : Invocation) (gs : List Generated) : List Effect :=
  (i.sqlFile.map fun path => Effect.append path (Generate.schemaScript gs)).toList ++
    [match i.output with
      | some path => .write path (Generate.render i.format gs)
      | none => .print (Generate.render i.format gs)]

/-- The records in the input of a run. -/
def Decodes (i : Invocation) (k : Disk) (ts : List Tree) : Prop :=
  ∃ text, k.read? i.file = some text ∧ Document.readTrees text = .ok ts

/-- The failures with which a run stops before it does anything. -/
inductive Stops (i : Invocation) (k : Disk) : Failure → Prop
  | unreadable (h : k.read? i.file = none) : Stops i k (.file (.readFailed i.file))
  | undecodable {text : String} {e : Document.DocumentError} (hread : k.read? i.file = some text)
      (h : Document.readTrees text = .error e) : Stops i k (.document e)
  | unmade {ts : List Tree} {e : GenerateError} (hdecodes : Decodes i k ts)
      (h : Generate.all i.settings ts = .error e) : Stops i k (.generate e)

/-- A run stops before it does anything, or it makes everything and then does what is to be
done. -/
theorem run_cases (i : Invocation) (k : Disk) :
    (∃ failure, Stops i k failure ∧ run i k = (failure.code, { disk := k })) ∨
    ∃ ts gs, Decodes i k ts ∧ Generate.all i.settings ts = .ok gs ∧
      run i k = match performAll { disk := k } (i.effects gs) with
        | (w, none) => (successCode, w)
        | (w, some e) => ((Failure.file e).code, w) := by
  unfold run Disk.read
  cases hread : k.read? i.file with
  | none => exact Or.inl ⟨_, .unreadable hread, rfl⟩
  | some text =>
    simp only [plan]
    cases hdecode : Document.readTrees text with
    | error e => exact Or.inl ⟨_, .undecodable hread hdecode, rfl⟩
    | ok ts =>
      have hdecodes : Decodes i k ts := ⟨text, hread, hdecode⟩
      cases hall : Generate.all i.settings ts with
      | error e => exact Or.inl ⟨_, .unmade hdecodes hall, by simp only [hall]⟩
      | ok gs => exact Or.inr ⟨ts, gs, hdecodes, hall, by simp only [hall]; rfl⟩

/-- The input has one list of records at most. -/
theorem Decodes.unique {ts us : List Tree} (hts : Decodes i k ts) (hus : Decodes i k us) :
    ts = us := by
  obtain ⟨text, hread, hdecode⟩ := hts
  obtain ⟨text', hread', hdecode'⟩ := hus
  rw [hread] at hread'
  cases hread'
  rw [hdecode] at hdecode'
  exact Except.ok.inj hdecode'

/-- A run that makes everything does not stop. -/
theorem not_stops_of_all {ts : List Tree} {gs : List Generated} (hdecodes : Decodes i k ts)
    (hall : Generate.all i.settings ts = .ok gs) (failure : Failure) : ¬Stops i k failure := by
  intro hstops
  cases hstops with
  | unreadable h =>
    obtain ⟨text, hread, -⟩ := hdecodes
    rw [h] at hread
    cases hread
  | undecodable hread h =>
    obtain ⟨text, hread', hdecode⟩ := hdecodes
    rw [hread] at hread'
    cases hread'
    rw [h] at hdecode
    cases hdecode
  | unmade hdecodes' h =>
    rw [hdecodes'.unique hdecodes, hall] at h
    cases h

/-- A run that stops has done nothing. -/
theorem run_of_stops {failure : Failure} (h : Stops i k failure) :
    ∃ failure', Stops i k failure' ∧ run i k = (failure'.code, { disk := k }) := by
  rcases run_cases i k with hstops | ⟨ts, gs, hdecodes, hall, -⟩
  · exact hstops
  · exact absurd h (not_stops_of_all hdecodes hall failure)

/-- No failure has the exit code of success. -/
theorem Failure.code_ne_successCode (failure : Failure) : failure.code ≠ successCode := by
  have hfailure : failureCode ≠ successCode := by decide
  have hunlabelled : unlabelledCode ≠ successCode := by decide
  unfold Failure.code
  split
  · exact hunlabelled
  · exact hfailure

/-! ### Why the first half fails -/

/-- The input cannot be read, holds no records, or holds none of the type that is asked for, or
strict validation finds an issue in one of the records that are selected. -/
inductive Unfit (i : Invocation) (k : Disk) : Prop
  | unreadable (h : k.read? i.file = none)
  | undecodable {text : String} {e : Document.DocumentError} (hread : k.read? i.file = some text)
      (h : Document.readTrees text = .error e)
  | typeMissing {ts : List Tree} {name : String} (hdecodes : Decodes i k ts)
      (hname : i.typeName = some name) (h : ∀ t ∈ ts, t.root.typeName ≠ name)
  | issue {ts : List Tree} {t : Tree} (hdecodes : Decodes i k ts) (hstrict : i.strict = true)
      (ht : t ∈ Generate.selected i.settings ts) (h : (Table.load t).issues ≠ [])

/-- The settings of a run reject a record if the run is strict and the record has an issue. -/
theorem rejects_settings_iff {t : Tree} :
    Generate.Rejects i.settings t ↔ i.strict = true ∧ (Table.load t).issues ≠ [] := by
  unfold Generate.Rejects Invocation.settings
  cases i.strict <;> simp [Table.LoadOptions.strict]

/-- A run stops exactly if its input is unfit or a record that is selected has no labels. -/
theorem exists_stops_iff :
    (∃ failure, Stops i k failure) ↔
      Unfit i k ∨
      ∃ ts, Decodes i k ts ∧ ∃ t ∈ Generate.selected i.settings ts, ¬Generate.Labelled t := by
  constructor
  · rintro ⟨failure, hstops⟩
    cases hstops with
    | unreadable h => exact Or.inl (.unreadable h)
    | undecodable hread h => exact Or.inl (.undecodable hread h)
    | @unmade ts e hdecodes h =>
      rcases Generate.exists_all_eq_error_iff.mp ⟨e, h⟩ with
        ⟨name, hname, hmissing⟩ | ⟨t, ht, hrejects | hlabelled⟩
      · exact Or.inl (.typeMissing hdecodes hname hmissing)
      · obtain ⟨hstrict, hissues⟩ := rejects_settings_iff.mp hrejects
        exact Or.inl (.issue hdecodes hstrict ht hissues)
      · exact Or.inr ⟨ts, hdecodes, t, ht, hlabelled⟩
  · intro h
    have hall : ∀ ts, Decodes i k ts →
        (Generate.TypeMissing i.settings ts ∨ ∃ t ∈ Generate.selected i.settings ts,
          Generate.Rejects i.settings t ∨ ¬Generate.Labelled t) →
        ∃ failure, Stops i k failure := by
      intro ts hdecodes hreason
      obtain ⟨e, he⟩ := Generate.exists_all_eq_error_iff.mpr hreason
      exact ⟨_, .unmade hdecodes he⟩
    rcases h with hunfit | ⟨ts, hdecodes, t, ht, hlabelled⟩
    · cases hunfit with
      | unreadable h => exact ⟨_, .unreadable h⟩
      | undecodable hread h => exact ⟨_, .undecodable hread h⟩
      | typeMissing hdecodes hname h => exact hall _ hdecodes (Or.inl ⟨_, hname, h⟩)
      | issue hdecodes hstrict ht h =>
        have hrejects := rejects_settings_iff.mpr ⟨hstrict, h⟩
        exact hall _ hdecodes (Or.inr ⟨_, ht, Or.inl hrejects⟩)
    · exact hall ts hdecodes (Or.inr ⟨t, ht, Or.inr hlabelled⟩)

/-! ### The second half -/

/-- Only printing changes what is on standard output. -/
theorem perform_output {w : World} {e : Effect} (h : ∀ text, e ≠ .print text) :
    (perform w e).1.output = w.output := by
  cases e with
  | append path text => simp only [perform]
  | write path text => simp only [perform]
  | print text => exact absurd rfl (h text)

/-- So a list of things to do without printing leaves it as it is, also if one of them fails. -/
theorem performAll_output {es : List Effect} (h : ∀ e ∈ es, ∀ text, e ≠ .print text) (w : World) :
    (performAll w es).1.output = w.output := by
  induction es generalizing w with
  | nil => rfl
  | cons e es ih =>
    have hstep := perform_output (w := w) (h e List.mem_cons_self)
    rw [performAll]
    split
    · rename_i v hv
      rw [hv] at hstep
      rw [ih (fun f hf => h f (List.mem_cons_of_mem e hf)) v]
      exact hstep
    · rename_i v failure hv
      rw [hv] at hstep
      exact hstep

/-- Doing two lists is doing the second one after the first, unless the first fails. -/
theorem performAll_append (w : World) (es fs : List Effect) :
    performAll w (es ++ fs) =
      match performAll w es with
      | (w, none) => performAll w fs
      | (w, some e) => (w, some e) := by
  induction es generalizing w with
  | nil => rfl
  | cons e es ih =>
    simp only [List.cons_append, performAll]
    cases hstep : perform w e with
    | mk v failure =>
      cases failure with
      | none => exact ih v
      | some failure => rfl

/-- The second half prints nothing if it fails. -/
theorem performAll_effects_output {w : World} {gs : List Generated} {e : FileError}
    (h : (performAll w (i.effects gs)).2 = some e) :
    (performAll w (i.effects gs)).1.output = w.output := by
  unfold Invocation.effects at h ⊢
  -- The schema script is appended, and what fails after it is the writing of a file.
  have hscript : ∀ f ∈ (i.sqlFile.map fun path =>
      Effect.append path (Generate.schemaScript gs)).toList, ∀ text, f ≠ .print text := by
    intro f hf text
    cases hpath : i.sqlFile <;> simp_all
  cases houtput : i.output with
  | some path =>
    refine performAll_output ?_ w
    intro f hf
    rcases List.mem_append.mp hf with hf | hf
    · exact hscript f hf
    · rw [List.mem_singleton.mp hf]
      intro text
      simp
  | none =>
    simp only [houtput] at h
    rw [performAll_append] at h ⊢
    have hkept := performAll_output hscript w
    split at h
    · -- Printing does not fail.
      simp [performAll, perform] at h
    · rename_i v failure hv
      rw [hv] at hkept
      exact hkept

/-! ### Both -/

/-- A run that is not successful prints nothing. -/
theorem run_output_of_failed (h : (run i k).1 ≠ successCode) : (run i k).2.output = "" := by
  rcases run_cases i k with ⟨failure, -, hrun⟩ | ⟨ts, gs, -, -, hrun⟩
  · rw [hrun]
  · rw [hrun] at h ⊢
    cases hperform : performAll { disk := k } (i.effects gs) with
    | mk w failure =>
      simp only [hperform] at h ⊢
      cases failure with
      | none => exact absurd rfl h
      | some e =>
        have hkept := performAll_effects_output (congrArg Prod.snd hperform)
        rw [hperform] at hkept
        exact hkept

/-- Arguments that describe a run are carried out by it. -/
theorem execute_of_parse {environment : Option String} {arguments : List String}
    (h : parse environment arguments = .ok i) (k : Disk) :
    execute environment arguments k = run i k := by
  rw [execute, h]

/-- What a run leaves behind that cannot be carried out.

If the input is unfit, then the exit code is not that of success, nothing is printed, and all
files and folders are as they were, wherever the output should go and whatever it should be.

In general, a run has to have read the whole input and made the tables and catalogs of all
records that are selected before it leaves anything behind: it then does what is to be done with
them, one after the other. Writing may still fail then. No run that fails prints anything. -/
theorem execute_of_unfit {environment : Option String} {arguments : List String}
    (hparse : parse environment arguments = .ok i) (k : Disk) :
    (Unfit i k →
      (execute environment arguments k).1 ≠ successCode ∧
      (execute environment arguments k).2.output = "" ∧
      (execute environment arguments k).2.disk = k) ∧
    ((execute environment arguments k).2 ≠ { disk := k } →
      ∃ ts gs, Decodes i k ts ∧ Generate.all i.settings ts = .ok gs ∧
        (execute environment arguments k).2 = (performAll { disk := k } (i.effects gs)).1) ∧
    ((execute environment arguments k).1 ≠ successCode →
      (execute environment arguments k).2.output = "") := by
  rw [execute_of_parse hparse]
  refine ⟨?_, ?_, run_output_of_failed⟩
  · intro hunfit
    obtain ⟨failure, hstops⟩ := exists_stops_iff.mpr (Or.inl hunfit)
    obtain ⟨failure', -, hrun⟩ := run_of_stops hstops
    rw [hrun]
    exact ⟨failure'.code_ne_successCode, rfl, rfl⟩
  · intro htrace
    rcases run_cases i k with ⟨failure, -, hrun⟩ | ⟨ts, gs, hdecodes, hall, hrun⟩
    · rw [hrun] at htrace
      exact absurd rfl htrace
    · refine ⟨ts, gs, hdecodes, hall, ?_⟩
      rw [hrun]
      split <;> rename_i hperform <;> rw [hperform]

/-- A document of two records. A column of the second one refers to no table. -/
def secondFails : String :=
  "[\x7b\"name\": \"User\", \"type\": \"User\", \"children\": [" ++
  "\x7b\"name\": \"ID\", \"type\": \"int64\"\x7d]\x7d, " ++
  "\x7b\"name\": \"Post\", \"type\": \"Post\", \"children\": [" ++
  "\x7b\"name\": \"Author\", \"type\": \"int64\", \"tags\": \x7b\"foreign\": \"@\"\x7d\x7d]\x7d]"

/-- A strict run that should append the schema script to a file in a folder. -/
def strictRun : Invocation where
  file := "records.json"
  db := "sqlite"
  sqlFile := some "sql/schema.sql"
  strict := true

/-- A strict run of the document makes neither the folder nor the file that it is asked for. -/
theorem execute_of_secondFails :
    let arguments := ["--file=records.json", "--strict", "--sql-file", "sql/schema.sql"]
    let k : Disk := ⟨[(["records.json"], .file secondFails)]⟩
    parse none arguments = .ok strictRun ∧ Unfit strictRun k ∧
      (execute none arguments k).1 ≠ successCode ∧
      (execute none arguments k).2.output = "" ∧
      (execute none arguments k).2.disk = k := by
  intro arguments k
  have hparse : parse none arguments = .ok strictRun := by decide +kernel
  have hread : k.read? "records.json" = some secondFails := by decide +kernel
  obtain ⟨ts, hdecode, t, ht, hissue⟩ : ∃ ts, Document.readTrees secondFails = .ok ts ∧
      ∃ t ∈ ts, (Table.load t).issues ≠ [] :=
    Generate.exists_ok_of_checked (by decide +kernel)
  have hunfit : Unfit strictRun k := .issue ⟨_, hread, hdecode⟩ rfl ht hissue
  exact ⟨hparse, hunfit, (execute_of_unfit hparse k).1 hunfit⟩

end RecordSql.CommandLine
