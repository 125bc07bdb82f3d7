import RecordSql.Proofs.Places

/-!
# `RecordSql.Proofs.Changes`: what changing a file does to a disk

Writing a file and appending to it differ in the new text only (`Disk.change`): both make the
folders of the path, go along the path to the file, and put a text there. Each of the three can
fail, and what has been made before stays.

* `Disk.Opens` says when a file can be opened. No step of it mentions how the disk is searched.
* `Disk.Opens.change_eq`: then the change succeeds, and it is a `Disk.Rewrites`: the file has the
  new text, the folders of the path are there, and nothing else is different.
* `Disk.opens_of_change`: a change that succeeds is of such a file. So nothing is left open.
* `Disk.grows_change`: a change that fails makes folders of the path, if anything.

A disk may have entries that no program could have put there, such as a file whose folder is
missing. Nothing here asks for a disk without them: what counts is the file at the place to which
the path leads (`Disk.text?`), and making the folders can only bring it into reach.
-/

set_option autoImplicit false

namespace RecordSql.Files.Disk

variable {k k' : Disk} {p q : Place} {path : String}

/-- The text of the file at a place. -/
def text? (k : Disk) (p : Place) : Option String :=
  match k.at? p with
  | some (.file text) => some text
  | _ => none

/-- The text of the file to which a path leads; empty if there is none. -/
def textOf (k : Disk) (path : String) : String :=
  (k.text? (Place.ofPath path)).getD ""

/-! ### Entries -/

/-- Entries of other places are looked up as before. -/
theorem lookup_filter_ne (h : q ≠ p) (es : List (Place × Entry)) :
    (es.filter (·.1 != p)).lookup q = es.lookup q := by
  induction es with
  | nil => rfl
  | cons e es ih =>
    rw [List.filter_cons]
    by_cases hp : e.1 = p
    · have hq : (q == e.1) = false := beq_false_of_ne (hp ▸ h)
      rw [if_neg (by simp [hp]), ih, List.lookup_cons, hq]
    · rw [if_pos (by simp [hp]), List.lookup_cons, List.lookup_cons, ih]

/-- What is put at a place is there then, unless this is one of the folders that are always
there. -/
theorem at?_put_self (h : k.at? p ≠ some .folder) (e : Entry) : (k.put p e).at? p = some e := by
  unfold put at?
  rw [if_neg, List.lookup_cons_self]
  exact fun hgiven => h (if_pos hgiven)

/-- Nothing else changes. -/
theorem at?_put_of_ne (h : q ≠ p) (k : Disk) (e : Entry) : (k.put p e).at? q = k.at? q := by
  unfold put at?
  rw [List.lookup_cons, beq_false_of_ne h, lookup_filter_ne h]

/-! ### Going along a path -/

/-- A step leads from a folder, and its name must be short enough. -/
theorem walk_cons_eq_some_iff {step : String} {steps : List String} :
    k.walk p (step :: steps) = some q ↔
      (k.at? p = some .folder ∧ isUsableStep step = true) ∧
        k.walk (Place.beyond p step) steps = some q := by
  rw [walk]
  split
  · rename_i h
    simp only [Bool.and_eq_true, decide_eq_true_eq] at h
    exact (and_iff_right h).symm
  · rename_i h
    simp only [Bool.and_eq_true, decide_eq_true_eq] at h
    exact iff_of_false (by simp) fun hwalk => h hwalk.1

/-- Steps lead to the place after the last one if all places that are left are folders and all
names are short enough. The last step leads to a file, so its place need not be a folder. -/
theorem walk_concat_eq_some_iff {steps : List String} {name : String} :
    k.walk p (steps ++ [name]) = some q ↔
      (∀ r ∈ steps.scanl Place.beyond p, k.at? r = some .folder) ∧
      (∀ step ∈ steps ++ [name], isUsableStep step = true) ∧
      q = (steps ++ [name]).foldl Place.beyond p := by
  induction steps generalizing p with
  | nil =>
    rw [List.nil_append, walk_cons_eq_some_iff, walk, List.scanl_nil, List.forall_mem_singleton,
      List.forall_mem_singleton, List.foldl_cons, List.foldl_nil, Option.some.injEq, and_assoc,
      eq_comm (a := q)]
  | cons step steps ih =>
    rw [List.cons_append, walk_cons_eq_some_iff, ih, List.scanl_cons, List.foldl_cons,
      List.forall_mem_cons, List.forall_mem_cons]
    tauto

/-- A path leads to its place if all folders in which it lies are there. -/
theorem locate?_eq_some_iff :
    k.locate? path = some q ↔
      (isUsable path = true ∧ namesFile path = true) ∧
      (∀ r ∈ Place.folders path, k.at? r = some .folder) ∧
      (∀ step ∈ steps path, isUsableStep step = true) ∧ q = Place.ofPath path := by
  unfold locate?
  rw [← Bool.and_eq_true]
  split
  · rename_i h
    obtain ⟨name, hsteps, hstart⟩ := exists_steps_eq (Bool.and_eq_true_iff.mp h).2
    rw [and_iff_right h, Place.folders, Place.ofPath, hsteps, hstart, walk_concat_eq_some_iff]
  · rename_i h
    exact iff_of_false (by simp) fun hq => h hq.1

/-! ### Making folders -/

/-- Nothing has changed but that some of the places, which were free, are folders now. -/
def Grows (places : List Place) (k k' : Disk) : Prop :=
  ∀ q, k'.at? q = k.at? q ∨ (q ∈ places ∧ k.at? q = none ∧ k'.at? q = some .folder)

namespace Grows

variable {places : List Place}

theorem refl (places : List Place) (k : Disk) : Grows places k k :=
  fun _ => Or.inl rfl

theorem trans {k'' : Disk} (h : Grows places k k') (h' : Grows places k' k'') :
    Grows places k k'' := by
  intro q
  rcases h' q with hsame | ⟨hq, hnone, hfolder⟩
  · rw [hsame]
    exact h q
  · rcases h q with hsame | ⟨-, -, hsome⟩
    · exact Or.inr ⟨hq, hsame ▸ hnone, hfolder⟩
    · rw [hnone] at hsome
      cases hsome

/-- What was there is still there. -/
theorem at?_of_eq_some (h : Grows places k k') {e : Entry} (he : k.at? p = some e) :
    k'.at? p = some e := by
  rcases h p with hsame | ⟨-, hnone, -⟩
  · rw [hsame, he]
  · rw [he] at hnone
    cases hnone

/-- There are the same files with the same texts. -/
theorem text?_eq (h : Grows places k k') (p : Place) : k'.text? p = k.text? p := by
  unfold text?
  rcases h p with hsame | ⟨-, hnone, hfolder⟩
  · rw [hsame]
  · rw [hnone, hfolder]

/-- So no file has come into the way. -/
theorem ne_file (h : Grows places k k') {text : String} (hp : k.at? p ≠ some (.file text)) :
    k'.at? p ≠ some (.file text) := by
  rcases h p with hsame | ⟨-, -, hfolder⟩
  · rwa [hsame]
  · rw [hfolder]
    simp

end Grows

section

variable {places : List Place} {steps : List String}

/-- A step goes on from a folder, which is made if it is missing. Nothing can be made where a file
is, or under a name that is too long. -/
theorem makeFolders_cons_cases (k : Disk) (p : Place) (step : String) (steps : List String)
    (hp : Place.beyond p step ∈ places) :
    (∃ k', Grows places k k' ∧ k'.at? (Place.beyond p step) = some .folder ∧
      k.makeFolders p (step :: steps) = k'.makeFolders (Place.beyond p step) steps) ∨
    (k.makeFolders p (step :: steps) = (k, false) ∧
      ((∃ text, k.at? (Place.beyond p step) = some (.file text)) ∨ isUsableStep step = false)) := by
  simp only [makeFolders]
  split
  · rename_i hfolder
    exact Or.inl ⟨k, Grows.refl places k, hfolder, rfl⟩
  · rename_i text hfile
    exact Or.inr ⟨rfl, Or.inl ⟨text, hfile⟩⟩
  · rename_i hnone
    split
    · have hmade := at?_put_self (k := k) (p := Place.beyond p step) (by simp [hnone]) .folder
      refine Or.inl ⟨_, fun q => ?_, hmade, rfl⟩
      by_cases hq : q = Place.beyond p step
      · exact Or.inr ⟨hq ▸ hp, hq ▸ hnone, hq ▸ hmade⟩
      · exact Or.inl (at?_put_of_ne hq k .folder)
    · rename_i hlong
      exact Or.inr ⟨rfl, Or.inr (eq_false_of_ne_true hlong)⟩

/-- Only folders are made, and only along the steps, also if not all of them can be made. -/
theorem grows_makeFolders (h : steps.scanl Place.beyond p ⊆ places) :
    Grows places k (k.makeFolders p steps).1 := by
  induction steps generalizing k p with
  | nil => exact Grows.refl places k
  | cons step steps ih =>
    rw [List.scanl_cons] at h
    have hrest := List.subset_of_cons_subset h
    have hnext := hrest (List.mem_of_mem_head? List.head?_scanl)
    rcases k.makeFolders_cons_cases p step steps hnext with ⟨k', hk', -, heq⟩ | ⟨heq, -⟩
    · rw [heq]
      exact hk'.trans (ih hrest)
    · rw [heq]
      exact Grows.refl places k

/-- If all could be made, all places along the steps are folders. -/
theorem at?_makeFolders (hp : k.at? p = some .folder) (h : (k.makeFolders p steps).2 = true) :
    ∀ q ∈ steps.scanl Place.beyond p, (k.makeFolders p steps).1.at? q = some .folder := by
  induction steps generalizing k p with
  | nil => simpa [makeFolders] using hp
  | cons step steps ih =>
    rcases k.makeFolders_cons_cases p step steps (List.mem_singleton_self _) with
      ⟨k', hk', hnext, heq⟩ | ⟨heq, -⟩
    · rw [heq] at h ⊢
      rw [List.scanl_cons, List.forall_mem_cons]
      -- A folder that is left behind stays, whatever is made further on.
      have hgrows : Grows _ k' (k'.makeFolders (Place.beyond p step) steps).1 :=
        grows_makeFolders (List.Subset.refl _)
      exact ⟨hgrows.at?_of_eq_some (hk'.at?_of_eq_some hp), ih hnext h⟩
    · rw [heq] at h
      cases h

/-- All can be made if no file is in the way and all names are short enough. -/
theorem makeFolders_complete
    (hfiles : ∀ q ∈ steps.scanl Place.beyond p, ∀ text, k.at? q ≠ some (.file text))
    (hsteps : ∀ step ∈ steps, isUsableStep step = true) : (k.makeFolders p steps).2 = true := by
  induction steps generalizing k p with
  | nil => rfl
  | cons step steps ih =>
    rw [List.scanl_cons] at hfiles
    obtain ⟨-, hfiles⟩ := List.forall_mem_cons.mp hfiles
    obtain ⟨hstep, hsteps⟩ := List.forall_mem_cons.mp hsteps
    rcases k.makeFolders_cons_cases p step steps (List.mem_singleton_self _) with
      ⟨k', hk', -, heq⟩ | ⟨-, ⟨text, hfile⟩ | hlong⟩
    · rw [heq]
      exact ih (fun q hq text => hk'.ne_file (hfiles q hq text)) hsteps
    · exact absurd hfile (hfiles _ (List.mem_of_mem_head? List.head?_scanl) text)
    · rw [hstep] at hlong
      cases hlong

end

/-- Making the folders of a path makes nothing else. -/
theorem grows_createParent (k : Disk) (path : String) :
    Grows (Place.folders path) k (k.createParent path).1 := by
  unfold createParent
  dsimp only
  split
  · exact grows_makeFolders (List.Subset.refl _)
  · exact Grows.refl _ k

/-- If nothing fails, all of them are there. -/
theorem at?_createParent (h : (k.createParent path).2 = none) :
    ∀ q ∈ Place.folders path, (k.createParent path).1.at? q = some .folder := by
  unfold createParent at h ⊢
  dsimp only at h ⊢
  split
  · rename_i husable
    rw [if_pos husable] at h
    refine at?_makeFolders (if_pos (Place.isGiven_startOf _)) ?_
    by_contra hfailed
    simp [hfailed] at h
  · rename_i husable
    rw [if_neg husable] at h
    cases h

/-! ### Changing a file -/

/-- The file of a path can be opened for writing, as soon as its folders are there:

- `usable`, `names`, `steps`: the path can be that of a file, and no name in it is too long;
- `folders`: no file is where one of the folders has to be;
- `free`, `apart`: there is no folder where the file has to be, and none of the folders in which the
  path lies has to be there. -/
structure Opens (k : Disk) (path : String) : Prop where
  usable : isUsable path = true
  names : namesFile path = true
  steps : ∀ step ∈ Files.steps path, isUsableStep step = true
  folders : ∀ q ∈ Place.folders path, ∀ text, k.at? q ≠ some (.file text)
  free : k.at? (Place.ofPath path) ≠ some .folder
  apart : Place.ofPath path ∉ Place.folders path

/-- The file of a path has a text, and nothing else has changed but that missing folders of the path
have been made:

- `file`: the file has the text;
- `folders`: all folders in which the path lies are there;
- `others`: every other place is as before or is one of these folders. -/
structure Rewrites (k : Disk) (path text : String) (k' : Disk) : Prop where
  file : k'.at? (Place.ofPath path) = some (.file text)
  folders : ∀ q ∈ Place.folders path, k'.at? q = some .folder
  others : ∀ q ≠ Place.ofPath path, k'.at? q = k.at? q ∨
    (q ∈ Place.folders path ∧ k.at? q = none ∧ k'.at? q = some .folder)

variable {f : String → String} {failure : FileError}

/-- The folders of a file that can be opened can be made. -/
theorem Opens.createParent_eq_none (h : k.Opens path) : (k.createParent path).2 = none := by
  obtain ⟨name, heq, -⟩ := exists_steps_eq h.names
  have hcomplete := makeFolders_complete h.folders fun step hstep =>
    h.steps step (heq ▸ List.mem_append_left _ hstep)
  unfold createParent
  dsimp only
  rw [if_pos (isUsable_parent h.usable), hcomplete]
  rfl

/-- Once the folders are there, the text of a file becomes another one, and that of a file which is
not there counts as empty. -/
theorem modify?_eq_some_iff :
    k.modify? path f = some k' ↔
      (k.locate? path = some (Place.ofPath path) ∧ k.at? (Place.ofPath path) ≠ some .folder) ∧
      k' = k.put (Place.ofPath path) (.file (f (k.textOf path))) := by
  unfold modify?
  cases hlocate : k.locate? path with
  | none => simp
  | some p =>
    obtain rfl := (locate?_eq_some_iff.mp hlocate).2.2.2
    unfold textOf text?
    rcases hat : k.at? (Place.ofPath path) with _ | ⟨_ | text⟩ <;> simp [hat, eq_comm]

/-- A file that can be opened is changed. -/
theorem Opens.change_eq (h : k.Opens path) (f : String → String) (failure : FileError) :
    ∃ k', k.change path f failure = (k', none) ∧ k.Rewrites path (f (k.textOf path)) k' := by
  have hgrows := k.grows_createParent path
  have hfolders := at?_createParent h.createParent_eq_none
  have hnone := h.createParent_eq_none
  cases hcreate : k.createParent path with
  | mk made e =>
    rw [hcreate] at hgrows hfolders hnone
    obtain rfl : e = none := hnone
    have htext : made.textOf path = k.textOf path := by rw [textOf, hgrows.text?_eq, textOf]
    have hlocate : made.locate? path = some (Place.ofPath path) :=
      locate?_eq_some_iff.mpr ⟨⟨h.usable, h.names⟩, hfolders, h.steps, rfl⟩
    -- No folder has been made in the place of the file.
    have hfree : made.at? (Place.ofPath path) ≠ some .folder := by
      rcases hgrows (Place.ofPath path) with hsame | ⟨hmem, -⟩
      · rw [hsame]
        exact h.free
      · exact absurd hmem h.apart
    have hmodify := (modify?_eq_some_iff (f := f)).mpr ⟨⟨hlocate, hfree⟩, rfl⟩
    rw [htext] at hmodify
    refine ⟨made.put (Place.ofPath path) (.file (f (k.textOf path))),
      by simp only [change, hcreate, hmodify], at?_put_self hfree _, ?_, ?_⟩
    · intro q hq
      have hne : q ≠ Place.ofPath path := fun heq => h.apart (heq ▸ hq)
      rw [at?_put_of_ne hne]
      exact hfolders q hq
    · intro q hq
      rw [at?_put_of_ne hq]
      exact hgrows q

/-- A change that does not fail is of a file that can be opened. -/
theorem opens_of_change (h : (k.change path f failure).2 = none) : k.Opens path := by
  have hgrows := k.grows_createParent path
  have hfolders : (k.createParent path).2 = none → ∀ q ∈ Place.folders path,
      (k.createParent path).1.at? q = some .folder := at?_createParent
  unfold change at h
  split at h
  · cases h
  · rename_i made hcreate
    rw [hcreate] at hgrows hfolders
    split at h
    · rename_i hmodify
      obtain ⟨⟨hlocate, hfree⟩, -⟩ := modify?_eq_some_iff.mp hmodify
      obtain ⟨⟨husable, hnames⟩, -, hsteps, -⟩ := locate?_eq_some_iff.mp hlocate
      refine ⟨husable, hnames, hsteps, ?_, mt hgrows.at?_of_eq_some hfree, mt (hfolders rfl _) hfree⟩
      intro q hq text hfile
      have hfolder := hfolders rfl q hq
      rw [hgrows.at?_of_eq_some hfile] at hfolder
      cases hfolder
    · cases h

/-- So a file can be opened exactly if appending to it does not fail. -/
theorem append_eq_none_iff {text : String} : (k.append path text).2 = none ↔ k.Opens path := by
  constructor
  · exact opens_of_change
  · intro h
    obtain ⟨k', heq, -⟩ := h.change_eq (· ++ text) (.openFailed path)
    rw [append, heq]

/-- A change that fails makes folders of the path, if anything. -/
theorem grows_change (h : (k.change path f failure).2 ≠ none) :
    Grows (Place.folders path) k (k.change path f failure).1 := by
  have hgrows := k.grows_createParent path
  unfold change at h ⊢
  split
  · rename_i hcreate
    rwa [hcreate] at hgrows
  · rename_i hcreate
    rw [hcreate] at hgrows
    split
    · simp_all
    · exact hgrows

namespace Rewrites

variable {text : String}

/-- One file has the text, and all others have the texts that they had. -/
theorem text?_eq (h : k.Rewrites path text k') (p : Place) :
    k'.text? p = if Place.ofPath path = p then some text else k.text? p := by
  by_cases hp : Place.ofPath path = p
  · rw [if_pos hp, text?, ← hp, h.file]
  · rw [if_neg hp, text?, text?]
    rcases h.others p (Ne.symm hp) with hsame | ⟨-, hnone, hfolder⟩
    · rw [hsame]
    · rw [hnone, hfolder]

/-- So the text of the path is the text. -/
theorem textOf_eq (h : k.Rewrites path text k') : k'.textOf path = text := by
  rw [textOf, h.text?_eq, if_pos rfl, Option.getD_some]

/-- The file can still be opened. -/
theorem opens (h : k.Rewrites path text k') (hopens : k.Opens path) : k'.Opens path where
  usable := hopens.usable
  names := hopens.names
  steps := hopens.steps
  folders q hq text' := by
    rw [h.folders q hq]
    simp
  free := by
    rw [h.file]
    simp
  apart := hopens.apart

/-- And what is read from it is the text. -/
theorem read?_eq (h : k.Rewrites path text k') (hopens : k.Opens path) :
    k'.read? path = some text := by
  have hlocate : k'.locate? path = some (Place.ofPath path) :=
    locate?_eq_some_iff.mpr ⟨⟨hopens.usable, hopens.names⟩, h.folders, hopens.steps, rfl⟩
  rw [read?, hlocate, Option.bind_some, h.file]

/-- A file that has been rewritten twice has the second text. -/
theorem trans {text' : String} {k'' : Disk} (h : k.Rewrites path text k')
    (h' : k'.Rewrites path text' k'') : k.Rewrites path text' k'' where
  file := h'.file
  folders := h'.folders
  others q hq := by
    rcases h'.others q hq with hsame | ⟨hmem, hnone, -⟩
    · rw [hsame]
      exact h.others q hq
    · rw [h.folders q hmem] at hnone
      cases hnone

end Rewrites

end RecordSql.Files.Disk
