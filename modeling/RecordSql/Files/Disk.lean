import RecordSql.Files.Path

/-!
# `RecordSql.Files.Disk`: folders and files

A disk maps places to folders and files. A place is a list of names from the working folder,
after as many `..` as it takes to leave it, or from the root after `/`. The working folder,
those above it and the root are always there.

Writing a file makes the folders of its path that are missing. Folders that have been made
stay when something fails later, so a change gives the disk after it in any case, together
with the error if there is one.

Three things are left out. Where the working folder lies is not known, so a place reached from
it and one reached from the root are different, also if they are the same: for a run in `/w`,
`a.sql`, `/w/a.sql` and `../w/a.sql` lead to three places here. A file that has been opened can
be written, so no disk gets full and `appendFailed` does not come up. And every file is a text:
there is none whose bytes are not UTF-8.
-/

set_option autoImplicit false

namespace RecordSql.Files

/-- The names that lead to a folder or file. -/
abbrev Place := List String

namespace Place

/-- Whether a place is the working folder, one above it, or the root. -/
def isGiven (p : Place) : Bool :=
  p == [rootStep] || p.all (· == "..")

/-- The place to which a step from a place leads. The root has nothing above it. -/
def beyond (p : Place) (step : String) : Place :=
  if step != ".." then p ++ [step]
  else if p == [rootStep] then p
  else if isGiven p then p ++ [".."]
  else p.dropLast

/-- The place where a path begins. -/
def startOf (path : String) : Place :=
  if isAbsolute path then [rootStep] else []

end Place

/-- What is at a place. -/
inductive Entry where
  | folder
  | file (text : String)
deriving DecidableEq, Repr

/-- The folders and files that have been made. -/
structure Disk where
  entries : List (Place × Entry) := []
deriving DecidableEq, Repr

/-- Why a file or folder cannot be used, with its path. -/
inductive FileError where
  | readFailed (path : String)
  | writeFailed (path : String)
  | createFailed (path : String)
  | openFailed (path : String)
  | appendFailed (path : String)
deriving DecidableEq, Repr

/-- The wording of an error. -/
def FileError.message : FileError → String
  | readFailed path => "failed to read " ++ path
  | writeFailed path => "failed to write " ++ path
  | createFailed path => "failed to create directory " ++ path
  | openFailed path => "failed to open " ++ path
  | appendFailed path => "failed to append to " ++ path

namespace Disk

/-- What is at a place, if anything. -/
def at? (k : Disk) (p : Place) : Option Entry :=
  if Place.isGiven p then some .folder else k.entries.lookup p

/-- Puts a folder or file at a place, over what was there. -/
def put (k : Disk) (p : Place) (e : Entry) : Disk :=
  ⟨(p, e) :: k.entries.filter (·.1 != p)⟩

/-- Goes from a place along the steps. Every place that is left must be a folder. -/
def walk (k : Disk) (p : Place) : List String → Option Place
  | [] => some p
  | step :: rest =>
    if k.at? p = some .folder && isUsableStep step then k.walk (Place.beyond p step) rest else none

/-- The place to which a path leads, if the path can be that of a file. -/
def locate? (k : Disk) (path : String) : Option Place :=
  if isUsable path && namesFile path then k.walk (Place.startOf path) (steps path) else none

/-- The text of the file to which a path leads. -/
def read? (k : Disk) (path : String) : Option String :=
  match (k.locate? path).bind k.at? with
  | some (.file text) => some text
  | _ => none

/-- Makes the folders along the steps from a place that are missing, up to one that cannot
be made. Also says whether all are there now. -/
def makeFolders (k : Disk) (p : Place) : List String → Disk × Bool
  | [] => (k, true)
  | step :: rest =>
    let next := Place.beyond p step
    match k.at? next with
    | some .folder => k.makeFolders next rest
    | some (.file _) => (k, false)
    | none =>
      if isUsableStep step then (k.put next .folder).makeFolders next rest else (k, false)

/-- Makes the folders in which a path lies, as far as they are missing. -/
def createParent (k : Disk) (path : String) : Disk × Option FileError :=
  let folder := parent path
  let (made, isComplete) :=
    if isUsable folder then k.makeFolders (Place.startOf folder) (steps folder) else (k, false)
  (made, if isComplete then none else some (.createFailed folder))

/-- Replaces the text of the file to which a path leads by a function of the old text, of
the empty text if there is no such file. -/
def modify? (k : Disk) (path : String) (change : String → String) : Option Disk :=
  match k.locate? path with
  | none => none
  | some p =>
    match k.at? p with
    | some .folder => none
    | some (.file text) => some (k.put p (.file (change text)))
    | none => some (k.put p (.file (change "")))

/-- Reads a file. -/
def read (k : Disk) (path : String) : Except FileError String :=
  match k.read? path with
  | some text => .ok text
  | none => .error (.readFailed path)

/-- Changes the text of a file and makes its folders, which stay if the file cannot be
changed. -/
def change (k : Disk) (path : String) (f : String → String) (failure : FileError) :
    Disk × Option FileError :=
  match k.createParent path with
  | (k, some e) => (k, some e)
  | (k, none) =>
    match k.modify? path f with
    | some k => (k, none)
    | none => (k, some failure)

/-- Writes a file, over what was there, and makes its folders. -/
def write (k : Disk) (path text : String) : Disk × Option FileError :=
  k.change path (fun _ => text) (.writeFailed path)

/-- Appends to a file, which need not be there, and makes its folders. -/
def append (k : Disk) (path text : String) : Disk × Option FileError :=
  k.change path (· ++ text) (.openFailed path)

end Disk

end RecordSql.Files
