import Reverb.CommandLine.Host

/-!
# CommandLine/Folder — a host with one folder of plain files

A small host to run on: plain files under their names in one folder, and a standard output that is a
stream or one of these files and can be opened again, as `/dev/stdout`.  No other path can be
opened.  It is a host that can be relied on (`Folder.lawful`).
-/

namespace Reverb.CommandLine

/-- The files of the folder, what comes on the input, and what the stream has taken. -/
structure Folder where
  files : List (String × List UInt8) := []
  input : List UInt8 := []
  shown : List UInt8 := []
  deriving DecidableEq

namespace Folder

/-- What can be written. -/
inductive Place where
  | stream
  | file (name : String)
  deriving DecidableEq

/-- What stands at a place. -/
def content (folder : Folder) : Place → Option (List UInt8)
  | .stream => some folder.shown
  | .file name => folder.files.lookup name

/-- The folder with a new content of one of its places. -/
def put (folder : Folder) (bytes : List UInt8) : Place → Folder
  | .stream => { folder with shown := bytes }
  | .file name => { folder with files := (name, bytes) :: folder.files }

/-- Write behind what stands at a place. -/
def append (folder : Folder) (bytes : List UInt8) (place : Place) : Folder :=
  match folder.content place with
  | none => folder
  | some old => folder.put (old ++ bytes) place

/-- The path is the name of a file in the folder. -/
def IsName (path : String) : Prop :=
  path ≠ "" ∧ path ≠ "." ∧ path ≠ ".." ∧ path.toList.contains '/' = false

instance (path : String) : Decidable (IsName path) :=
  inferInstanceAs (Decidable (_ ∧ _ ∧ _ ∧ _))

/-- The place to which a path leads, with the standard output at `output`. -/
def place? (output : Place) (path : String) : Option Place :=
  if path = "/dev/stdout" then some output else if IsName path then some (.file path) else none

/-- Open a place to write: a file is empty then. -/
def opened (folder : Folder) : Place → Folder
  | .stream => folder
  | .file name => folder.put [] (.file name)

/-- Open a path to write. -/
def create (output : Place) (path : String) (folder : Folder) : Except FileError Place × Folder :=
  match place? output path with
  | none => (.error (.numbered "No such file or directory" 2), folder)
  | some place => (.ok place, folder.opened place)

/-- **The folder as a host,** with its standard output at `output`. -/
def host (output : Place) : Host Folder Place where
  read path folder := (folder.files.lookup path, folder)
  input := Folder.input
  print bytes folder := folder.append bytes output
  create := create output
  write place bytes folder := (.ok (), folder.append bytes place)

/-- **What can be seen of the folder.** -/
def view (output : Place) : View Folder Place Place where
  content := content
  IsFile place := place ≠ .stream
  place := id
  output := output

variable {folder after : Folder} {place other output : Place} {path : String}

theorem content_put (folder : Folder) (bytes : List UInt8) (place : Place) :
    (folder.put bytes place).content place = some bytes := by
  cases place with
  | stream => rfl
  | file name => exact List.lookup_cons_self

theorem content_put_of_ne (bytes : List UInt8) (hne : other ≠ place) :
    (folder.put bytes place).content other = folder.content other := by
  cases place with
  | stream =>
    cases other with
    | stream => exact absurd rfl hne
    | file name => rfl
  | file name =>
    cases other with
    | stream => rfl
    | file there =>
      have hname : there ≠ name := fun h => hne (congrArg _ h)
      rw [put, content, content, List.lookup_cons, beq_false_of_ne hname]

theorem content_append (folder : Folder) (bytes : List UInt8) (place : Place) :
    (folder.append bytes place).content place = (folder.content place).map (· ++ bytes) := by
  rw [append]
  split
  · next h => rw [h, Option.map_none]
  · next old h => rw [h, content_put, Option.map_some]

theorem content_append_of_ne (bytes : List UInt8) (hne : other ≠ place) :
    (folder.append bytes place).content other = folder.content other := by
  rw [append]
  split
  · rfl
  · exact content_put_of_ne _ hne

theorem content_opened_of_ne (hne : other ≠ place) :
    (folder.opened place).content other = folder.content other := by
  cases place with
  | stream => rfl
  | file name => exact content_put_of_ne [] hne

/-- What can be opened is open then. -/
theorem of_create_eq_ok (h : create output path folder = (.ok place, after)) :
    after = folder.opened place := by
  rw [create] at h
  split at h <;> cases h
  rfl

/-- What cannot be opened leaves the folder as it is. -/
theorem of_create_eq_error {error : FileError}
    (h : create output path folder = (.error error, after)) : after = folder := by
  rw [create] at h
  split at h <;> cases h
  rfl

/-- **A folder is a host that can be relied on.** -/
theorem lawful (output : Place) : (host output).Lawful (view output) where
  content_read _ _ := rfl
  content_print bytes folder := content_append folder bytes output
  content_print_of_ne bytes _ _ := content_append_of_ne bytes
  content_refused _ _ _ _ h := congrArg content (of_create_eq_error h)
  content_file _ folder place _ h hfile := by
    obtain rfl := of_create_eq_ok h
    cases place with
    | stream => exact absurd rfl hfile
    | file name => exact content_put folder [] (.file name)
  content_stream _ _ place _ h hstream := by
    obtain rfl := of_create_eq_ok h
    obtain rfl : place = .stream := Decidable.not_not.1 hstream
    rfl
  content_create_of_ne _ _ _ _ _ h hne := by
    obtain rfl := of_create_eq_ok h
    exact content_opened_of_ne hne
  content_write _ _ place after bytes _ :=
    ⟨bytes, List.prefix_refl bytes, fun _ => rfl, content_append after bytes place⟩
  content_write_of_ne _ _ _ _ bytes _ _ := content_append_of_ne bytes

end Folder

end Reverb.CommandLine
