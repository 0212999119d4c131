import CutAndChoose.Files.Fault

/-!
# CutAndChoose.Files.Directory

A directory tree as a value, with the rules by which a path names a place in it.

A place is the list of names that leads to it from the current directory. The current directory,
the directories above it and the root always exist; everything else has an entry.

* `Directory.entry?`: what stands at a place.
* `Directory.place`: the place that a path names. All places on the way must be directories; the
  last one may be missing.
* `Directory.read`, `Directory.write`: the bytes of a file, and the tree with a file replaced.
-/

namespace CutAndChoose

inductive Entry where
  | file (bytes : ByteArray)
  | directory

def Entry.isDirectory : Entry → Bool
  | file _ => false
  | directory => true

abbrev Place := List String

structure Directory where
  entries : List (Place × Entry)

namespace Directory

def empty : Directory := ⟨[]⟩

def root : Place := ["/"]

/-- The current directory and those above it. -/
def isAbove (p : Place) : Bool := p.all (· == "..")

def entry? (d : Directory) (p : Place) : Option Entry :=
  if p = root ∨ isAbove p then some .directory else d.entries.lookup p

/-- Puts an entry at a place, in place of what stood there. -/
def put (d : Directory) (p : Place) (e : Entry) : Directory :=
  ⟨(p, e) :: d.entries.filter (·.1 != p)⟩

/-- The place that one name leads to. -/
def step (p : Place) (name : String) : Place :=
  if name = "" ∨ name = "." then p
  else if name = ".." then
    if p = root then root else if isAbove p then p ++ [".."] else p.dropLast
  else p ++ [name]

def follow (d : Directory) : Place → List String → Except FileFault Place
  | p, [] => .ok p
  | p, name :: names =>
    match d.entry? p with
    | none => .error .notFound
    | some (.file _) => .error .notDirectory
    | some .directory =>
      if 255 < name.utf8ByteSize then .error .nameTooLong else d.follow (step p name) names

/-- Names between the separators of a path. -/
def names (path : String) : List String := path.splitOn "/"

/-- The place that names lead to, on a path of these names. -/
def placeOf (d : Directory) (path : String) (names : List String) : Except FileFault Place :=
  if path.contains '\x00' then .error .nulInName
  else if path = "" then .error .notFound
  else if 4096 ≤ path.utf8ByteSize then .error .nameTooLong
  else d.follow (if path.startsWith "/" then root else []) names

def place (d : Directory) (path : String) : Except FileFault Place := d.placeOf path (names path)

def read (d : Directory) (path : String) : Except FileFault ByteArray :=
  match d.place path with
  | .error f => .error f
  | .ok p =>
    match d.entry? p with
    | none => .error .notFound
    | some .directory => .error .isDirectory
    | some (.file bytes) => .ok bytes

/-- The names before the last one. -/
def namesAbove (path : String) : List String :=
  ((names path).reverse.dropWhile (· == "")).reverse.dropLast

/-- Why no file can be written at a path that ends in a separator: the path names a directory,
whatever its last name and even where there is none yet. -/
def separatorFault (d : Directory) (path : String) : FileFault :=
  match d.placeOf path (namesAbove path) with
  | .error f => f
  | .ok p =>
    match d.entry? p with
    | none => .notFound
    | some (.file _) => .notDirectory
    | some .directory => .isDirectory

/-- The place of a file that is about to be written. -/
def target (d : Directory) (path : String) : Except FileFault Place :=
  if path.endsWith "/" then .error (d.separatorFault path)
  else
    match d.place path with
    | .error f => .error f
    | .ok p => if (d.entry? p).any (·.isDirectory) then .error .isDirectory else .ok p

def write (d : Directory) (path : String) (bytes : ByteArray) : Except FileFault Directory :=
  match d.target path with
  | .error f => .error f
  | .ok p => .ok (d.put p (.file bytes))

end Directory

end CutAndChoose
