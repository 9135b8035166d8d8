import Signpost.Site.AssetPath
import Signpost.Text.Utf8

/-!
# File trees

Folders and files without links. `find` follows a path down the tree, and `putFile` and `putFolder`
make what is missing on the way. `find_child` says that an entry of a folder is found by finding the
folder first.
-/

namespace Signpost

/-- A file with its bytes, or a folder with its entries. -/
inductive FileTree
  | file (content : Bytes)
  | folder (entries : List (String × FileTree))

/-- Why a file could not be read. -/
inductive ReadFault
  | notFound
  | isFolder
  | notFolder
  | tooLong
  | zeroByte
  | other (message : String)
deriving DecidableEq, Repr

namespace FileTree

def empty : FileTree := folder []

instance : Inhabited FileTree := ⟨empty⟩

def entries : FileTree → List (String × FileTree)
  | file _    => []
  | folder es => es

/-! ### Looking -/

/-- A file or a folder, with the folders around it, the nearest first. -/
structure Spot where
  here : FileTree
  around : List FileTree := []

/-- The most bytes that the name of an entry may have. -/
def longestName : Nat := 255

/-- One name on from a spot. Nothing leads on from a file. Above the tree there are folders without
entries. -/
def Spot.next (s : Spot) (name : String) : Except ReadFault Spot :=
  match s.here with
  | file _    => .error .notFolder
  | folder es =>
    if AssetPath.stays name then .ok s
    else if name = ".." then
      match s.around with
      | []           => .ok ⟨empty, []⟩
      | up :: around => .ok ⟨up, around⟩
    else if longestName < name.utf8ByteSize then .error .tooLong
    else
      match es.lookup name with
      | some t => .ok ⟨t, s.here :: s.around⟩
      | none   => .error .notFound

theorem Spot.next_empty_name (s : Spot) (name : String) :
    s.next "" >>= (Spot.next · name) = s.next name := by
  cases h : s.here with
  | file bs   => simp [next, h, bind, Except.bind]
  | folder es =>
    have : s.next "" = .ok s := by simp [next, h, AssetPath.stays]
    rw [this]; rfl

def spot (t : FileTree) (path : AssetPath) : Except ReadFault Spot :=
  path.names.foldlM Spot.next ⟨t, []⟩

/-- What is at the end of a path. -/
def find (t : FileTree) (path : AssetPath) : Except ReadFault FileTree :=
  (t.spot path).map Spot.here

theorem spot_child (t : FileTree) (path : AssetPath) (name : String) :
    t.spot (path.child name) = t.spot path >>= (Spot.next · name) :=
  AssetPath.follow_child Spot.next_empty_name _ path name

theorem find_child (t : FileTree) (path : AssetPath) (name : String) :
    t.find (path.child name) = t.spot path >>= fun s => (s.next name).map Spot.here := by
  rw [find, spot_child]
  cases t.spot path <;> rfl

/-! ### Growing -/

/-- Changes the entry under a name, or makes one. -/
def alterEntry (name : String) (f : Option FileTree → FileTree) :
    List (String × FileTree) → List (String × FileTree)
  | []           => [(name, f none)]
  | (n, t) :: es => if n = name then (n, f (some t)) :: es else (n, t) :: alterEntry name f es

/-- Changes what is under the names, one inside the other, and makes the folders that lead there. -/
def alter (f : Option FileTree → FileTree) : List String → Option FileTree → FileTree
  | [],            t => f t
  | name :: names, t => folder (alterEntry name (alter f names) (t.getD empty).entries)

/-- The tree with all folders on a path, and the names under which the last of them is. -/
def makeFolders (t : FileTree) (path : AssetPath) : FileTree × List String :=
  path.names.foldl (fun (t, names) name =>
    let names := AssetPath.settle names name
    (alter (fun old => folder (old.getD empty).entries) names (some t), names)) (t, [])

/-- Makes the folders on a path, those that are missing. -/
def putFolder (t : FileTree) (path : AssetPath) : FileTree :=
  (t.makeFolders path).1

/-- Puts a file at the end of a path, and makes the folders that lead there. -/
def putFile (t : FileTree) (path : AssetPath) (content : Bytes) : FileTree :=
  match path.names.getLast? with
  | none      => t
  | some name =>
    let (t, names) := t.makeFolders ⟨path.names.dropLast⟩
    alter (fun _ => file content) (names ++ [name]) (some t)

end FileTree

end Signpost
