import Signpost.Binding.Handler
import Signpost.Site.FileTree

/-!
# Static content

A resolver is asked two things: which asset a path stands for, and what is in it. `Site` answers for
the files of a folder:

* a folder stands for its `index.html`,
* `name` stands for `name.html` if there is no `name`,
* a path with a name that starts with `.` or `_` stands for nothing.
-/

namespace Signpost

/-- A source of static content. -/
structure Resolver where
  locate : String → Attempt (Option AssetPath)
  load : AssetPath → Attempt (Except ReadFault Payload)

/-- The files of a folder that are served, and the most bytes that a path in the tree may have. -/
structure Site where
  tree : FileTree
  root : AssetPath
  longestPath : Nat := 4095

namespace Site

/-! ### Files -/

/-- What is at the end of a path that can be followed. -/
def find (s : Site) (path : AssetPath) : Except ReadFault FileTree :=
  if path.hasZero then .error .zeroByte
  else if s.longestPath < path.size then .error .tooLong
  else s.tree.find path

def hasFolder (s : Site) (path : AssetPath) : Bool :=
  match s.find path with
  | .ok (.folder _) => true
  | _               => false

def hasFile (s : Site) (path : AssetPath) : Bool :=
  match s.find path with
  | .ok (.file _) => true
  | _             => false

def read (s : Site) (path : AssetPath) : Except ReadFault Bytes :=
  match s.find path with
  | .ok (.file bs)  => .ok bs
  | .ok (.folder _) => .error .isFolder
  | .error e        => .error e

theorem hasFile_iff {s : Site} {path : AssetPath} :
    s.hasFile path = true ↔ ∃ bs, s.read path = .ok bs := by
  unfold hasFile read
  split <;> rename_i h <;> simp [h]
  split <;> simp_all

/-! ### Assets -/

/-- The names on a path of the site, without those that stay. -/
def pathNames (path : String) : List String :=
  (Text.pieces '/' path).filter fun name => !AssetPath.stays name

/-- Whether a name is kept from the outside. -/
def isHidden (name : String) : Bool :=
  match name.toList with
  | c :: _ => c == '.' || c == '_'
  | []     => false

/-- The place in the tree that a path of the site means. -/
def place? (s : Site) (path : String) : Option AssetPath :=
  let names := pathNames path
  if names.any isHidden then none else some (s.root.below names)

/-- The file that a path of the site stands for. -/
def locate (s : Site) (path : String) : Option AssetPath := do
  let place ← s.place? path
  if s.hasFolder place then
    let index := place.child "index.html"
    if s.hasFile index then some index else none
  else if s.hasFile place then some place
  else
    let page ← place.page?
    if s.hasFile page then some page else none

def contentType (asset : AssetPath) : ContentType :=
  match asset.extension? with
  | some extension => .ofExtension extension
  | none           => .octetStream

/-- The bytes of an asset under its content type. -/
def load (s : Site) (asset : AssetPath) : Except ReadFault Payload :=
  match s.read asset with
  | .ok bs   => .ok (.ofBytes (contentType asset).mediaType bs)
  | .error e => .error e

/-- The site as a source of static content. -/
def resolver (s : Site) : Resolver where
  locate path := .finished (s.locate path)
  load asset := .finished (s.load asset)

end Site

end Signpost
