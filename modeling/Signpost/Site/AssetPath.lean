import Signpost.Text.Split

/-!
# Paths to assets

A path keeps the names between its slashes as they are written: an empty name and `.` stay where
they are, `..` goes up. `child` and `below` lead on from a folder, `page?` and `extension?` look at
the last name that leads somewhere. `child_below` says that names are followed one after another,
`follow_child` that a child is one name more for whoever goes by names and stays at an empty one.
-/

namespace Signpost

/-- The names that lead to an asset. -/
structure AssetPath where
  names : List String
deriving DecidableEq, Repr

namespace AssetPath

/-- Whether a name stays where it is. -/
def stays (name : String) : Bool :=
  name == "" || name == "."

/-- The path in a text. A text that starts with a slash leads away from the tree. -/
def ofText (s : String) : AssetPath :=
  let names := Text.pieces '/' s
  ⟨if s.toList.head? = some '/' then ".." :: names else names⟩

/-- The text of a path, without the stays it starts with. -/
def toText (p : AssetPath) : String :=
  Text.joined '/' (p.names.dropWhile stays)

/-- How many bytes the path takes as it is written. -/
def size (p : AssetPath) : Nat :=
  (Text.joined '/' p.names).utf8ByteSize

/-- Whether there is a zero byte in the path, where no file system takes one. -/
def hasZero (p : AssetPath) : Bool :=
  p.names.any fun name => name.toList.contains '\x00'

/-! ### Leading on -/

/-- The names in front of a further one. A closing slash is not written twice. -/
def opened (p : AssetPath) : List String :=
  if p.names.getLast? = some "" then p.names.dropLast else p.names

/-- The path to an entry of the folder at the end of `p`. -/
def child (p : AssetPath) (name : String) : AssetPath :=
  ⟨p.opened ++ [name]⟩

/-- The path that goes on from `p` by the given names. -/
def below (p : AssetPath) : List String → AssetPath
  | []            => p
  | name :: names => ⟨p.opened ++ name :: names⟩

@[simp] theorem below_nil (p : AssetPath) : p.below [] = p := rfl

theorem below_singleton (p : AssetPath) (name : String) : p.below [name] = p.child name := rfl

theorem child_below {names : List String} (h : "" ∉ names) (p : AssetPath) (name : String) :
    (p.below names).child name = p.below (names ++ [name]) := by
  cases names with
  | nil         => rfl
  | cons n names =>
    have : (n :: names).getLast? ≠ some "" := fun hl => h (List.mem_of_getLast? hl)
    simp [below, child, opened, List.getLast?_append, this]

theorem follow_child {ε σ : Type} {next : σ → String → Except ε σ}
    (hstay : ∀ s name, next s "" >>= (next · name) = next s name) (s : σ) (p : AssetPath)
    (name : String) :
    (p.child name).names.foldlM next s = p.names.foldlM next s >>= (next · name) := by
  unfold child opened
  split <;> rename_i h
  · obtain ⟨l, hl⟩ := List.getLast?_eq_some_iff.1 h
    simp [hl, hstay]
  · simp

/-! ### The last name -/

/-- The path without the stays it ends in. -/
def trimmed (p : AssetPath) : AssetPath :=
  ⟨(p.names.reverse.dropWhile stays).reverse⟩

/-- The last name that does not stay. -/
def lastName? (p : AssetPath) : Option String :=
  p.trimmed.names.getLast?

/-- The text behind the last dot of a name, unless that dot comes first. What goes up has none. -/
def extensionOf? (name : String) : Option String :=
  if name = ".." then none
  else
    match Text.cutList '.' name.toList.reverse with
    | some (reversed, _ :: _) => some (String.ofList reversed.reverse)
    | some (_, [])            => none
    | none                    => none

def extension? (p : AssetPath) : Option String :=
  p.lastName?.bind extensionOf?

/-- The path with `.html` behind its last name, unless that goes up or has an extension. -/
def page? (p : AssetPath) : Option AssetPath :=
  match p.lastName? with
  | none      => none
  | some name =>
    if name = ".." ∨ (extensionOf? name).isSome then none
    else some ⟨p.trimmed.names.dropLast ++ [name ++ ".html"]⟩

/-! ### Without returns -/

/-- One name more behind names without stays and returns: `..` takes the last one back. -/
def settle (names : List String) (name : String) : List String :=
  if stays name then names else if name = ".." then names.dropLast else names ++ [name]

end AssetPath

end Signpost
