/-!
# Files

A path is a text of segments between slashes. It is shown as it was given and never made shorter or
absolute; only its parent is taken with empty segments and single dots at its end ignored. A file is
found by following its path segment by segment, and a path that goes on behind something that is no
directory leads nowhere.

A tree holds the files and directories that a command can see, with the directory it works in. A
file is changed in single steps: it is made, filled, renamed or removed. To replace a file as a
whole, a draft of the new one is made next to it and then gets its name. Links, permissions and full
disks do not occur, so a place is reached in no other way than by its names. What is read like a
file without being one, such as a pipe, gives the same content at every reading. Of the library of
temporary files it is assumed that a draft gets a name that nothing else in its directory has, that
it takes the place of the file in one step or not at all, and that it is removed if it cannot.
-/

namespace LaneConvert

/-- A path to a file or directory. -/
structure Path where
  text : String
  deriving DecidableEq, Repr

namespace Path

/-- The path to the working directory. -/
def here : Path := ⟨"."⟩

/-- The parts of a text between slashes. There is one more part than there are slashes. -/
def splitSlashes : List Char → List (List Char)
  | [] => [[]]
  | c :: rest =>
    if c = '/' then [] :: splitSlashes rest
    else
      match splitSlashes rest with
      | [] => [[c]]
      | part :: more => (c :: part) :: more

/-- The segments of a path, empty ones included. -/
def segments (p : Path) : List String := (splitSlashes p.text.toList).map String.ofList

/-- Whether a path starts at the root. -/
def isAbsolute (p : Path) : Bool := p.text.toList.head? = some '/'

/-- Whether a segment leads nowhere. -/
def isIdle (segment : String) : Bool := segment = "" || segment = "."

/-- The segments without the idle ones at their end. -/
def dropIdle (segments : List String) : List String :=
  (segments.reverse.dropWhile isIdle).reverse

/-- The beginning of a path that is kept even if it is all that is left: a slash, or a dot that is
the whole first segment. Behind it are the other segments. -/
def splitLead (p : Path) : String × List String :=
  match p.segments with
  | "" :: second :: more => ("/", second :: more)
  | "." :: more => (".", if more.isEmpty then [] else "" :: more)
  | all => ("", all)

/-- The path without its last segment that leads somewhere. The root and the empty path have no
parent, and the parent of a single segment is the empty path. -/
def parent? (p : Path) : Option Path :=
  let (lead, body) := p.splitLead
  match dropIdle body with
  | [] => if lead = "." then some ⟨""⟩ else none
  | kept => some ⟨lead ++ "/".intercalate (dropIdle kept.dropLast)⟩

/-- The directory that holds a path, the working directory if the path names none. -/
def directory (p : Path) : Path :=
  match p.parent? with
  | some parent => if parent.text = "" then here else parent
  | none => here

/-- A path taken relative to a base. An absolute path replaces the base. -/
def join (base p : Path) : Path :=
  if p.isAbsolute then p
  else if base.text = "" || base.text.toList.getLast? = some '/' then ⟨base.text ++ p.text⟩
  else ⟨base.text ++ "/" ++ p.text⟩

end Path

/-- A place in a file tree: the names on the way from the root. -/
abbrev Location := List String

/-- What a place in a file tree holds. -/
inductive Node where
  | file (content : ByteArray)
  /-- Something that is read like a file but is none, such as a device or a pipe. It gives the same
  content at every reading. -/
  | special (content : ByteArray)
  | directory

/-- Contents are compared byte by byte. -/
instance : DecidableEq Node
  | .file a, .file b | .special a, .special b =>
    decidable_of_decidable_of_iff (p := a.data = b.data)
      ⟨fun h => congrArg _ (ByteArray.ext h), fun h => by cases h; rfl⟩
  | .directory, .directory => isTrue rfl
  | .file _, .special _ | .file _, .directory | .special _, .file _ | .special _, .directory
  | .directory, .file _ | .directory, .special _ => isFalse nofun

/-- The files and directories of a system. There are no links, so each place is reached by its names
only, and nothing but a change of the tree changes what a place holds. -/
structure Tree where
  /-- What the places hold, the root aside. The first entry of a place counts. -/
  entries : List (Location × Node)
  /-- The directory that relative paths start in. -/
  home : Location

namespace Tree

/-- What a place holds, if it holds anything. -/
def node? (t : Tree) (l : Location) : Option Node :=
  if l = [] then some .directory else (t.entries.find? fun e => e.1 = l).map Prod.snd

/-- Whether a place holds a directory. -/
def isDirectory (t : Tree) (l : Location) : Bool := t.node? l = some .directory

/-- Whether a segment can be the name of a file: it has no more than 255 bytes and no null
character. -/
def isName (segment : String) : Bool :=
  segment.utf8ByteSize ≤ 255 && !segment.toList.contains '\x00'

/-- The place that segments lead to. Each segment starts in a directory. -/
def follow? (t : Tree) (l : Location) : List String → Option Location
  | [] => some l
  | segment :: rest =>
    if !t.isDirectory l then none
    else if Path.isIdle segment then t.follow? l rest
    else if segment = ".." then t.follow? l.dropLast rest
    else if isName segment then t.follow? (l ++ [segment]) rest
    else none

/-- The greatest number of bytes of a path that can be followed. -/
def maxPathSize : Nat := 4095

/-- The place that a path leads to, which need not hold anything. -/
def locate? (t : Tree) (p : Path) : Option Location :=
  if p.text = "" || maxPathSize < p.text.utf8ByteSize then none
  else t.follow? (if p.isAbsolute then [] else t.home) p.segments

/-- What a path leads to, if it leads to anything. -/
def find? (t : Tree) (p : Path) : Option Node := (t.locate? p).bind t.node?

/-- Whether a path leads to a file. -/
def isFile (t : Tree) (p : Path) : Bool :=
  match t.find? p with
  | some (.file _) => true
  | _ => false

/-- The text of a file or of what is read like one. Only text can be read. -/
def read? (t : Tree) (p : Path) : Option String :=
  match t.find? p with
  | some (.file content) | some (.special content) => String.fromUTF8? content
  | _ => none

/-- The tree in which a place holds the given content. -/
def put (t : Tree) (l : Location) (node : Node) : Tree :=
  { t with entries := (l, node) :: t.entries.filter fun e => e.1 ≠ l }

/-- A place other than the root holds what was put there. -/
theorem node?_put_self (t : Tree) {l : Location} (h : l ≠ []) (node : Node) :
    (t.put l node).node? l = some node := by
  simp [node?, put, h]

/-- What is put somewhere else does not change what a place holds. -/
theorem node?_put_of_ne (t : Tree) {l m : Location} (h : m ≠ l) (node : Node) :
    (t.put l node).node? m = t.node? m := by
  have hl : l ≠ m := fun e => h e.symm
  by_cases hm : m = []
  · simp only [node?, hm, if_true]
  · simp only [node?, put, hm, if_false, List.find?_cons, decide_eq_false hl, List.find?_filter]
    congr 2
    funext e
    by_cases he : e.1 = m
    · simp [he, h]
    · simp [he]

/-- The tree in which a place holds nothing. -/
def erase (t : Tree) (l : Location) : Tree :=
  { t with entries := t.entries.filter fun e => e.1 ≠ l }

/-- A place other than the root that was cleared holds nothing. -/
theorem node?_erase_self (t : Tree) {l : Location} (h : l ≠ []) : (t.erase l).node? l = none := by
  simp [node?, erase, h]

/-- What is cleared somewhere else does not change what a place holds. -/
theorem node?_erase_of_ne (t : Tree) {l m : Location} (h : m ≠ l) :
    (t.erase l).node? m = t.node? m := by
  simp only [node?, erase, List.find?_filter]
  congr 3
  funext e
  by_cases he : e.1 = m
  · simp [he, h]
  · simp [he]

/-- What was put into a place is gone, together with what was there before, when the place is
cleared. -/
theorem erase_put_self (t : Tree) (l : Location) (node : Node) :
    (t.put l node).erase l = t.erase l := by
  simp [put, erase]

/-- Nothing is removed from a place that holds nothing. -/
theorem erase_of_node?_eq_none {t : Tree} {l : Location} (h : t.node? l = none) :
    t.erase l = t := by
  have hroot : l ≠ [] := by
    intro hnil
    simp [node?, hnil] at h
  rw [node?, if_neg hroot, Option.map_eq_none_iff, List.find?_eq_none] at h
  have hkeep : t.entries.filter (fun e => e.1 ≠ l) = t.entries := by
    rw [List.filter_eq_self]
    intro e he
    simpa using h e he
  rw [erase, hkeep]

/-- A change of one file. -/
inductive Change where
  /-- A new file without content is made. -/
  | create (l : Location)
  /-- A file gets the given content. -/
  | write (l : Location) (content : ByteArray)
  /-- A file goes to another place and takes that of what is there. -/
  | rename (source target : Location)
  /-- A file is removed. -/
  | remove (l : Location)

/-- The tree after a change. -/
def apply (t : Tree) : Change → Tree
  | .create l => t.put l (.file .empty)
  | .write l content => t.put l (.file content)
  | .rename source target =>
    match t.node? source with
    | some node => (t.erase source).put target node
    | none => t
  | .remove l => t.erase l

/-- The tree after several changes, the first one first. -/
def applyAll (t : Tree) (changes : List Change) : Tree := changes.foldl apply t

/-- The path to a directory from the root. -/
def fromRoot (t : Tree) (directory : Path) : Path :=
  Path.join ⟨"/" ++ "/".intercalate t.home⟩ directory

/-- The name of a draft by its number. Numbers of up to six digits give names of ten characters. -/
def draftName (n : Nat) : String :=
  ".tmp" ++ String.ofList ((Nat.toDigits 10 n).leftpad 6 '0')

/-- The number of bytes in the name of a draft. -/
def draftNameSize : Nat := 10

/-- Whether a draft can be made in a directory: the directory exists, and the path of the draft from
the root is not too long. -/
def canDraft (t : Tree) (directory : Path) : Bool :=
  t.find? directory = some .directory &&
    (t.fromRoot directory).text.utf8ByteSize + 1 + draftNameSize ≤ maxPathSize

/-- The place of a draft in a directory, under the first name that is not taken. One of these names
is free, since there are more of them than entries in the tree. -/
def draft? (t : Tree) (directory : Path) : Option Location :=
  if t.canDraft directory then
    (t.locate? directory).bind fun l =>
      ((List.range (t.entries.length + 1)).map fun n => l ++ [draftName n]).find? fun draft =>
        t.node? draft = none
  else none

/-- The changes that make a draft of a text. -/
def drafting (draft : Location) (text : String) : List Change :=
  [.create draft, .write draft text.toUTF8]

/-- The changes that clear a draft away which cannot take the place of the file. That nothing is
left of such a draft is assumed of the library of temporary files. -/
def discarding (draft : Location) : List Change := [.remove draft]

/-- The place of a file that is to be replaced or made anew. A directory is never replaced. -/
def target? (t : Tree) (p : Path) : Option Location :=
  (t.locate? p).filter fun l => !t.isDirectory l

/-- Why a file could not be replaced. -/
inductive WriteFault where
  /-- No draft can be made in this directory. -/
  | noDirectory (directory : Path)
  /-- The draft cannot take the place of what is there. -/
  | irreplaceable (path : Path)
  deriving DecidableEq, Repr

end Tree

end LaneConvert
