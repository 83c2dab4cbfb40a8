import TestImpact.Path.Basic

/-!
# The file system as a process sees it

A `FileSystem` is a list of entries, each at its `Location` (the names that lead to it
from the root directory, no link among them), and the working directory. Every
entry lies in a listed directory and no location is listed twice, and the only two
changes, `place` and `prune`, keep that so. The root directory is always there and
is not listed.
-/

namespace TestImpact

/-- The names that lead from the root directory to an entry, without links, `.` and `..`. -/
abbrev Location := List String

/-- What a location holds. -/
inductive Node where
  | directory
  | file (content : List UInt8) (executable : Bool)
  | link (target : String)
  deriving DecidableEq, Repr

/-- Why the file system refuses a request. -/
inductive Fault where
  | missing
  | notDirectory
  | isDirectory
  | alreadyExists
  | tooManyLinks
  | nameTooLong
  | notPermitted
  /-- The file is no program. -/
  | notRunnable
  | nulByte
  deriving DecidableEq, Repr

/-- Does a fault only mean that there is nothing of the kind asked for? -/
def Fault.isAbsence : Fault → Bool
  | .missing | .notDirectory | .tooManyLinks | .nulByte => true
  | _ => false

/-- Can a text name an entry of a directory? -/
def isName (name : String) : Bool :=
  name ≠ "" && name ≠ "." && name ≠ ".." && !name.toList.contains '/'

/-- Entries below the root directory, and the directory that relative paths start at. -/
structure FileSystem where
  entries : List (Location × Node) := []
  workingDirectory : Location := []
  nodup : (entries.map Prod.fst).Nodup := by simp
  placed : ∀ entry ∈ entries, ∃ above name, entry.1 = above ++ [name] ∧ isName name = true ∧
    (above = [] ∨ (above, Node.directory) ∈ entries) := by simp

namespace FileSystem

/-- Only the root directory. -/
def empty : FileSystem := {}

instance : Inhabited FileSystem := ⟨empty⟩

/-- What stands at a location. -/
def node? (fs : FileSystem) (location : Location) : Option Node :=
  if location = [] then some .directory else fs.entries.lookup location

/-- Is there a directory at a location? -/
def isDirectoryAt (fs : FileSystem) (location : Location) : Bool :=
  fs.node? location = some .directory

theorem mem_of_lookup {location : Location} {node : Node} {entries : List (Location × Node)}
    (h : entries.lookup location = some node) : (location, node) ∈ entries := by
  induction entries with
  | nil => simp at h
  | cons entry rest ih =>
    obtain ⟨key, value⟩ := entry
    rw [List.lookup_cons] at h
    split at h
    next same =>
      cases h
      simp [eq_of_beq same]
    next => exact List.mem_cons_of_mem _ (ih h)

theorem lookup_of_mem {location : Location} {node : Node} {entries : List (Location × Node)}
    (nodup : (entries.map Prod.fst).Nodup) (h : (location, node) ∈ entries) :
    entries.lookup location = some node := by
  induction entries with
  | nil => simp at h
  | cons entry rest ih =>
    obtain ⟨key, value⟩ := entry
    rw [List.map_cons, List.nodup_cons] at nodup
    rw [List.lookup_cons]
    rcases List.mem_cons.1 h with same | later
    · cases same
      simp
    · have differs : location ≠ key := by
        rintro rfl
        exact nodup.1 (List.mem_map.2 ⟨_, later, rfl⟩)
      have unequal : (location == key) = false := by simpa using differs
      rw [unequal]
      exact ih nodup.2 later

theorem ne_nil_of_mem (fs : FileSystem) {entry : Location × Node} (h : entry ∈ fs.entries) :
    entry.1 ≠ [] := by
  obtain ⟨above, name, eq, -⟩ := fs.placed entry h
  simp [eq]

/-- An entry is listed exactly when it is what stands at its location. -/
theorem mem_entries_iff (fs : FileSystem) {location : Location} {node : Node} :
    (location, node) ∈ fs.entries ↔ location ≠ [] ∧ fs.node? location = some node := by
  constructor
  · intro h
    have nonempty := fs.ne_nil_of_mem h
    refine ⟨nonempty, ?_⟩
    rw [node?, if_neg nonempty]
    exact lookup_of_mem fs.nodup h
  · rintro ⟨nonempty, h⟩
    rw [node?, if_neg nonempty] at h
    exact mem_of_lookup h

/-- Takes away what stands at a location, with everything below it. -/
def prune (fs : FileSystem) (location : Location) : FileSystem :=
  { fs with
    entries := fs.entries.filter fun entry => !location.isPrefixOf entry.1
    nodup := (fs.nodup.sublist ((List.filter_sublist).map Prod.fst))
    placed := by
      intro entry mem
      obtain ⟨listed, outside⟩ := List.mem_filter.1 mem
      obtain ⟨above, name, eq, valid, home⟩ := fs.placed entry listed
      refine ⟨above, name, eq, valid, home.imp id fun dir => List.mem_filter.2 ⟨dir, ?_⟩⟩
      simp only [Bool.not_eq_true', Bool.eq_false_iff, ne_eq,
        List.isPrefixOf_iff_prefix] at outside ⊢
      exact fun inside => outside (eq ▸ inside.trans (List.prefix_append above [name])) }

/-- Puts a node into a directory under a name and takes away what stood there, with everything
below it. A place outside every directory stays as it is. -/
def place (fs : FileSystem) (above : Location) (name : String) (node : Node) : FileSystem :=
  if h : isName name = true ∧ (above = [] ∨ (above, Node.directory) ∈ fs.entries) then
    let rest := fs.prune (above ++ [name])
    { rest with
      entries := rest.entries ++ [(above ++ [name], node)]
      nodup := by
        rw [List.map_append, List.nodup_append]
        refine ⟨rest.nodup, by simp, ?_⟩
        intro a ha b hb
        obtain ⟨entry, mem, rfl⟩ := List.mem_map.1 ha
        have outside := (List.mem_filter.1 mem).2
        simp only [Bool.not_eq_true', Bool.eq_false_iff, ne_eq, List.isPrefixOf_iff_prefix]
          at outside
        simp only [List.map_cons, List.map_nil, List.mem_singleton] at hb
        subst hb
        intro same
        exact outside (same ▸ List.prefix_rfl)
      placed := by
        intro entry mem
        rcases List.mem_append.1 mem with old | new
        · obtain ⟨key, last, eq, valid, home⟩ := rest.placed entry old
          exact ⟨key, last, eq, valid, home.imp id fun dir => List.mem_append_left _ dir⟩
        · have same : entry = (above ++ [name], node) := by simpa using new
          subst same
          refine ⟨above, name, rfl, h.1, h.2.imp id fun dir => ?_⟩
          refine List.mem_append_left _ (List.mem_filter.2 ⟨dir, ?_⟩)
          simp only [Bool.not_eq_true', Bool.eq_false_iff, ne_eq, List.isPrefixOf_iff_prefix]
          intro inside
          exact absurd inside.length_le (by simp) }
  else fs

end FileSystem

end TestImpact
