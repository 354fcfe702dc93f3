import TexSplice.Digest.Sha256
import TexSplice.Fault
import TexSplice.Json.Printer
import TexSplice.Text.Wild

/-! # Stored replies

Every entry is a file named for the component that asked and for a digest of the component and
the data it asked with. Data that differ only in the order of their fields have one entry. -/
namespace TexSplice

/-- The files of a store by name, no two of one name. A file that cannot be read holds
nothing. -/
structure Store where
  files : List (Text × Option Json) := []
  nodup_names : (files.map Prod.fst).Nodup := by exact List.nodup_nil

instance : Inhabited Store := ⟨{}⟩

namespace Store

/-! ## Names -/

def opening : Text := "completion_".toList

def suffix : Text := ".pkl".toList

/-- What the digest is taken of. -/
def digested (component : Text) (data : Json) : Text := component ++ ':' :: data.sorted

def digestLength : Nat := 16

def key (component : Text) (data : Json) : Text :=
  opening ++ component ++
    '_' :: (Digest.sha256Hex (digested component data)).take digestLength

def fileName (component : Text) (data : Json) : Text := key component data ++ suffix

def maxNameLength : Nat := 255

/-- Nothing is ever stored under a name that is too long, nor under one with a slash, which means
a folder that is not there. -/
def storable (name : Text) : Bool :=
  !name.contains '/' && Text.byteLength name ≤ maxNameLength

/-! ## Entries -/

def file? (s : Store) (name : Text) : Option (Option Json) := s.files.lookup name

def keep (s : Store) (test : Text → Bool) : Store :=
  ⟨s.files.filter fun f => test f.1, s.nodup_names.sublist (List.filter_sublist.map _)⟩

def remove (s : Store) (name : Text) : Store := s.keep fun n => n != name

theorem not_mem_remove (s : Store) (name : Text) :
    name ∉ (s.remove name).files.map Prod.fst := by
  simp [remove, keep]

def put (s : Store) (name : Text) (content : Option Json) : Store :=
  ⟨(name, content) :: (s.remove name).files,
    List.nodup_cons.mpr ⟨s.not_mem_remove name, (s.remove name).nodup_names⟩⟩

@[simp] theorem file?_put_self (s : Store) (name : Text) (content : Option Json) :
    (s.put name content).file? name = some content := by
  simp [put, file?]

/-- The files that pass a test are the only ones left, and they are as they were. -/
theorem file?_keep (s : Store) (test : Text → Bool) (name : Text) :
    (s.keep test).file? name = if test name then s.file? name else none := by
  simp only [file?, keep]
  induction s.files with
  | nil => simp
  | cons f fs ih =>
    obtain ⟨n, content⟩ := f
    by_cases hn : name = n
    · subst hn
      cases ht : test name <;> simp [ht] at ih ⊢
      exact ih
    · have hb : (name == n) = false := beq_eq_false_iff_ne.mpr hn
      cases ht : test n <;> simpa [List.filter_cons, List.lookup_cons, ht, hb] using ih

@[simp] theorem file?_remove_self (s : Store) (name : Text) :
    (s.remove name).file? name = none := by
  simp [remove, file?_keep]

theorem file?_remove_of_ne (s : Store) {name other : Text} (h : other ≠ name) :
    (s.remove name).file? other = s.file? other := by
  simp [remove, file?_keep, h]

theorem file?_put_of_ne (s : Store) {name other : Text} (content : Option Json)
    (h : other ≠ name) : (s.put name content).file? other = s.file? other := by
  have hb : (other == name) = false := beq_eq_false_iff_ne.mpr h
  rw [← file?_remove_of_ne s h]
  simp only [put, file?, List.lookup_cons, hb]

/-- Writes a file, if its name is one that can be stored. A zero character is an error. -/
def write (s : Store) (name : Text) (content : Option Json) : Except Fault Store :=
  if name.contains '\x00' then .error .zeroInName
  else if storable name then .ok (s.put name content)
  else .ok s

def set (s : Store) (component : Text) (data result : Json) : Except Fault Store :=
  s.write (fileName component data) (some result)

/-- Looks up a result. A file that cannot be read is removed. -/
def get (s : Store) (component : Text) (data : Json) : Option Json × Store :=
  let name := fileName component data
  match s.file? name with
  | none => (none, s)
  | some none => (none, s.remove name)
  | some (some result) => (some result, s)

def spoil (s : Store) (component : Text) (data : Json) : Except Fault Store :=
  s.write (fileName component data) none

/-! ## Counting and clearing -/

def names (s : Store) : List Text := (s.files.map Prod.fst).mergeSort Json.nameLE

def size (s : Store) : Nat := s.files.length

def pathParts (path : Text) : List Text :=
  (Text.pieces (· == '/') path).filter fun part => !part.isEmpty

/-- The names of the files that belong to a component, or to one whose name goes on after an
underscore. Wildcards in the component count as such. -/
def filesOf (s : Store) (component : Text) : Except Fault (List Text) :=
  let pattern := opening ++ component ++ "_*".toList ++ suffix
  let double : Text := ['*', '*']
  if (pathParts pattern).any fun part => Text.includes part double && part != double then
    .error .badPattern
  else if !storable pattern then .ok []
  else .ok (s.names.filter (Text.fitsPattern pattern))

def clear (s : Store) : Nat × Store := (s.size, {})

/-- Removes the files of a component; their number. -/
def clearComponent (s : Store) (component : Text) : Except Fault (Nat × Store) :=
  (s.filesOf component).map fun found =>
    (found.length, s.keep fun name => !found.contains name)

def count (s : Store) (component : Text) : Except Fault Nat :=
  (s.filesOf component).map List.length

/-- The component a file name was made for: what stands before its last underscore. -/
def componentOf (name : Text) : Text :=
  (((name.drop opening.length).reverse.dropWhile (· != '_')).drop 1).reverse

def breakdown (s : Store) : List (Text × Nat) :=
  let components := s.names.map componentOf
  components.eraseDups.map fun c => (c, components.count c)

end Store

end TexSplice
