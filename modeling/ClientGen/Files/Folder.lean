import ClientGen.Files.Path

/-! Folders. An entry of a folder is a file or a folder again, and no two entries of a folder have
one name. -/
namespace ClientGen

inductive FileContent
  | text (s : String)
  | raw (bytes : List UInt8)
  deriving DecidableEq, Repr, Inhabited

def FileContent.ofBytes (bytes : ByteArray) : FileContent :=
  match String.fromUTF8? bytes with
  | some s => .text s
  | none => .raw bytes.toList

inductive Entry
  | file (c : FileContent)
  | folder (inside : List (String × Entry))
  deriving Repr, Inhabited

abbrev Folder := List (String × Entry)

namespace Folder

def set (name : String) (e : Entry) : Folder → Folder
  | [] => [(name, e)]
  | (n, old) :: rest => if n = name then (name, e) :: rest else (n, old) :: set name e rest

theorem lookupSet (name other : String) (e : Entry) (f : Folder) :
    (set name e f).lookup other = if other = name then some e else f.lookup other := by
  have differ {a b : String} (h : a ≠ b) : (a == b) = false := beq_eq_false_iff_ne.mpr h
  induction f with
  | nil =>
    by_cases h : other = name
    · subst h; simp [set]
    · simp [set, List.lookup_cons, differ h, h]
  | cons first rest ih =>
    obtain ⟨n, old⟩ := first
    by_cases same : n = name
    · subst same
      by_cases h : other = n
      · subst h; simp [set]
      · simp [set, List.lookup_cons, differ h, h]
    · by_cases h : other = n
      · subst h; simp [set, same]
      · simp [set, List.lookup_cons, differ h, same, ih]

def inside (f : Folder) (name : String) : Folder :=
  match f.lookup name with
  | some (.folder entries) => entries
  | _ => []

def at? (f : Folder) : List String → Option Entry
  | [] => some (.folder f)
  | [name] => f.lookup name
  | name :: rest =>
    match f.lookup name with
    | some (.folder entries) => Folder.at? entries rest
    | _ => none

def place (e : Entry) : List String → Folder → Folder
  | [], f => f
  | [name], f => f.set name e
  | name :: rest, f => f.set name (.folder (place e rest (f.inside name)))

def erase (name : String) (f : Folder) : Folder := f.filter (·.1 ≠ name)

def remove : List String → Folder → Folder
  | [], f => f
  | [name], f => f.erase name
  | name :: rest, f =>
    match f.lookup name with
    | some (.folder entries) => f.set name (.folder (remove rest entries))
    | _ => f

end Folder

mutual
def Entry.contents (names : List String) : Entry → List (List String × FileContent)
  | .file c => [(names, c)]
  | .folder entries => Entry.contentsOf names entries
termination_by structural e => e
def Entry.contentsOf (names : List String) :
    List (String × Entry) → List (List String × FileContent)
  | [] => []
  | (name, e) :: rest => e.contents (name :: names) ++ Entry.contentsOf names rest
termination_by structural es => es
end

end ClientGen
