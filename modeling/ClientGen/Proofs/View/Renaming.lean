import ClientGen.Proofs.Naming.Normal
import ClientGen.Proofs.View.Placeholders

/-! Names that are made once more. An identifier, the key of a resource in the index, and a path whose
placeholders are renamed stay as they are when they are made again from themselves. -/
namespace ClientGen
open Naming

namespace Language

theorem filledAgain (s : Segment) : (python.filled isWordName s).flatMap (python.filled isWordName) =
    python.filled isWordName s := by
  cases s with
  | letter c => rfl
  | named name =>
    cases word : isWordName name with
    | false => simp [filled, word]
    | true =>
      have again : renamed python (renamed python name) = renamed python name := identifierAgain name
      have own : isWordName (renamed python name) = true := identifierWordName name
      simp [filled, word, sign, own, again]

theorem filledPathAgain (path : List Char) :
    python.filledPath isWordName (python.filledPath isWordName path) =
      python.filledPath isWordName path := by
  have cuts : cut (python.filledPath isWordName path) =
      (cut path).flatMap (python.filled isWordName) := writtenCut (filledSettled (cutSettled path))
  rw [filledPath, cuts, List.flatMap_assoc, filledPath]
  exact congrArg written (List.flatMap_congr fun s _ => filledAgain s)

end Language

namespace Naming

theorem identifiersSettle (s name pattern path : List Char) :
    Normal (identifier s) ∧ identifier (identifier s) = identifier s ∧
    namespaceKey (namespaceKey name) = namespaceKey name ∧
    fillPath pattern (fun n => identifier (identifier n)) path = fillPath pattern identifier path ∧
    ∃ filled, fillPath Language.python.placeholder identifier path = .ok filled ∧
      fillPath Language.python.placeholder identifier filled = .ok filled := by
  have twice : (fun n => identifier (identifier n)) = identifier := funext identifierAgain
  have filled := Language.python.fillPathSegments path
  have again := Language.python.fillPathSegments (Language.python.filledPath isWordName path)
  rw [Language.filledPathAgain] at again
  exact ⟨identifierNormal s, identifierAgain s, namespaceKeyAgain name, by rw [twice],
    _, filled, again⟩

example : ["2fa", "class", "\u212a", "createdAt", "--"].map (fun s => identifier s.toList) =
    ["_2fa", "class_", "k", "created_at", "_"].map String.toList := by decide +kernel

end Naming
end ClientGen
