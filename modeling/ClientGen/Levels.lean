/-! Collections inside collections. What reads them calls itself for each, and so goes only as deep as
its stack holds; without a number there is no limit. -/
namespace ClientGen

abbrev Levels := Option Nat

def Levels.inner? : Levels → Option Levels
  | none => some none
  | some 0 => none
  | some (n + 1) => some (some n)

end ClientGen
