import ClientGen.Text.Split
import ClientGen.Text.Spelling

/-! Laying a text out in lines. Wrapping replaces one blank by a line end wherever a line would get
too long, as late as the width allows; a word longer than the width stays whole. A margin is put in
front of every line from a given one on. -/
namespace ClientGen.Text

/-- The last place within `room` characters where a blank follows at least one character of the
line; `used` characters of the line lie behind, `best` is the last such place among them. -/
def breakAfter (room used : Nat) (best : Option Nat) : List Char → Option Nat
  | [] => best
  | c :: rest =>
    let best := if 0 < used ∧ isSpace c then some used else best
    match room with
    | 0 => best
    | room + 1 => if c = '\n' then best else breakAfter room (used + 1) best rest

def fitsLine (width : Nat) (s : List Char) : Bool :=
  decide (s.length ≤ width) && !s.contains '\n'

def wrapFrom (width : Nat) : Nat → List Char → List Char
  | 0, s => s
  | fuel + 1, s =>
    if fitsLine width s then s
    else match s, breakAfter width 0 none s with
      | [], _ => []
      | _, some k => s.take k ++ '\n' :: wrapFrom width fuel (s.drop (k + 1))
      | c :: rest, none => c :: wrapFrom width fuel rest

def wrap (width : Nat) (s : List Char) : List Char := wrapFrom width s.length s

def markLength? (mark : Spelling) (s : List Char) : Option Nat :=
  let rests := mark s
  if rests.contains [] then none
  else (rests.find? fun rest => (rest.head?.map isSpace).getD false).map
    fun rest => s.length - rest.length

def breakAtMarksFrom (mark : Spelling) : Nat → List Char → List Char
  | 0, s => s
  | _, [] => []
  | fuel + 1, c :: rest =>
    match if c = '\n' then none else markLength? mark rest with
    | some k => c :: rest.take k ++ '\n' :: breakAtMarksFrom mark fuel (rest.drop (k + 1))
    | none => c :: breakAtMarksFrom mark fuel rest

def breakAtMarks (mark : Spelling) (s : List Char) : List Char := breakAtMarksFrom mark s.length s

def marginLines (margin : List Char) (start : Int) (number : Nat) :
    List (List Char) → List (List Char)
  | [] => []
  | line :: rest =>
    (if start ≤ number then margin ++ line else line) :: marginLines margin start (number + 1) rest

def withMargin (margin : List Char) (start : Int) (s : List Char) : List Char :=
  joinWith ['\n'] (marginLines margin start 0 (splitAt '\n' s))

end ClientGen.Text
