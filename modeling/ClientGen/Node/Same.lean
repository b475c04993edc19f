import ClientGen.Node.Basic

/-! When two closed values are equal. Numbers are compared by value across the number types, with
the truth values as one and zero; maps and sets are compared without regard to order. -/
namespace ClientGen

/-- What a number is compared by: its integer value, or its bits when it has none. All that is no
number is one. -/
inductive Quantity
  | whole (n : Int)
  | other (bits : UInt64)
  | undefined
  deriving DecidableEq, Repr

def Quantity.ofFloat (x : Float) : Quantity :=
  match Decimal.integer? x with
  | some n => .whole n
  | none => if x.isNaN then .undefined else .other x.toBits

namespace Node

def quantity? : Node → Option Quantity
  | .bool b => some (.whole (if b then 1 else 0))
  | .int n => some (.whole n)
  | .float x => some (.ofFloat x)
  | _ => none

mutual
def same : Node → Node → Bool
  | .null, .null => true
  | .str a, .str b => a == b
  | .date a, .date b => a == b
  | .datetime a, .datetime b => a.same b
  | .bytes a, .bytes b => a == b
  | .pair a b, .pair c d => a.same c && b.same d
  | .list a, .list b => sameList a b
  | .set a, .set b => a.length == b.length && sameSet a b
  | .map a, .map b => a.length == b.length && sameEntries a b
  | .link a, .link b => a == b
  | .enclosing a, .enclosing b => a == b
  | .bool a, b => b.quantity? == some (.whole (if a then 1 else 0))
  | .int a, b => b.quantity? == some (.whole a)
  | .float a, b => b.quantity? == some (.ofFloat a)
  | _, _ => false
termination_by structural a => a
def sameList : List Node → List Node → Bool
  | [], [] => true
  | a :: as, b :: bs => a.same b && sameList as bs
  | _, _ => false
termination_by structural a => a
def sameSet : List Node → List Node → Bool
  | [], _ => true
  | a :: as, bs => bs.any (fun b => a.same b) && sameSet as bs
termination_by structural a => a
def sameEntries : List (Node × Node) → List (Node × Node) → Bool
  | [], _ => true
  | (k, v) :: as, bs =>
    (match bs.find? (fun b => k.same b.1) with
      | some b => v.same b.2
      | none => false) && sameEntries as bs
termination_by structural a => a
end

def insertKey (k v : Node) : Entries → Entries
  | [] => [(k, v)]
  | (k', v') :: rest => if k.same k' then (k', v) :: rest else (k', v') :: insertKey k v rest

def fromPairs (pairs : List (Node × Node)) : Entries :=
  pairs.foldl (fun entries p => insertKey p.1 p.2 entries) []

def findKey? (k : Node) (entries : Entries) : Option Node :=
  (List.find? (fun e => k.same e.1) entries).map (·.2)

end Node
end ClientGen
