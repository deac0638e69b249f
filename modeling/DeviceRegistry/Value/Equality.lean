import DeviceRegistry.Value.Basic

/-! Equality of values as keys, and mappings that keep the order of first arrival. Numbers are equal
by value whatever their kind, so that one, one point zero and true are the same key. -/
namespace DeviceRegistry.Value

inductive Numeric where
  | whole (n : Int)
  | real (x : Binary64)

def numeric? : Value → Option Numeric
  | .bool b => some (.whole b.toInt)
  | .int n => some (.whole n)
  | .real x => some (.real x)
  | _ => none

def Numeric.equals : Numeric → Numeric → Bool
  | .whole m, .whole n => m == n
  | .real x, .real y => x.equals y
  | .whole n, .real x | .real x, .whole n => x.toInt? == some n

mutual

/-- The values are equal as keys. A foreign value equals nothing. -/
def equals : Value → Value → Bool
  | .null, .null => true
  | .text s, .text t => s == t
  | .bytes _ a, .bytes _ b => a == b
  | .list a, .list b => allEqual a b
  | .tuple a, .tuple b => allEqual a b
  | .set a, .set b => allEqual a b
  | .map a, .map b => entriesEqual a b
  | .bool a, other => otherEquals (.whole a.toInt) other
  | .int m, other => otherEquals (.whole m) other
  | .real x, other => otherEquals (.real x) other
  | _, _ => false
where
  otherEquals (number : Numeric) (other : Value) : Bool :=
    other.numeric?.elim false number.equals

def allEqual : List Value → List Value → Bool
  | [], [] => true
  | a :: as, b :: bs => equals a b && allEqual as bs
  | _, _ => false

def entriesEqual : List (Value × Value) → List (Value × Value) → Bool
  | [], [] => true
  | (j, a) :: as, (k, b) :: bs => equals j k && equals a b && entriesEqual as bs
  | _, _ => false

end

end Value

namespace Mapping

def value? (entries : Mapping) (key : Value) : Option Value :=
  (List.find? (fun entry => entry.1.equals key) entries).map Prod.snd

/-- The mapping with a value for a key. A key that is present keeps its place and its
first spelling. -/
def put (entries : Mapping) (key value : Value) : Mapping :=
  if entries.any fun entry => entry.1.equals key then
    entries.map fun entry => if entry.1.equals key then (entry.1, value) else entry
  else entries ++ [(key, value)]

def ofEntries (entries : List (Value × Value)) : Mapping :=
  entries.foldl (fun mapping entry => put mapping entry.1 entry.2) []

end Mapping

end DeviceRegistry
