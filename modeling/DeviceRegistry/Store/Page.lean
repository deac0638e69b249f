import DeviceRegistry.Failure

/-! Pages of listings. A listing is put in order, cut to a window, and reported together with the
number of all its rows. -/
namespace DeviceRegistry

section Order

variable {α : Type}

/-- The item put before the first one that it is not to stand after. -/
def insertedBy (before : α → α → Bool) (item : α) : List α → List α
  | [] => [item]
  | first :: others =>
    if before item first then item :: first :: others
    else first :: insertedBy before item others

def orderedBy (before : α → α → Bool) : List α → List α
  | [] => []
  | item :: items => insertedBy before item (orderedBy before items)

end Order

/-- Which rows of a listing are wanted: how many are passed over and how many are given at most. -/
structure Window where
  offset : Option Int := some 0
  limit : Option Int := some 10
deriving DecidableEq

namespace Window

def parameters (window : Window) : List Value :=
  match window.limit, window.offset with
  | some limit, some offset => [.int limit, .int offset]
  | some limit, none => [.int limit]
  | none, some offset => [.int (-1), .int offset]
  | none, none => []

/-- The rows in the window. A negative limit is no limit, and a negative offset passes
over nothing. -/
def slice {α : Type} (window : Window) (rows : List α) : List α :=
  let rest := rows.drop (window.offset.getD 0).toNat
  match window.limit with
  | none => rest
  | some limit => if limit < 0 then rest else rest.take limit.toNat

end Window

structure Page (α : Type) where
  total : Nat
  offset : Int
  limit : Int
  items : List α

/-- The page of a window, which has to say where it starts and how many rows it has at most. -/
def Page.ofWindow {α : Type} (total : Nat) (window : Window) (items : List α) :
    Except Failure (Page α) :=
  match window.offset, window.limit with
  | some offset, some limit => .ok ⟨total, offset, limit, items⟩
  | some _, none => .error (.invalidFields [⟨["limit"], .notInteger⟩])
  | none, some _ => .error (.invalidFields [⟨["offset"], .notInteger⟩])
  | none, none => .error (.invalidFields [⟨["offset"], .notInteger⟩, ⟨["limit"], .notInteger⟩])

end DeviceRegistry
