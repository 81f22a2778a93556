import NativeProps.Number.Double

/-!
# Column widths

How the columns of a table share a room that is too narrow for them.

* `takeOff`: takes an amount off values in equal shares, each share up to a bound.
* `narrow`: takes the widest of the columns that may shrink down to the next widest, again and
  again, until all columns have room.
* `fitColumns`: the widths of columns in a room. The first column shrinks only if the others cannot.
-/

namespace NativeProps.Columns

/-- The sum of widths. -/
def total (widths : List Nat) : Nat := widths.foldl (· + ·) 0

/-- Takes an amount off values in `shares` equal shares, each up to the bound beside the value. A
value with bound zero has no share. -/
def takeOff (amount shares : Nat) : List (Nat × Nat) → List Nat
  | [] => []
  | (value, bound) :: rest =>
    if bound = 0 then value :: takeOff amount shares rest
    else
      let share := min bound (Double.roundDiv amount shares)
      (value - share) :: takeOff (amount - share) (shares - 1) rest

/-- Takes an amount off values, with as many shares as there are bounds above zero. -/
def takeOffAll (amount : Nat) (values : List (Nat × Nat)) : List Nat :=
  takeOff amount (values.filter fun v => v.2 != 0).length values

/-- The columns after the widest of the last ones are taken down to the next widest, at most
`steps` times. -/
def narrow (room : Nat) : Nat → Nat → List Nat → List Nat
  | 0, first, others => first :: others
  | steps + 1, first, others =>
    let excess := total (first :: others) - room
    let widest := others.foldl max 0
    let next := (others.filter (· != widest)).foldl max 0
    let bound := min excess (widest - next)
    if bound = 0 then first :: others
    else
      let shared := (first, 0) :: others.map fun w => (w, if w = widest then bound else 0)
      match takeOffAll excess shared with
      | [] => []
      | first :: others => narrow room steps first others

/-- The widths of columns in a room. -/
def fitColumns (room : Nat) : List Nat → List Nat
  | [] => []
  | first :: others =>
    let widths := narrow room (total (first :: others)) first others
    takeOffAll (total widths - room) (widths.map fun w => (w, w))

end NativeProps.Columns
