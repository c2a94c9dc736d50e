/-!
# Ledgers

A ledger holds values under keys in the order in which the keys came. A new value for a
key takes the place of the old one.
-/

namespace Folio
namespace Ledger

variable {κ β : Type} [DecidableEq κ]

/-- Note a value under a key: in the place of an earlier one, or at the end. -/
def note (key : κ) (value : β) : List (κ × β) -> List (κ × β)
  | [] => [(key, value)]
  | (k, v) :: rest => if k = key then (key, value) :: rest else (k, v) :: note key value rest

/-- Note pairs one after the other. -/
def noteAll (pairs : List (κ × β)) : List (κ × β) :=
  pairs.foldl (fun l p => note p.1 p.2 l) []

end Ledger
end Folio
