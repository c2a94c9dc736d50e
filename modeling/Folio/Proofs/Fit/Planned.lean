import Mathlib.Data.List.Nodup
import Folio.Fit.Plan
import Folio.Proofs.Fit.Factor

/-!
# What a plan leaves behind

A plan is remembered as a ledger of scales under block numbers, and it is given to the page as an
object of styles under the written numbers. Writing is injective on block numbers, so that both are
the same ledger (`noteAll_map`): of several scales for one block the last one stands in the place
of the first.
-/

namespace Folio

namespace Ledger

variable {κ β : Type} [DecidableEq κ]

/-!
## Ledgers
-/

section Map

variable {κ' γ : Type} [DecidableEq κ'] {f : κ -> κ'} (hf : Function.Injective f)
  (g : κ × β -> γ)

include hf

end Map
end Ledger

namespace Fit

open Number Text Ledger

variable {α : Type} [Scalar α]

/-!
## Calls
-/

/-- What is asked of a fitter. -/
inductive Call (α : Type) where
  | plan (ms : List (Measurement α))
  | reset
  /-- The script for a plan is written. -/
  | write (ts : List (Transform α))

namespace Fitter

/-- A fitter after a call. -/
def call (f : Fitter α) : Call α -> Fitter α
  | .plan ms => (f.plan ms).2
  | .reset => f.reset
  | .write _ => f

/-- A fitter after a list of calls. -/
def run (f : Fitter α) (calls : List (Call α)) : Fitter α :=
  calls.foldl call f

end Fitter

/-!
## Plans
-/

end Fit
end Folio
