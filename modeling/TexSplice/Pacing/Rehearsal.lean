import TexSplice.Pacing.Basic

/-! # A rehearsed world

A clock that moves only when something pauses or takes time, random factors from a list, and
answers from a script. Everything that happens is written down. -/
namespace TexSplice.Pacing

structure Rehearsal (R α : Type) where
  now : R
  factors : List R
  script : List (Except Fault α)
  /-- The pauses made, the latest first. -/
  pauses : List R := []
  /-- The bounds between which factors were asked for, the latest first. -/
  bounds : List (R × R) := []
  calls : Nat := 0

namespace Rehearsal

variable {R α : Type}

/-- The surroundings that a rehearsal gives; factors are one when the list is used up. -/
def surroundings [Add R] (one : R) : Surroundings (Rehearsal R α) R where
  time r := (r.now, r)
  pause d r := { r with now := r.now + d, pauses := d :: r.pauses }
  factor low high r :=
    let r := { r with bounds := (low, high) :: r.bounds }
    match r.factors with
    | [] => (one, r)
    | f :: rest => (f, { r with factors := rest })

/-- The next answer of the script, after some time; `final` when the script is used up. -/
def answer [Add R] (duration : R) (final : Except Fault α) (r : Rehearsal R α) :
    Except Fault α × Rehearsal R α :=
  let r := { r with now := r.now + duration, calls := r.calls + 1 }
  match r.script with
  | [] => (final, r)
  | a :: rest => (a, { r with script := rest })

end Rehearsal

end TexSplice.Pacing
