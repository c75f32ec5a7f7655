/-!
# Reachability

* `reachable` : everything that steps lead to from given starts.
-/

namespace ModuleBundler

section
variable {α : Type} [DecidableEq α]

/-- Goes on from what is pending, all of which has been seen. What a step leads to and has not been
seen is pending next. Ends after `count` steps at the latest. -/
def explore (next : α → List α) : Nat → List α → List α → List α
  | 0, _, seen => seen
  | _ + 1, [], seen => seen
  | count + 1, a :: pending, seen =>
    let fresh := ((next a).filter fun b => b ∉ seen).eraseDups
    explore next count (fresh ++ pending) (fresh ++ seen)

/-- Everything that steps lead to from some starts, if that is no more than `count`. -/
def reachable (next : α → List α) (count : Nat) (starts : List α) : List α :=
  explore next count starts.eraseDups starts.eraseDups

end
end ModuleBundler
