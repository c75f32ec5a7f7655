/-!
# Spans of a text

* `Span` : a half-open range of UTF-8 byte offsets;
* `Span.join` : the least span that covers two spans;
* `Span.isEmpty`, `Span.length`, `Span.contains`.
-/

namespace ModuleBundler

/-- The byte offsets from `start` up to but excluding `stop`. -/
structure Span where
  start : Nat
  stop : Nat
  deriving DecidableEq, Inhabited

namespace Span

/-- The empty span at an offset. -/
def point (offset : Nat) : Span := ⟨offset, offset⟩

/-- The least span that covers both. -/
def join (a b : Span) : Span := ⟨min a.start b.start, max a.stop b.stop⟩

def isEmpty (a : Span) : Bool := a.stop ≤ a.start

def length (a : Span) : Nat := a.stop - a.start

def contains (a : Span) (offset : Nat) : Bool := a.start ≤ offset && offset < a.stop

end Span
end ModuleBundler
