/-!
The supply of identifiers. Each one is drawn once, in order.
-/

namespace ProcessTriggers

structure Supply where
  drawn : Nat := 0
  deriving DecidableEq

namespace Supply

/-- The next identifier by its number. -/
def draw (s : Supply) : Nat × Supply := (s.drawn + 1, ⟨s.drawn + 1⟩)

def idText (n : Nat) : String := s!"id-{n}"

/-- The next identifier as text. -/
def drawId (s : Supply) : String × Supply :=
  let (n, s) := s.draw
  (idText n, s)

end Supply
end ProcessTriggers
