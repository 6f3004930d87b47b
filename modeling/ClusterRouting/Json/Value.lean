namespace ClusterRouting.Json

structure Number where
  negative : Bool
  whole : Nat
  fraction : List (Fin 10)
  exponent : Option Int
deriving DecidableEq

namespace Number

def ofNat (n : Nat) : Number := ⟨false, n, [], none⟩

-- The natural number that is spelled as one: no sign, fraction or exponent.
def natural? (n : Number) : Option Nat :=
  if n.negative = false ∧ n.fraction = [] ∧ n.exponent = none then some n.whole else none

end Number

-- Members of an object keep their order, and a name may come twice. A string that escapes half of a
-- surrogate pair alone is well formed and yet no text.
inductive Value where
  | null
  | bool (b : Bool)
  | number (n : Number)
  | string (text : Option String)
  | array (elements : List Value)
  | object (members : List (Option String × Value))

end ClusterRouting.Json
