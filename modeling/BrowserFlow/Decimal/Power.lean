/-!
The powers that scale numerals: of two for doubles, of ten for decimals.
-/

namespace BrowserFlow

abbrev twoTo (n : Nat) : Nat := Nat.pow 2 n

abbrev tenTo (n : Nat) : Nat := Nat.pow 10 n

end BrowserFlow
