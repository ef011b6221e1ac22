import BrowserFlow.Decimal.Power

namespace BrowserFlow

theorem tenTo_pos (n : Nat) : 0 < tenTo n := Nat.pow_pos (by decide)

theorem tenTo_le {m n : Nat} (le : m ≤ n) : tenTo m ≤ tenTo n := Nat.pow_le_pow_right (by decide) le

theorem tenTo_succ (n : Nat) : tenTo (n + 1) = 10 * tenTo n := Nat.pow_succ'

theorem twoTo_pos (n : Nat) : 0 < twoTo n := Nat.pow_pos (by decide)

theorem twoTo_le {m n : Nat} (le : m ≤ n) : twoTo m ≤ twoTo n := Nat.pow_le_pow_right (by decide) le

theorem twoTo_succ (n : Nat) : twoTo (n + 1) = 2 * twoTo n := Nat.pow_succ'

theorem twoTo_add (m n : Nat) : twoTo (m + n) = twoTo m * twoTo n := Nat.pow_add 2 m n

theorem twoTo_le_tenTo (n : Nat) : twoTo n ≤ tenTo n := Nat.pow_le_pow_left (by decide) n

end BrowserFlow
