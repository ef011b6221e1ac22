import BrowserFlow.Text.Utf8

/-!
Decoding undoes encoding.
-/

namespace BrowserFlow.Utf8

theorem toNat_byte {n : Nat} (small : n < 256) : n.toUInt8.toNat = n := by
  rw [Nat.toUInt8, UInt8.toNat_ofNat']
  exact Nat.mod_eq_of_lt small

theorem continuation {n : Nat} (small : n < 64) :
    isContinuation (0x80 + n).toUInt8 = true ∧ low6 (0x80 + n).toUInt8 = n := by
  have byte := toNat_byte (n := 0x80 + n) (by omega)
  constructor
  · simp only [isContinuation, Bool.and_eq_true, decide_eq_true_eq, UInt8.le_iff_toNat_le, UInt8.lt_iff_toNat_lt, byte]
    constructor
    · exact Nat.le_add_right _ _
    · change 0x80 + n < 0xC0
      omega
  · rw [low6, byte]
    omega

theorem scalar (c : Char) : c.toNat < 0xD800 ∨ 0xDFFF < c.toNat ∧ c.toNat < 0x110000 := c.valid

theorem not_below {b bound : UInt8} {n : Nat} (low : n ≤ b.toNat) (least : bound.toNat ≤ n) : ¬ b < bound :=
  fun below => absurd (UInt8.lt_iff_toNat_lt.mp below) (Nat.not_lt.mpr (Nat.le_trans least low))

theorem decodeFrom_one (pos : Nat) {b : UInt8} (lead : b.toNat < 0x80) (rest : List UInt8) :
    decodeFrom pos (b :: rest) = (decodeFrom (pos + 1) rest).map (Char.ofNat b.toNat :: ·) := by
  have ascii : b < 0x80 := UInt8.lt_iff_toNat_lt.mpr lead
  rw [decodeFrom.eq_def]
  dsimp only
  rw [if_pos ascii]

theorem decodeFrom_two (pos : Nat) {b c : UInt8} (low : 0xC2 ≤ b.toNat) (high : b.toNat < 0xE0)
    (next : isContinuation c = true) (rest : List UInt8) : decodeFrom pos (b :: c :: rest) =
      (decodeFrom (pos + 2) rest).map (Char.ofNat (b.toNat % 32 * 64 + low6 c) :: ·) := by
  have notOne : ¬ b < 0x80 := not_below low (by decide)
  have lead : ¬ b < 0xC2 := not_below low (by decide)
  have two : b < 0xE0 := UInt8.lt_iff_toNat_lt.mpr high
  rw [decodeFrom.eq_def]
  dsimp only
  rw [if_neg notOne, if_neg lead, if_pos two, if_pos next]

theorem decodeFrom_three (pos : Nat) {b c d : UInt8} (low : 0xE0 ≤ b.toNat) (high : b.toNat < 0xF0)
    (first : mayFollow b c = true) (next : isContinuation d = true) (rest : List UInt8) :
    decodeFrom pos (b :: c :: d :: rest) = (decodeFrom (pos + 3) rest).map
      (Char.ofNat (b.toNat % 16 * 4096 + low6 c * 64 + low6 d) :: ·) := by
  have notOne : ¬ b < 0x80 := not_below low (by decide)
  have lead : ¬ b < 0xC2 := not_below low (by decide)
  have notTwo : ¬ b < 0xE0 := not_below low (by decide)
  have three : b < 0xF0 := UInt8.lt_iff_toNat_lt.mpr high
  rw [decodeFrom.eq_def]
  dsimp only
  rw [if_neg notOne, if_neg lead, if_neg notTwo, if_pos three]
  simp only [first, next, Bool.not_true, Bool.false_eq_true, if_false, if_true]

theorem decodeFrom_four (pos : Nat) {b c d e : UInt8} (low : 0xF0 ≤ b.toNat) (high : b.toNat < 0xF5)
    (first : mayFollow b c = true) (second : isContinuation d = true) (third : isContinuation e = true)
    (rest : List UInt8) : decodeFrom pos (b :: c :: d :: e :: rest) = (decodeFrom (pos + 4) rest).map
      (Char.ofNat (b.toNat % 8 * 262144 + low6 c * 4096 + low6 d * 64 + low6 e) :: ·) := by
  have notOne : ¬ b < 0x80 := not_below low (by decide)
  have lead : ¬ b < 0xC2 := not_below low (by decide)
  have notTwo : ¬ b < 0xE0 := not_below low (by decide)
  have notThree : ¬ b < 0xF0 := not_below low (by decide)
  have four : b < 0xF5 := UInt8.lt_iff_toNat_lt.mpr high
  rw [decodeFrom.eq_def]
  dsimp only
  rw [if_neg notOne, if_neg lead, if_neg notTwo, if_neg notThree, if_pos four]
  simp only [first, second, third, Bool.not_true, Bool.false_eq_true, if_false, if_true]

theorem mayFollow_of {lead second : UInt8} (next : isContinuation second = true)
    (long : lead.toNat = 0xE0 → 0xA0 ≤ second.toNat) (scalar : lead.toNat = 0xED → second.toNat < 0xA0)
    (longer : lead.toNat = 0xF0 → 0x90 ≤ second.toNat) (last : lead.toNat = 0xF4 → second.toNat < 0x90) :
    mayFollow lead second = true := by
  have apart (k : UInt8) (p : Prop) [Decidable p] (fits : lead.toNat = k.toNat → ¬ p) :
      (!(lead == k && decide p)) = true := by
    by_cases same : lead = k
    · simp [same, fits (congrArg UInt8.toNat same)]
    · simp [same]
  have notShort := apart 0xE0 (second < 0xA0) fun h => not_below (long h) (by decide)
  have notHalf := apart 0xED (0xA0 ≤ second) fun h => UInt8.not_le.mpr (UInt8.lt_iff_toNat_lt.mpr (scalar h))
  have notShorter := apart 0xF0 (second < 0x90) fun h => not_below (longer h) (by decide)
  have inRange := apart 0xF4 (0x90 ≤ second) fun h => UInt8.not_le.mpr (UInt8.lt_iff_toNat_lt.mpr (last h))
  rw [mayFollow, next, notShort, notHalf, notShorter, inRange]
  rfl

theorem decodeFrom_encodeChar (pos : Nat) (c : Char) (rest : List UInt8) :
    decodeFrom pos (encodeChar c ++ rest) = (decodeFrom (pos + (encodeChar c).length) rest).map (c :: ·) := by
  have valid := scalar c
  generalize code : c.toNat = n at valid
  have char {m : Nat} (same : m = n) : Char.ofNat m = c := by rw [same, ← code, Char.ofNat_toNat]
  unfold encodeChar
  rw [code]
  dsimp only
  split
  · have byte := toNat_byte (n := n) (by omega)
    rw [List.singleton_append, decodeFrom_one pos (by omega), char byte]
    rfl
  · split
    · have byte := toNat_byte (n := 0xC0 + n / 64) (by omega)
      obtain ⟨next, low⟩ := continuation (n := n % 64) (by omega)
      rw [List.cons_append, List.singleton_append, decodeFrom_two pos (by omega) (by omega) next, low, char (by omega)]
      rfl
    · split
      · have byte := toNat_byte (n := 0xE0 + n / 4096) (by omega)
        obtain ⟨first, high⟩ := continuation (n := n / 64 % 64) (by omega)
        obtain ⟨next, low⟩ := continuation (n := n % 64) (by omega)
        have second := toNat_byte (n := 0x80 + n / 64 % 64) (by omega)
        have follows : mayFollow (0xE0 + n / 4096).toUInt8 (0x80 + n / 64 % 64).toUInt8 = true :=
          mayFollow_of first (by omega) (by omega) (by omega) (by omega)
        rw [List.cons_append, List.cons_append, List.singleton_append,
          decodeFrom_three pos (by omega) (by omega) follows next, high, low, char (by omega)]
        rfl
      · have byte := toNat_byte (n := 0xF0 + n / 262144) (by omega)
        obtain ⟨first, high⟩ := continuation (n := n / 4096 % 64) (by omega)
        obtain ⟨next, middle⟩ := continuation (n := n / 64 % 64) (by omega)
        obtain ⟨last, low⟩ := continuation (n := n % 64) (by omega)
        have second := toNat_byte (n := 0x80 + n / 4096 % 64) (by omega)
        have follows : mayFollow (0xF0 + n / 262144).toUInt8 (0x80 + n / 4096 % 64).toUInt8 = true :=
          mayFollow_of first (by omega) (by omega) (by omega) (by omega)
        rw [List.cons_append, List.cons_append, List.cons_append, List.singleton_append,
          decodeFrom_four pos (by omega) (by omega) follows next last, high, middle, low, char (by omega)]
        rfl

theorem decode_encode (cs : List Char) : decode (encode cs) = .ok cs := by
  have from' (pos : Nat) : decodeFrom pos (encode cs) = .ok cs := by
    induction cs generalizing pos with
    | nil => rfl
    | cons c cs ih =>
      rw [encode, List.flatMap_cons, decodeFrom_encodeChar, ← encode, ih]
      rfl
  exact from' 0

end BrowserFlow.Utf8
