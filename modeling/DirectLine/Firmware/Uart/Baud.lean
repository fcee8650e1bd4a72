import DirectLine.Arithmetic.Checked
import DirectLine.Arithmetic.Nearest
import DirectLine.Firmware.Uart

/-!
# Baud rates

The divisors of `baud_divisors` against the exact quotient, and the rates they
achieve against the one requested.
-/

namespace DirectLine.Firmware.Uart

open DirectLine.Arithmetic

/-- `baud_divisors` with every operation checked. -/
def checkedBaudDivisors (baud : Word) : Option (Option (Word × Word)) := do
  if baud == 0 || decide (baud > (← Checked.div hfClockHz 16)) then
    return none
  let clock ← Checked.mul hfClockHz 4
  let half ← Checked.div baud 2
  let scaled ← Checked.div (← Checked.add clock half) baud
  let integer ← Checked.div scaled 64
  let fraction ← Checked.rem scaled 64
  if integer == 0 || decide (integer > 65535) || (integer == 65535 && fraction != 0) then
    return none
  else
    return some (integer, fraction)

theorem scaled_fits (baud : Word) : (hfClockHz * 4).toNat + (baud / 2).toNat < 2 ^ 32 := by
  have clock : (hfClockHz * 4).toNat = 192000000 := by decide
  have half : (baud / 2).toNat = baud.toNat / 2 := BitVec.toNat_udiv
  have bound := baud.isLt
  omega

/-- No operation overflows or divides by zero. -/
theorem checkedBaudDivisors_eq (baud : Word) :
    checkedBaudDivisors baud = some (baudDivisors baud) := by
  unfold checkedBaudDivisors baudDivisors
  rw [Checked.div_eq_some (by decide), Option.bind_eq_bind, Option.bind_some]
  by_cases rejected : (baud == 0 || decide (baud > hfClockHz / 16)) = true
  · rw [if_pos rejected, if_pos rejected]
    rfl
  · have nonzero : baud ≠ 0 := by
      intro zero
      rw [zero] at rejected
      exact rejected rfl
    rw [if_neg rejected, if_neg rejected, Checked.mul_eq_some (by decide),
      Checked.div_eq_some (by decide)]
    simp only [Option.bind_some, Checked.add_eq_some (scaled_fits baud),
      Checked.div_eq_some nonzero, Checked.div_eq_some (show (64 : Word) ≠ 0 by decide),
      Checked.rem_eq_some (show (64 : Word) ≠ 0 by decide)]
    exact (apply_ite some _ _ _).symm

theorem toNat_scaled (baud : Word) :
    ((hfClockHz * 4 + baud / 2) / baud).toNat = roundDiv 192000000 baud.toNat := by
  rw [BitVec.toNat_udiv, BitVec.toNat_add_of_lt (scaled_fits baud), BitVec.toNat_udiv]
  rfl

/-- A pair that the divisor registers may hold. -/
structure Divisors where
  integer : Nat
  fraction : Nat
  least : 1 ≤ integer
  most : integer ≤ 65535
  sixBits : fraction ≤ 63
  whole : integer = 65535 → fraction = 0

namespace Divisors

/-- The divisor in units of 1/64. -/
def scaled (divisors : Divisors) : Nat := 64 * divisors.integer + divisors.fraction

def ofScaled (scaled : Nat) (least : 64 ≤ scaled) (most : scaled ≤ 64 * 65535) : Divisors where
  integer := scaled / 64
  fraction := scaled % 64
  least := by omega
  most := by omega
  sixBits := by omega
  whole := by omega

theorem scaled_ofScaled {scaled : Nat} (least : 64 ≤ scaled) (most : scaled ≤ 64 * 65535) :
    (ofScaled scaled least most).scaled = scaled := Nat.div_add_mod scaled 64

theorem scaled_pos (divisors : Divisors) : 0 < divisors.scaled := by
  have least := divisors.least
  unfold scaled
  omega

def achieved (divisors : Divisors) : Rat := rate 192000000 divisors.scaled

end Divisors

/-- The bauds that have a legal divisor. -/
def Accepted (baud : Word) : Prop := 46 ≤ baud.toNat ∧ baud.toNat ≤ 3000000

namespace Accepted

variable {baud : Word}

theorem least (accepted : Accepted baud) : 64 ≤ roundDiv 192000000 baud.toNat := by
  obtain ⟨least, most⟩ := accepted
  apply (Nat.le_div_iff_mul_le (by omega)).mpr
  omega

theorem most (accepted : Accepted baud) : roundDiv 192000000 baud.toNat ≤ 64 * 65535 := by
  obtain ⟨least, most⟩ := accepted
  apply Nat.le_of_lt_succ
  apply (Nat.div_lt_iff_lt_mul (by omega)).mpr
  omega

def divisors (accepted : Accepted baud) : Divisors :=
  .ofScaled (roundDiv 192000000 baud.toNat) accepted.least accepted.most

theorem scaled_divisors (accepted : Accepted baud) :
    accepted.divisors.scaled = roundDiv 192000000 baud.toNat :=
  Divisors.scaled_ofScaled accepted.least accepted.most

end Accepted

theorem guard_iff (baud : Word) :
    (baud == 0 || decide (baud > hfClockHz / 16)) = true ↔
      baud.toNat = 0 ∨ 3000000 < baud.toNat := by
  have limit : (hfClockHz / 16).toNat = 3000000 := by decide
  rw [Bool.or_eq_true, beq_iff_eq, decide_eq_true_iff, gt_iff_lt, BitVec.lt_def, limit,
    ← BitVec.toNat_inj]
  rfl

theorem outside_iff (scaled : Word) :
    (scaled / 64 == 0 || decide (scaled / 64 > 65535) ||
        (scaled / 64 == 65535 && scaled % 64 != 0)) = true ↔
      scaled.toNat < 64 ∨ 64 * 65535 < scaled.toNat := by
  have integer : (scaled / 64).toNat = scaled.toNat / 64 := BitVec.toNat_udiv
  have fraction : (scaled % 64).toNat = scaled.toNat % 64 := BitVec.toNat_umod
  simp only [Bool.or_eq_true, Bool.and_eq_true, beq_iff_eq, bne_iff_ne, decide_eq_true_iff,
    gt_iff_lt, BitVec.lt_def, ne_eq, ← BitVec.toNat_inj, integer, fraction]
  change (scaled.toNat / 64 = 0 ∨ 65535 < scaled.toNat / 64) ∨
    scaled.toNat / 64 = 65535 ∧ ¬scaled.toNat % 64 = 0 ↔ _
  omega

theorem baudDivisors_accepted {baud : Word} (accepted : Accepted baud) :
    baudDivisors baud =
      some (BitVec.ofNat 32 accepted.divisors.integer,
        BitVec.ofNat 32 accepted.divisors.fraction) := by
  have inRange : ¬(baud.toNat = 0 ∨ 3000000 < baud.toNat) := by
    obtain ⟨least, most⟩ := accepted
    omega
  have least := accepted.least
  have most := accepted.most
  unfold baudDivisors
  rw [if_neg (mt (guard_iff baud).mp inRange)]
  dsimp only
  rw [if_neg]
  · congr 2
    · apply BitVec.eq_of_toNat_eq
      rw [BitVec.toNat_udiv, toNat_scaled, BitVec.toNat_ofNat]
      exact (Nat.mod_eq_of_lt (accepted.divisors.most.trans_lt (by decide))).symm
    · apply BitVec.eq_of_toNat_eq
      rw [BitVec.toNat_umod, toNat_scaled, BitVec.toNat_ofNat]
      exact (Nat.mod_eq_of_lt (accepted.divisors.sixBits.trans_lt (by decide))).symm
  · rw [outside_iff, toNat_scaled]
    omega

theorem baudDivisors_rejected {baud : Word} (rejected : ¬Accepted baud) :
    baudDivisors baud = none := by
  unfold baudDivisors
  by_cases guard : (baud == 0 || decide (baud > hfClockHz / 16)) = true
  · exact if_pos guard
  · rw [if_neg guard]
    rw [guard_iff] at guard
    dsimp only
    rw [if_pos]
    rw [outside_iff, toNat_scaled]
    right
    -- Below 46 baud the integer part does not fit its register.
    have low : baud.toNat < 46 := by
      unfold Accepted at rejected
      omega
    apply Nat.lt_of_succ_le
    apply (Nat.le_div_iff_mul_le (by omega)).mpr
    omega

theorem baudDivisors_isSome (baud : Word) : (baudDivisors baud).isSome ↔ Accepted baud := by
  by_cases accepted : Accepted baud
  · simp only [baudDivisors_accepted accepted, Option.isSome_some, accepted]
  · simp only [baudDivisors_rejected accepted, Option.isSome_none, accepted, Bool.false_eq_true]

theorem of_mem_baudDivisors {baud : Word} {pair : Word × Word} (member : pair ∈ baudDivisors baud) :
    ∃ accepted : Accepted baud, pair.1.toNat = accepted.divisors.integer ∧
      pair.2.toNat = accepted.divisors.fraction := by
  have accepted : Accepted baud := by
    apply (baudDivisors_isSome baud).mp
    rw [Option.mem_def.mp member]
    rfl
  rw [baudDivisors_accepted accepted, Option.mem_some_iff] at member
  subst member
  refine ⟨accepted, ?_, ?_⟩
  · exact Nat.mod_eq_of_lt (accepted.divisors.most.trans_lt (by decide))
  · exact Nat.mod_eq_of_lt (accepted.divisors.sixBits.trans_lt (by decide))

/-- No operation overflows or divides by zero, exactly the bauds from 46 to 3000000 have a
divisor, and it is legal and nearest to the exact one, the greater of two equally near. -/
theorem baudDivisors_exact (baud : Word) :
    checkedBaudDivisors baud = some (baudDivisors baud) ∧
    ((baudDivisors baud).isSome ↔ 46 ≤ baud.toNat ∧ baud.toNat ≤ 3000000) ∧
    ∀ pair ∈ baudDivisors baud, ∃ divisors : Divisors,
      pair.1.toNat = divisors.integer ∧ pair.2.toNat = divisors.fraction ∧
      ∀ other : Divisors,
        |(divisors.scaled * baud.toNat : Int) - 192000000| ≤
            |(other.scaled * baud.toNat : Int) - 192000000| ∧
          (|(divisors.scaled * baud.toNat : Int) - 192000000| =
              |(other.scaled * baud.toNat : Int) - 192000000| →
            other.scaled ≤ divisors.scaled) := by
  refine ⟨checkedBaudDivisors_eq baud, baudDivisors_isSome baud, ?_⟩
  intro pair member
  obtain ⟨accepted, integer, fraction⟩ := of_mem_baudDivisors member
  refine ⟨accepted.divisors, integer, fraction, ?_⟩
  intro other
  rw [accepted.scaled_divisors]
  exact roundDiv_nearest (Nat.zero_lt_of_lt accepted.1) other.scaled

/-- A fraction that rounds up to 64 carries into the integer part. -/
example : baudDivisors 1500001 = some (2, 0) := by decide

def achievedBy (pair : Word × Word) : Rat := rate 192000000 (64 * pair.1.toNat + pair.2.toNat)

/-- The baud lies between the rates of the floored divisor and of the next one. -/
theorem Accepted.between {baud : Word} (accepted : Accepted baud) :
    Between (192000000 : Rat) baud.toNat (192000000 / baud.toNat) := by
  obtain ⟨least, most⟩ := accepted
  have between : Between ((192000000 : Nat) : Rat) (baud.toNat : Rat) (192000000 / baud.toNat) :=
    between_div (by omega) (by omega)
  exact_mod_cast between

theorem Accepted.next_legal {baud : Word} (accepted : Accepted baud) :
    64 ≤ 192000000 / baud.toNat + 1 ∧ 192000000 / baud.toNat + 1 ≤ 64 * 65535 := by
  obtain ⟨least, most⟩ := accepted
  constructor
  · apply Nat.le_succ_of_le
    apply (Nat.le_div_iff_mul_le (by omega)).mpr
    omega
  · apply (Nat.div_lt_iff_lt_mul (by omega)).mpr
    omega

theorem achievedBy_eq {baud : Word} {pair : Word × Word}
    (returned : baudDivisors baud = some pair) :
    ∃ accepted : Accepted baud, achievedBy pair = accepted.divisors.achieved := by
  obtain ⟨accepted, integer, fraction⟩ := of_mem_baudDivisors (Option.mem_def.mpr returned)
  refine ⟨accepted, ?_⟩
  rw [achievedBy, integer, fraction]
  rfl

/-- The returned pair achieves the nearest baud exactly when the floored divisor is not the one
taken, or the baud reaches the mean of the rates of the floored divisor and the next one. -/
theorem nearest_baud_iff (baud : Word) (pair : Word × Word)
    (returned : baudDivisors baud = some pair) :
    (∀ other : Divisors,
      |achievedBy pair - baud.toNat| ≤ |other.achieved - baud.toNat|) ↔
      (2 * (192000000 / baud.toNat) + 1) * baud.toNat ≤ 2 * 192000000 ∨
      (2 * (192000000 / baud.toNat) + 1) * 192000000 ≤
        2 * (192000000 / baud.toNat) * (192000000 / baud.toNat + 1) * baud.toNat := by
  obtain ⟨accepted, achieved⟩ := achievedBy_eq returned
  have between := accepted.between
  obtain ⟨least, most⟩ := accepted.next_legal
  rw [achieved, Divisors.achieved, accepted.scaled_divisors]
  rcases roundDiv_cases 192000000 (Nat.zero_lt_of_lt accepted.1) with
    ⟨below, floored⟩ | ⟨reached, next⟩
  · rw [floored]
    constructor
    · intro nearest
      right
      have neighbour := nearest (.ofScaled _ least most)
      rw [Divisors.achieved, Divisors.scaled_ofScaled, between.lower_nearest_iff] at neighbour
      exact_mod_cast neighbour
    · intro condition other
      have mean := condition.resolve_left (Nat.not_le_of_lt below)
      have neighbour := between.lower_nearest_iff.mpr (by exact_mod_cast mean)
      rcases Nat.lt_or_ge (192000000 / baud.toNat) other.scaled with greater | less
      · exact neighbour.trans (between.nearest_of_lt greater)
      · exact between.nearest_of_le other.scaled_pos less
  · rw [next]
    refine iff_of_true ?_ (.inl reached)
    intro other
    have neighbour := between.upper_nearest (by exact_mod_cast reached)
    rcases Nat.lt_or_ge (192000000 / baud.toNat) other.scaled with greater | less
    · exact between.nearest_of_lt greater
    · exact neighbour.trans (between.nearest_of_le other.scaled_pos less)

theorem nearest_baud_iff_115200 :
    (∀ other : Divisors,
      |achievedBy (26, 3) - (115200 : Word).toNat| ≤ |other.achieved - (115200 : Word).toNat|) ↔
      (2 * (192000000 / (115200 : Word).toNat) + 1) * (115200 : Word).toNat ≤ 2 * 192000000 ∨
      (2 * (192000000 / (115200 : Word).toNat) + 1) * 192000000 ≤
        2 * (192000000 / (115200 : Word).toNat) * (192000000 / (115200 : Word).toNat + 1) *
          (115200 : Word).toNat :=
  nearest_baud_iff 115200 (26, 3) (by decide)

/-- At 2976800 baud the nearest divisor is 64/64, which achieves 3000000 baud, but 65/64 achieves
2953846 baud and is nearer. -/
theorem nearer_baud :
    ¬∀ (baud : Word) (pair : Word × Word), baudDivisors baud = some pair →
      ∀ other : Divisors, |achievedBy pair - baud.toNat| ≤ |other.achieved - baud.toNat| := by
  intro nearest
  have nearer := nearest 2976800 (1, 0) (by decide) (.ofScaled 65 (by decide) (by decide))
  change |rate 192000000 64 - ((2976800 : Nat) : Rat)| ≤
    |rate 192000000 65 - ((2976800 : Nat) : Rat)| at nearer
  have chosen : |rate 192000000 64 - ((2976800 : Nat) : Rat)| = 23200 := by norm_num [rate]
  have other : |rate 192000000 65 - ((2976800 : Nat) : Rat)| = 298400 / 13 := by norm_num [rate]
  rw [chosen, other] at nearer
  norm_num at nearer

end DirectLine.Firmware.Uart
