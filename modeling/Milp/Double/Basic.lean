set_option autoImplicit false

/-! # Binary floating-point numbers on one exact grid

Every finite double is a whole multiple of `2^-1074`, so a finite double is stored as a sign and a
number of grid steps. Arithmetic is then arithmetic of whole numbers followed by one rounding
(`Double.ofSteps`), and the order is the order of whole numbers (`Place`).

Main statements: a rounded quotient has at most 53 significant bits
(`fitsMantissa_roundQuotient`), and rounding leaves such a number as it is
(`roundQuotient_of_fitsMantissa`). -/

namespace Milp

/-- The power `base ^ exponent` of natural numbers. -/
def power (base exponent : Nat) : Nat := Nat.pow base exponent

/-! ## Rounding to 53 significant bits -/

/-- The whole number nearest to `n / d`; a tie goes to the even neighbour. -/
def halfEven (n d : Nat) : Nat :=
  let q := n / d
  let r := n % d
  if 2 * r < d then q
  else if d < 2 * r then q + 1
  else q + q % 2

/-- Numbers of grid steps with at most 53 significant bits. -/
def FitsMantissa (n : Nat) : Prop := power 2 (n.log2 - 52) ∣ n

instance (n : Nat) : Decidable (FitsMantissa n) := inferInstanceAs (Decidable (_ ∣ _))

/-- The number with at most 53 significant bits nearest to `n / d`; a tie goes to the even one. -/
def roundQuotient (n d : Nat) : Nat :=
  let step := power 2 ((n / d).log2 - 52)
  halfEven n (d * step) * step

theorem halfEven_le_succ (n d : Nat) : halfEven n d ≤ n / d + 1 := by
  unfold halfEven
  have := Nat.mod_two_eq_zero_or_one (n / d)
  simp only
  split
  · omega
  · split <;> omega

theorem halfEven_mul_right (k d : Nat) (hd : 0 < d) : halfEven (k * d) d = k := by
  simp [halfEven, Nat.mul_div_cancel _ hd, hd]

private theorem fitsMantissa_mul_power (k s : Nat) (hk : k ≤ power 2 53) :
    FitsMantissa (k * power 2 s) := by
  change 2 ^ ((k * 2 ^ s).log2 - 52) ∣ k * 2 ^ s
  change k ≤ 2 ^ 53 at hk
  rcases Nat.eq_zero_or_pos k with rfl | hpos
  · simp
  have hlog : (k * 2 ^ s).log2 = k.log2 + s := by
    have hk0 : k ≠ 0 := by omega
    have hne : k * 2 ^ s ≠ 0 := Nat.mul_ne_zero hk0 (Nat.ne_of_gt (Nat.two_pow_pos s))
    refine (Nat.log2_eq_iff hne).2 ⟨?_, ?_⟩
    · rw [Nat.pow_add]
      exact Nat.mul_le_mul_right _ (Nat.log2_self_le hk0)
    · have h := Nat.lt_log2_self (n := k)
      have h2 := Nat.mul_lt_mul_of_pos_right h (Nat.pow_pos (n := s) (a := 2) (by decide))
      rw [← Nat.pow_add] at h2
      have he : k.log2 + 1 + s = k.log2 + s + 1 := by omega
      rw [he] at h2
      exact h2
  rw [hlog]
  rcases Nat.lt_or_eq_of_le hk with hlt | heq
  · have h52 : k.log2 ≤ 52 := by
      have := (Nat.log2_lt (by omega : k ≠ 0)).2 hlt
      omega
    exact Nat.dvd_trans (Nat.pow_dvd_pow 2 (by omega)) (Nat.dvd_mul_left _ _)
  · subst heq
    rw [Nat.log2_two_pow, ← Nat.pow_add]
    exact Nat.pow_dvd_pow 2 (by omega)

/-- A rounded quotient has at most 53 significant bits. -/
theorem fitsMantissa_roundQuotient (n d : Nat) : FitsMantissa (roundQuotient n d) := by
  unfold roundQuotient
  apply fitsMantissa_mul_power
  change halfEven n (d * 2 ^ ((n / d).log2 - 52)) ≤ 2 ^ 53
  have h := halfEven_le_succ n (d * 2 ^ ((n / d).log2 - 52))
  rw [← Nat.div_div_eq_div_mul] at h
  suffices hlt : n / d / 2 ^ ((n / d).log2 - 52) < 2 ^ 53 by omega
  rw [Nat.div_lt_iff_lt_mul (Nat.pow_pos (by decide)), ← Nat.pow_add]
  exact Nat.lt_of_lt_of_le Nat.lt_log2_self (Nat.pow_le_pow_right (by decide) (by omega))

/-- Rounding leaves a number with at most 53 significant bits as it is. -/
theorem roundQuotient_of_fitsMantissa {n : Nat} (h : FitsMantissa n) : roundQuotient n 1 = n := by
  obtain ⟨k, hk⟩ := h
  simp only [roundQuotient, Nat.div_one, Nat.one_mul]
  rw [Nat.mul_comm] at hk
  generalize power 2 (n.log2 - 52) = s at hk
  subst hk
  rcases Nat.eq_zero_or_pos s with rfl | hs
  · simp
  · rw [halfEven_mul_right k s hs]

/-! ## The type -/

/-- Grid steps in one unit. -/
def stepsPerUnit : Nat := power 2 1074

/-- One more than the greatest finite double, in grid steps. -/
def stepsLimit : Nat := power 2 2098

/-- The magnitudes, in grid steps, of the finite doubles. -/
def Representable (n : Nat) : Prop := FitsMantissa n ∧ n < stepsLimit

instance (n : Nat) : Decidable (Representable n) := inferInstanceAs (Decidable (_ ∧ _))

/-- A binary64 number: not a number, an infinity, or a sign and a number of steps of `2^-1074`. -/
inductive Double where
  | nan
  | infinite (negative : Bool)
  | finite (negative : Bool) (steps : Nat) (valid : Representable steps)
deriving DecidableEq

namespace Double

/-- The double nearest to `± n / d` grid steps: an infinity where the rounded magnitude is too large. -/
def ofQuotient (negative : Bool) (n d : Nat) : Double :=
  let r := roundQuotient n d
  if h : r < stepsLimit then .finite negative r ⟨fitsMantissa_roundQuotient n d, h⟩
  else .infinite negative

/-- The double nearest to a whole number of grid steps; zero takes the given sign. -/
def ofSteps (zeroNegative : Bool) (z : Int) : Double :=
  ofQuotient (if z = 0 then zeroNegative else decide (z < 0)) z.natAbs 1

def zero : Double := ofQuotient false 0 1

instance : Inhabited Double := ⟨zero⟩

/-- The double nearest to a whole number. -/
def ofInt (n : Int) : Double := ofSteps false (n * stepsPerUnit)

def one : Double := ofInt 1

instance (n : Nat) : OfNat Double n := ⟨ofInt n⟩

def isNaN : Double → Bool
  | nan => true
  | _ => false

def isFinite : Double → Bool
  | finite .. => true
  | _ => false

/-! ## Arithmetic -/

/-- The signed number of grid steps; a zero has none. -/
def signed (negative : Bool) (steps : Nat) : Int :=
  if negative then -(steps : Int) else steps

def neg : Double → Double
  | nan => nan
  | infinite s => infinite (!s)
  | finite s m h => finite (!s) m h

/-- The exact sum, rounded once. Opposite infinities have no sum, and a zero sum is negative only
when both terms are negative. -/
def add : Double → Double → Double
  | nan, _ => nan
  | _, nan => nan
  | infinite s, infinite t => if s = t then infinite s else nan
  | infinite s, finite .. => infinite s
  | finite .., infinite t => infinite t
  | finite s m _, finite t n _ => ofSteps (s && t) (signed s m + signed t n)

/-- The exact product, rounded once. Zero times an infinity is not a number. -/
def mul : Double → Double → Double
  | nan, _ => nan
  | _, nan => nan
  | infinite s, infinite t => infinite (s != t)
  | infinite s, finite t n _ => if n = 0 then nan else infinite (s != t)
  | finite s m _, infinite t => if m = 0 then nan else infinite (s != t)
  | finite s m _, finite t n _ => ofQuotient (s != t) (m * n) stepsPerUnit

instance : Neg Double := ⟨neg⟩
instance : Add Double := ⟨add⟩
instance : Mul Double := ⟨mul⟩

/-- The greatest whole number not above a finite double. -/
def floor? : Double → Option Int
  | finite s m _ => some ((signed s m).fdiv stepsPerUnit)
  | _ => none

/-- The least whole number not below a finite double. -/
def ceil? : Double → Option Int
  | finite s m _ => some (-(-signed s m).fdiv stepsPerUnit)
  | _ => none

/-- A finite double without its fraction. -/
def truncate? : Double → Option Int
  | finite s m _ => some (signed s (m / stepsPerUnit))
  | _ => none

end Double

/-! ## Order -/

/-- A position on the extended number line, in grid steps. -/
inductive Place where
  | lowest
  | point (steps : Int)
  | highest
deriving DecidableEq

namespace Place

def lt : Place → Place → Bool
  | lowest, lowest => false
  | lowest, _ => true
  | point _, lowest => false
  | point a, point b => a < b
  | point _, highest => true
  | highest, _ => false

def le (p q : Place) : Bool := !q.lt p

theorem lt_irrefl (p : Place) : p.lt p = false := by
  cases p with
  | point n => exact decide_eq_false (Int.lt_irrefl n)
  | lowest | highest => rfl

end Place

namespace Double

/-- Where a double stands; `none` for not-a-number. -/
def place? : Double → Option Place
  | nan => none
  | infinite s => some (if s then .lowest else .highest)
  | finite s m _ => some (.point (signed s m))

private def compareBy (r : Place → Place → Bool) (x y : Double) : Bool :=
  match x.place?, y.place? with
  | some p, some q => r p q
  | _, _ => false

/-- Strict order; not-a-number is below nothing and above nothing. -/
def lt (x y : Double) : Bool := compareBy Place.lt x y

def le (x y : Double) : Bool := compareBy Place.le x y

/-- Numeric equality: the two zeros are equal, not-a-number differs from everything. -/
def eq (x y : Double) : Bool := compareBy (fun p q => decide (p = q)) x y

private theorem compareBy_eq_any (r : Place → Place → Bool) (x y : Double) :
    compareBy r x y = x.place?.any fun p => y.place?.any fun q => r p q := by
  unfold compareBy
  cases x.place? <;> cases y.place? <;> rfl

variable {x y : Double}

theorem lt_eq_any (x y : Double) : x.lt y = x.place?.any fun p => y.place?.any p.lt :=
  compareBy_eq_any _ x y

theorem le_eq_any (x y : Double) : x.le y = x.place?.any fun p => y.place?.any p.le :=
  compareBy_eq_any _ x y

theorem eq_eq_any (x y : Double) :
    x.eq y = x.place?.any fun p => y.place?.any fun q => decide (p = q) :=
  compareBy_eq_any _ x y

theorem lt_of_places {p q : Place} (hx : x.place? = some p) (hy : y.place? = some q) :
    x.lt y = p.lt q := by
  rw [lt_eq_any, hx, hy]
  rfl

/-- Equal doubles are at one place. -/
theorem place?_of_eq (h : x.eq y = true) : x.place? = y.place? := by
  rw [eq_eq_any] at h
  obtain ⟨p, hp, h⟩ := (Option.any_eq_true _ _).1 h
  obtain ⟨q, hq, h⟩ := (Option.any_eq_true _ _).1 h
  rw [hp, hq, of_decide_eq_true h]

/-- Of two doubles at one place neither is below the other. -/
theorem place?_ne_of_lt (h : x.lt y = true) : x.place? ≠ y.place? := by
  rw [lt_eq_any] at h
  obtain ⟨p, hp, h⟩ := (Option.any_eq_true _ _).1 h
  obtain ⟨q, hq, h⟩ := (Option.any_eq_true _ _).1 h
  rw [hp, hq]
  rintro ⟨rfl⟩
  rw [p.lt_irrefl] at h
  cases h

end Double

end Milp
