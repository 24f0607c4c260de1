import Milp.Double.Text
import Milp.Proofs.Comparison
import Milp.Proofs.Double.Decimal
set_option autoImplicit false

/-! # Doubles written and read back

The text of a finite double is read back as the decimal that was chosen for it, in whatever way its
digits are laid out (`numberOfChars?_format`). So a double with a number of significant digits is read
as the nearest number of that many digits (`numberOfChars?_generalText`). -/

namespace Milp.Double

/-! ## Digits -/

/-- The number that decimal digits stand for. -/
def number (ds : List Char) : Nat := Nat.ofDigitChars 10 ds 0

/-- A text of decimal digits only. -/
def AreDigits (ds : List Char) : Prop := ∀ c ∈ ds, c.isDigit = true

instance (ds : List Char) : Decidable (AreDigits ds) :=
  decidable_of_iff (ds.all Char.isDigit = true) List.all_eq_true

theorem areDigits_cons {c : Char} {ds : List Char} (hc : c.isDigit = true) (hds : AreDigits ds) :
    AreDigits (c :: ds) := List.forall_mem_cons.2 ⟨hc, hds⟩

theorem areDigits_append {xs ys : List Char} (hx : AreDigits xs) (hy : AreDigits ys) :
    AreDigits (xs ++ ys) := List.forall_mem_append.2 ⟨hx, hy⟩

theorem areDigits_zeros (k : Nat) : AreDigits (List.replicate k '0') := fun _ hc =>
  List.eq_of_mem_replicate hc ▸ by decide

/-- A text that digits before it do not run into. -/
def Stops (rest : List Char) : Prop := ∀ c s, rest = c :: s → Text.digitValue? c = none ∧ c ≠ '_'

theorem stops_nil : Stops [] := fun _ _ h => nomatch h

theorem stops_cons {c : Char} {s : List Char} (h : Text.digitValue? c = none ∧ c ≠ '_') :
    Stops (c :: s) := by
  intro c' s' heq
  obtain ⟨rfl, rfl⟩ := List.cons.inj heq
  exact h

theorem number_append (xs ys : List Char) :
    number (xs ++ ys) = number xs * 10 ^ ys.length + number ys := by
  rw [number, Nat.ofDigitChars_append, Nat.ofDigitChars_eq_ofDigitChars_zero, Nat.mul_comm]
  rfl

theorem number_zeros (k : Nat) : number (List.replicate k '0') = 0 := by
  induction k with
  | zero => rfl
  | succ k ih =>
    rw [List.replicate_succ', number_append, ih]
    rfl

theorem number_toDigits (n : Nat) : number (Nat.toDigits 10 n) = n :=
  Nat.ofDigitChars_toDigits (by decide) (by decide)

theorem areDigits_toDigits (n : Nat) : AreDigits (Nat.toDigits 10 n) := fun _ hc =>
  Nat.isDigit_of_mem_toDigits (by decide) (by decide) hc

theorem digitValue?_of_isDigit {c : Char} (h : c.isDigit = true) :
    Text.digitValue? c = some (c.toNat - '0'.toNat) := by
  have hrange : 0x30 ≤ c.toNat ∧ c.toNat < 0x30 + 10 := by
    obtain ⟨hlow, hhigh⟩ := Char.isDigit_iff_toNat.1 h
    exact ⟨hlow, Nat.lt_succ_of_le hhigh⟩
  rw [Text.digitValue?, Text.zeroDigits, List.find?_cons_of_pos (by simpa using hrange)]
  rfl

/-- Digits are read up to where they stop. -/
theorem takeDigits_append {ds rest : List Char} (hds : AreDigits ds) (hrest : Stops rest)
    (afterDigit : Bool) :
    takeDigits afterDigit (ds ++ rest) = (ds.map fun c => c.toNat - '0'.toNat, rest) := by
  induction ds generalizing afterDigit with
  | nil =>
    cases rest with
    | nil => rfl
    | cons c s =>
      obtain ⟨hdigit, hunderscore⟩ := hrest c s rfl
      rw [List.nil_append, takeDigits, hdigit]
      exact if_neg fun h => hunderscore h.1
  | cons c ds ih =>
    rw [List.cons_append, takeDigits, digitValue?_of_isDigit (hds c List.mem_cons_self)]
    dsimp only
    rw [ih (fun c hc => hds c (List.mem_cons_of_mem _ hc))]
    rfl

theorem digitsValue_map (ds : List Char) :
    digitsValue (ds.map fun c => c.toNat - '0'.toNat) = number ds := by
  rw [digitsValue, List.foldl_map]
  rfl

theorem dropTrailingZeros_append (ds : List Char) :
    ∃ k, ds = dropTrailingZeros ds ++ List.replicate k '0' := by
  have hzeros : ds.reverse.takeWhile (· = '0') =
      List.replicate (ds.reverse.takeWhile (· = '0')).length '0' :=
    List.eq_replicate_of_mem fun c hc => by
      simpa using List.all_eq_true.1 List.all_takeWhile c hc
  refine ⟨(ds.reverse.takeWhile (· = '0')).length, ?_⟩
  have h := congrArg List.reverse (List.takeWhile_append_dropWhile (p := (· = '0')) (l := ds.reverse))
  rw [List.reverse_append, List.reverse_reverse, hzeros, List.reverse_replicate] at h
  exact h.symm

/-! ## Layouts -/

theorem exponentPart?_digits {ds : List Char} (hds : AreDigits ds) (hne : ds ≠ [])
    (negative : Bool) :
    exponentPart? ('e' :: (if negative then '-' else '+') :: ds) =
      some (if negative then -(number ds : ℤ) else number ds, []) := by
  have htake := takeDigits_append hds stops_nil false
  rw [List.append_nil] at htake
  have hmap : (ds.map fun c => c.toNat - '0'.toNat) ≠ [] := fun h => hne (List.map_eq_nil_iff.1 h)
  cases negative
  all_goals
    simp only [exponentPart?, true_or, if_true, if_false, Bool.false_eq_true, htake]
    rw [digitsValue_map]

theorem exponentText_eq (e : ℤ) :
    ∃ ds, exponentText e = 'e' :: (if e < 0 then '-' else '+') :: ds ∧ AreDigits ds ∧ ds ≠ [] ∧
      number ds = e.natAbs := by
  have hdigits := areDigits_toDigits e.natAbs
  refine ⟨_, rfl, ?_⟩
  split
  · exact ⟨areDigits_cons (by decide) hdigits, List.cons_ne_nil _ _, number_toDigits e.natAbs⟩
  · exact ⟨hdigits, Nat.toDigits_ne_nil, number_toDigits e.natAbs⟩

theorem exponentPart?_exponentText (e : ℤ) : exponentPart? (exponentText e) = some (e, []) := by
  obtain ⟨ds, hds, hdigits, hne, hnumber⟩ := exponentText_eq e
  have h := exponentPart?_digits hdigits hne (decide (e < 0))
  simp only [decide_eq_true_eq] at h
  rw [hds, h, hnumber]
  split <;> congr 2 <;> omega

/-- A number is read off its digits before and after the point and its exponent. -/
theorem decimalOfChars?_parts {whole fraction rest : List Char} {e : ℤ} (hwhole : AreDigits whole)
    (hne : whole ≠ []) (hfraction : AreDigits fraction) (hrest : Stops rest)
    (hpoint : ∀ s, rest ≠ '.' :: s) (he : exponentPart? rest = some (e, [])) :
    decimalOfChars? (withFraction whole fraction ++ rest) =
      some ⟨number (whole ++ fraction), e - fraction.length⟩ := by
  rw [withFraction]
  split
  · rename_i hempty
    obtain rfl := List.isEmpty_iff.1 hempty
    rw [decimalOfChars?, takeDigits_append hwhole hrest]
    dsimp only
    split
    · exact absurd rfl (hpoint _)
    · rw [he]
      simpa [hne] using digitsValue_map whole
  · have hpart : Stops ('.' :: (fraction ++ rest)) := stops_cons (by decide +kernel)
    rw [List.append_assoc, List.cons_append, decimalOfChars?, takeDigits_append hwhole hpart]
    simp only [takeDigits_append hfraction hrest]
    rw [he]
    simpa [hne, ← List.map_append] using digitsValue_map (whole ++ fraction)

/-- Texts of numbers: digits with a fraction or not, and with an exponent or not. -/
inductive Written : List Char → ℚ → Prop where
  | plain {whole fraction : List Char} (digits : AreDigits whole) (nonempty : whole ≠ [])
    (decimals : AreDigits fraction) :
    Written (withFraction whole fraction)
      (number (whole ++ fraction) * 10 ^ (-(fraction.length : ℤ)))
  | scientific {whole fraction : List Char} (digits : AreDigits whole) (nonempty : whole ≠ [])
    (decimals : AreDigits fraction) (e : ℤ) :
    Written (withFraction whole fraction ++ exponentText e)
      (number (whole ++ fraction) * 10 ^ (e - fraction.length))

theorem Written.decimalOfChars? {s : List Char} {x : ℚ} (h : Written s x) :
    ∃ d, decimalOfChars? s = some d ∧ d.value = x := by
  cases h with
  | plain digits nonempty decimals =>
    have hpoint (s : List Char) : [] ≠ '.' :: s := (List.cons_ne_nil _ _).symm
    have h := decimalOfChars?_parts digits nonempty decimals stops_nil hpoint rfl
    rw [List.append_nil] at h
    exact ⟨_, h, by rw [Decimal.value, zero_sub]⟩
  | scientific digits nonempty decimals e =>
    obtain ⟨ds, hds, -⟩ := exponentText_eq e
    have hpoint (s : List Char) : exponentText e ≠ '.' :: s := by
      rw [hds]
      intro h
      exact absurd (List.cons.inj h).1 (by decide)
    have h := decimalOfChars?_parts digits nonempty decimals
      (hds ▸ stops_cons (by decide +kernel)) hpoint (exponentPart?_exponentText e)
    exact ⟨_, h, rfl⟩

/-! ## Layouts -/

section

variable {ds : List Char}

theorem written_small (hds : AreDigits ds) (hne : ds ≠ []) (k : Nat) :
    Written ('0' :: '.' :: (List.replicate k '0' ++ ds))
      (number ds * 10 ^ (-((k + ds.length : Nat) : ℤ))) := by
  have hzero : AreDigits ['0'] := areDigits_zeros 1
  have h := Written.plain hzero (List.cons_ne_nil _ _) (areDigits_append (areDigits_zeros k) hds)
  have hnumber : number (['0'] ++ (List.replicate k '0' ++ ds)) = number ds := by
    rw [← List.append_assoc, number_append]
    have hz : number (['0'] ++ List.replicate k '0') = 0 := number_zeros (k + 1)
    rw [hz, Nat.zero_mul, Nat.zero_add]
  rw [withFraction, if_neg (by simp [hne]), hnumber, List.length_append, List.length_replicate] at h
  exact h

theorem written_positional (hds : AreDigits ds) (hne : ds ≠ []) {width : Nat} (hw : 0 < width)
    (always : Bool) :
    Written (withFraction (ds.take width ++ List.replicate (width - ds.length) '0')
      (if (ds.drop width).isEmpty && always then ['0'] else ds.drop width))
      (number ds * 10 ^ (width - ds.length : ℤ)) := by
  have hwhole : AreDigits (ds.take width ++ List.replicate (width - ds.length) '0') :=
    areDigits_append (fun c hc => hds c (List.mem_of_mem_take hc)) (areDigits_zeros _)
  have hnonempty : ds.take width ++ List.replicate (width - ds.length) '0' ≠ [] := by
    simp [hne, hw.ne']
  rcases le_or_gt ds.length width with hle | hlt
  · -- all digits are before the point, followed by zeros
    rw [List.take_of_length_le hle, List.drop_of_length_le hle] at *
    have hvalue : (number (ds ++ List.replicate (width - ds.length) '0') : ℚ) =
        number ds * 10 ^ (width - ds.length : ℤ) := by
      rw [number_append, number_zeros, List.length_replicate, Nat.add_zero, ← Nat.cast_sub hle,
        zpow_natCast]
      push_cast
      rfl
    cases always
    · have h := Written.plain hwhole hnonempty (areDigits_zeros 0)
      rw [List.replicate_zero, List.append_nil, hvalue] at h
      simpa using h
    · have h := Written.plain hwhole hnonempty (areDigits_zeros 1)
      rw [number_append, number_zeros, Nat.add_zero] at h
      push_cast at h
      rw [hvalue] at h
      simpa using h
  · -- no zeros are needed
    have hlong : ds.drop width ≠ [] := by simpa using hlt
    rw [Nat.sub_eq_zero_of_le hlt.le, List.replicate_zero, List.append_nil] at *
    have hdecimals : AreDigits (ds.drop width) := fun c hc => hds c (List.mem_of_mem_drop hc)
    have h := Written.plain hwhole hnonempty hdecimals
    rw [List.take_append_drop, List.length_drop, Nat.cast_sub hlt.le, neg_sub] at h
    rw [if_neg (by simp [hlong])]
    exact h

theorem written_scientific (hds : AreDigits ds) (hne : ds ≠ []) (lead : ℤ) :
    Written (withFraction (ds.take 1) (ds.drop 1) ++ exponentText lead)
      (number ds * 10 ^ (lead + 1 - ds.length)) := by
  have hwhole : AreDigits (ds.take 1) := fun c hc => hds c (List.mem_of_mem_take hc)
  have hdecimals : AreDigits (ds.drop 1) := fun c hc => hds c (List.mem_of_mem_drop hc)
  have h := Written.scientific hwhole (by simpa using hne) hdecimals lead
  have hlength : 0 < ds.length := List.length_pos_iff.2 hne
  rw [List.take_append_drop, List.length_drop, Nat.cast_sub hlength] at h
  convert h using 3
  push_cast
  ring

end

/-- Digits after the zeros at their end are dropped. -/
theorem trimmed_cases {ds : List Char} (hds : AreDigits ds) (hpos : number ds ≠ 0) :
    ∃ k, AreDigits (dropTrailingZeros ds) ∧ dropTrailingZeros ds ≠ [] ∧
      ds.length = (dropTrailingZeros ds).length + k ∧
      number ds = number (dropTrailingZeros ds) * 10 ^ k := by
  obtain ⟨k, hk⟩ := dropTrailingZeros_append ds
  generalize dropTrailingZeros ds = trimmed at *
  subst hk
  rw [number_append, number_zeros, List.length_replicate, Nat.add_zero] at *
  refine ⟨k, (List.forall_mem_append.1 hds).1, ?_, ?_, rfl⟩
  · rintro rfl
    exact hpos (Nat.zero_mul _)
  · rw [List.length_append, List.length_replicate]

/-- However digits are laid out, the text is one of the number that they stand for. -/
theorem written_place (style : Layout) {ds : List Char} (hds : AreDigits ds) (hpos : number ds ≠ 0)
    (lead : ℤ) : Written (style.place ds lead) (number ds * 10 ^ (lead + 1 - ds.length)) := by
  obtain ⟨k, htrim, hne, hlength, hnumber⟩ := trimmed_cases hds hpos
  have hvalue : (number ds * 10 ^ (lead + 1 - ds.length) : ℚ) =
      number (dropTrailingZeros ds) * 10 ^ (lead + 1 - (dropTrailingZeros ds).length) := by
    rw [hnumber, hlength]
    push_cast
    rw [mul_assoc, ← zpow_natCast, ← zpow_add₀ (by norm_num)]
    congr 2
    ring
  rw [hvalue, Layout.place]
  generalize dropTrailingZeros ds = trimmed at *
  dsimp only
  split
  · split
    · have h := written_small htrim hne (-lead - 1).toNat
      convert h using 3
      omega
    · have h := written_positional htrim hne (Nat.succ_pos lead.toNat) style.fraction
      convert h using 3
      omega
  · exact written_scientific htrim hne lead

/-! ## Signs -/

/-- The number that a text stands for, with a sign or not. -/
def numberOfChars? : List Char → Option ℚ
  | '-' :: s => (decimalOfChars? s).map fun d => -d.value
  | '+' :: s => (decimalOfChars? s).map Decimal.value
  | s => (decimalOfChars? s).map Decimal.value

/-- The sign in front of a negative number. -/
def sign (negative : Bool) : List Char := if negative then ['-'] else []

theorem Written.head_isDigit {s : List Char} {x : ℚ} (h : Written s x) :
    ∃ c rest, s = c :: rest ∧ c.isDigit = true := by
  cases h with
  | @plain whole fraction digits nonempty | @scientific whole fraction digits nonempty =>
    obtain ⟨c, rest, rfl⟩ := List.exists_cons_of_ne_nil nonempty
    have hc := digits c List.mem_cons_self
    rw [withFraction]
    split
    all_goals exact ⟨c, _, rfl, hc⟩

theorem Written.numberOfChars? {s : List Char} {x : ℚ} (h : Written s x) (negative : Bool) :
    numberOfChars? (sign negative ++ s) = some (if negative then -x else x) := by
  obtain ⟨d, hd, rfl⟩ := h.decimalOfChars?
  obtain ⟨c, rest, rfl, hc⟩ := h.head_isDigit
  cases negative
  · have hminus : c ≠ '-' := by rintro rfl; exact absurd hc (by decide)
    have hplus : c ≠ '+' := by rintro rfl; exact absurd hc (by decide)
    rw [sign, if_neg Bool.false_ne_true, List.nil_append, Double.numberOfChars?, hd]
    · rfl
    · rintro r h
      exact hminus (List.cons.inj h).1
    · rintro r h
      exact hplus (List.cons.inj h).1
  · exact congrArg (Option.map _) hd

/-- Only digits and a few marks are in the text of a number. -/
theorem Written.isDigit_or_mark {s : List Char} {x : ℚ} (h : Written s x) {c : Char} (hc : c ∈ s) :
    c.isDigit = true ∨ c ∈ ['.', 'e', '-', '+'] := by
  have hparts {whole fraction : List Char} (hw : AreDigits whole) (hf : AreDigits fraction)
      (hc : c ∈ withFraction whole fraction) : c.isDigit = true ∨ c ∈ ['.', 'e', '-', '+'] := by
    rw [withFraction] at hc
    split at hc
    · exact .inl (hw c hc)
    · rcases List.mem_append.1 hc with hc | hc
      · exact .inl (hw c hc)
      · rcases List.mem_cons.1 hc with rfl | hc
        · exact .inr (by decide)
        · exact .inl (hf c hc)
  cases h with
  | plain digits _ decimals => exact hparts digits decimals hc
  | scientific digits _ decimals e =>
    obtain ⟨ds, hds, hdigits, -⟩ := exponentText_eq e
    rcases List.mem_append.1 hc with hc | hc
    · exact hparts digits decimals hc
    · rw [hds, List.mem_cons, List.mem_cons] at hc
      rcases hc with rfl | rfl | hc
      · exact .inr (by decide)
      · right
        split <;> decide
      · exact .inl (hdigits c hc)

theorem Written.not_mem_blank {s : List Char} {x : ℚ} (h : Written s x) : ' ' ∉ s := by
  intro hmem
  have hblank := h.isDigit_or_mark hmem
  revert hblank
  decide

/-- Of two opposites in text the negative one has a sign in front. -/
theorem toList_format (style : Layout) (choose : Nat → Decimal) (negative : Bool) {n : Nat}
    (h : Representable n) : (format style choose (finite negative n h)).toList =
      sign negative ++ (format style choose (finite false n h)).toList := by
  rw [format, format]
  split
  all_goals
    rw [String.toList_ofList, String.toList_ofList]
    cases negative <;> rfl

/-- A finite double in text is a sign and a text of the decimal that was chosen for it. -/
theorem written_format (style : Layout) (choose : Nat → Decimal) (negative : Bool) {n : Nat}
    (h : Representable n) {d : Decimal} (hchoose : choose n = d) (hd : n ≠ 0 → d.digits ≠ 0) :
    ∃ s, (format style choose (finite negative n h)).toList = sign negative ++ s ∧
      Written s (if n = 0 then 0 else d.value) := by
  rw [format]
  split
  · obtain ⟨k, hk⟩ : ∃ k, (if style.fraction then ['0'] else []) = List.replicate k '0' := by
      cases style.fraction
      · exact ⟨0, rfl⟩
      · exact ⟨1, rfl⟩
    have hs := Written.plain (areDigits_zeros 1) (List.cons_ne_nil _ _) (areDigits_zeros k)
    rw [List.replicate_append_replicate, number_zeros, Nat.cast_zero, zero_mul] at hs
    rw [hk]
    exact ⟨_, String.toList_ofList, hs⟩
  · rename_i hn
    refine ⟨_, String.toList_ofList, ?_⟩
    have hs := written_place style (areDigits_toDigits d.digits)
      ((number_toDigits _).symm ▸ hd hn) (d.exponent + (Nat.toDigits 10 d.digits).length - 1)
    rw [number_toDigits, sub_add_cancel, add_sub_cancel_right] at hs
    rw [hchoose]
    exact hs

/-! ## Significant digits -/

/-- A finite double rounded to a number of significant digits. -/
inductive RoundsTo (precision : Nat) : Double → ℚ → Prop where
  | zero (negative : Bool) (h : Representable 0) : RoundsTo precision (finite negative 0 h) 0
  | positive {n : Nat} (h : Representable n) {y : ℚ}
    (rounds : Decimal.Rounds precision (n / stepsPerUnit) y) :
    RoundsTo precision (finite false n h) y
  | negative {n : Nat} (h : Representable n) {y : ℚ}
    (rounds : Decimal.Rounds precision (n / stepsPerUnit) y) :
    RoundsTo precision (finite true n h) (-y)

/-- Only the two zeros are rounded to zero. -/
theorem RoundsTo.eq_zero {precision : Nat} (hp : 0 < precision) {x : Double}
    (h : RoundsTo precision x 0) : ∃ negative valid, x = finite negative 0 valid := by
  generalize hy : (0 : ℚ) = y at h
  cases h with
  | zero negative h => exact ⟨negative, h, rfl⟩
  | positive _ rounds => exact absurd hy (rounds.pos hp).ne
  | negative _ rounds => exact absurd (neg_eq_zero.1 hy.symm).symm (rounds.pos hp).ne

theorem log2_lt_of_lt_power {n k : Nat} (hn : n ≠ 0) (h : n < power 2 k) : n.log2 < k :=
  (Nat.log2_lt hn).2 h

theorem log2_power (k : Nat) : (power 2 k).log2 = k := Nat.log2_two_pow

theorem significant_roundsTo {precision n : Nat} (hp : 0 < precision) (hn : n ≠ 0)
    (h : Representable n) :
    Decimal.Rounds precision (n / stepsPerUnit)
      (Decimal.significant precision n stepsPerUnit).value := by
  have hlimit : n.log2 < 2098 := log2_lt_of_lt_power hn h.2
  refine Decimal.significant_rounds hp (Nat.pos_of_ne_zero hn) stepsPerUnit_pos ?_
  rw [stepsPerUnit, log2_power, abs_le]
  omega

/-- A finite double with a number of significant digits is a sign and the text of a number. -/
theorem written_generalText {precision : Nat} (hp : 0 < precision) (negative : Bool) {n : Nat}
    (h : Representable n) :
    ∃ s, (generalText precision (finite negative n h)).toList = sign negative ++ s ∧
      Written s (if n = 0 then 0 else (Decimal.significant precision n stepsPerUnit).value) := by
  obtain ⟨d, hchoose⟩ : ∃ d, Decimal.significant precision n stepsPerUnit = d := ⟨_, rfl⟩
  rw [hchoose]
  refine written_format _ _ negative h hchoose fun hn hzero => ?_
  have hpos := (hchoose ▸ significant_roundsTo hp hn h).pos hp
  rw [Decimal.value, hzero, Nat.cast_zero, zero_mul] at hpos
  exact lt_irrefl _ hpos

/-- A finite double that is written with a number of significant digits is read as the nearest number
of that many digits. -/
theorem numberOfChars?_generalText {precision : Nat} (hp : 0 < precision) {x : Double}
    (hx : x.isFinite = true) :
    ∃ y, numberOfChars? (generalText precision x).toList = some y ∧ RoundsTo precision x y ∧
      ' ' ∉ (generalText precision x).toList := by
  cases x with
  | nan | infinite => cases hx
  | finite negative n h =>
    obtain ⟨s, hs, hwritten⟩ := written_generalText hp negative h
    have hsign : ' ' ∉ sign negative := by cases negative <;> decide
    rw [hs]
    refine ⟨_, hwritten.numberOfChars? negative, ?_,
      fun hmem => (List.mem_append.1 hmem).elim hsign hwritten.not_mem_blank⟩
    by_cases hn : n = 0
    · subst hn
      rw [if_pos rfl, neg_zero, ite_self]
      exact .zero negative h
    · rw [if_neg hn]
      cases negative
      · exact .positive h (significant_roundsTo hp hn h)
      · exact .negative h (significant_roundsTo hp hn h)

end Milp.Double
