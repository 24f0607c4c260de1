import Milp.Settings.Script.Token
import Milp.Proofs.Double.Text
import Mathlib.Data.Bool.AllAny
set_option autoImplicit false

/-! # Numbers in scripts

A number is written in decimal digits. It is a whole number, unless there is a point among its digits
or an exponent after them; then it is the double nearest to what is written (`IsNumeral`). It is read
as that number and what follows it, if it may end there (`IsNumeral.numberLiteral_eq`). -/

namespace Milp.Settings.Script

open Milp.Double (AreDigits number)

/-! ## The grammar -/

/-- Digits that may have a point among them, all of these digits, and how many of them come after the
point. -/
inductive IsMantissa : List Char → List Char → Nat → Prop where
  | whole {ds : List Char} : AreDigits ds → ds ≠ [] → IsMantissa ds ds 0
  | pointed {whole fraction : List Char} : AreDigits whole → AreDigits fraction →
      whole ++ fraction ≠ [] →
        IsMantissa (whole ++ '.' :: fraction) (whole ++ fraction) fraction.length

/-- A power of ten, which may have a sign. -/
inductive IsExponent : List Char → ℤ → Prop where
  | unsigned {mark : Char} {ds : List Char} : mark = 'e' ∨ mark = 'E' → AreDigits ds → ds ≠ [] →
      IsExponent (mark :: ds) (number ds)
  | plus {mark : Char} {ds : List Char} : mark = 'e' ∨ mark = 'E' → AreDigits ds → ds ≠ [] →
      IsExponent (mark :: '+' :: ds) (number ds)
  | minus {mark : Char} {ds : List Char} : mark = 'e' ∨ mark = 'E' → AreDigits ds → ds ≠ [] →
      IsExponent (mark :: '-' :: ds) (-number ds)

/-- Texts of numbers. A whole number other than zero does not begin with a zero, and has no more than
4300 digits. -/
inductive IsNumeral : List Char → NumberLiteral → Prop where
  | whole {ds : List Char} : AreDigits ds → ds ≠ [] → (ds.head? = some '0' → ∀ c ∈ ds, c = '0') →
      ds.length ≤ 4300 → IsNumeral ds (.whole (number ds))
  | pointed {whole fraction : List Char} : AreDigits whole → AreDigits fraction →
      whole ++ fraction ≠ [] → IsNumeral (whole ++ '.' :: fraction)
        (.real (Decimal.toDouble false ⟨number (whole ++ fraction), -fraction.length⟩))
  | scaled {s ds power : List Char} {decimals : Nat} {e : ℤ} : IsMantissa s ds decimals →
      IsExponent power e →
        IsNumeral (s ++ power) (.real (Decimal.toDouble false ⟨number ds, e - decimals⟩))

/-! ## Digits -/

section

variable {ds s rest : List Char} {c : Char}

/-- The values of digits. -/
def digitsOf (ds : List Char) : List Nat := ds.map fun c => c.toNat - '0'.toNat

theorem digitIn?_of_isDigit (h : c.isDigit = true) :
    digitIn? 10 c = some (c.toNat - '0'.toNat) := by
  obtain ⟨-, hhigh⟩ := Char.isDigit_iff_toNat.1 h
  have hsmall : c.toNat - '0'.toNat < 10 := by
    have hnine : '9'.toNat = '0'.toNat + 9 := rfl
    omega
  rw [digitIn?, Text.hexDigitValue?, if_pos h, Option.filter_some, if_pos (decide_eq_true hsmall)]

theorem digitIn?_of_not_isDigit (h : c.isDigit = false) : digitIn? 10 c = none := by
  rw [digitIn?, Option.filter_eq_none_iff]
  intro d hd
  rw [Text.hexDigitValue?, h, if_neg Bool.false_ne_true] at hd
  split at hd
  · cases hd
    simp
  · split at hd
    · cases hd
      simp
    · cases hd

/-- What may follow digits and is not read with them. -/
def EndsDigits (s : List Char) : Prop := ∀ c ∈ s.head?, c.isDigit = false ∧ c ≠ '_'

theorem endsDigits_cons (h : c.isDigit = false ∧ c ≠ '_') : EndsDigits (c :: s) := by
  rintro _ ⟨⟩
  exact h

theorem digitRun_append (hds : AreDigits ds) (hrest : EndsDigits rest) :
    digitRun 10 (ds ++ rest) = some (digitsOf ds, rest) := by
  induction ds with
  | nil =>
    cases rest with
    | nil => rfl
    | cons c s =>
      obtain ⟨hdigit, hjoin⟩ := hrest c rfl
      rw [List.nil_append, digitRun.eq_def]
      dsimp only
      rw [digitIn?_of_not_isDigit hdigit]
      exact if_neg hjoin
  | cons c ds ih =>
    obtain ⟨hc, hds⟩ := List.forall_mem_cons.1 hds
    rw [List.cons_append, digitRun.eq_def]
    dsimp only
    rw [digitIn?_of_isDigit hc]
    dsimp only
    rw [ih hds]
    rfl

theorem decimalRun_append (hds : AreDigits ds) (hne : ds ≠ []) (hrest : EndsDigits rest) :
    decimalRun (ds ++ rest) = some (digitsOf ds, rest) := by
  obtain ⟨c, tail, rfl⟩ := List.exists_cons_of_ne_nil hne
  have hrun := digitRun_append hds hrest
  rw [List.cons_append] at hrun ⊢
  rw [decimalRun, if_pos (hds c List.mem_cons_self), hrun]

theorem valueIn_digitsOf (ds : List Char) : valueIn 10 (digitsOf ds) = number ds :=
  Double.digitsValue_map ds

/-! ## Exponents -/

/-- What may follow a number and is not read with it. -/
def EndsNumeral (s : List Char) : Prop := ∀ c ∈ s.head?, isNameChar c = false ∧ c ≠ '.'

theorem EndsNumeral.endsDigits (h : EndsNumeral rest) : EndsDigits rest := by
  intro c hc
  obtain ⟨hname, -⟩ := h c hc
  simp only [isNameChar, Char.isAlphanum, Bool.or_eq_false_iff, decide_eq_false_iff_not] at hname
  exact ⟨hname.1.1.2, hname.1.2⟩

theorem EndsNumeral.endsNumber_eq (h : EndsNumeral rest) : endsNumber rest = true := by
  cases rest with
  | nil => rfl
  | cons c s =>
    obtain ⟨hname, -⟩ := h c rfl
    rw [isNameChar] at hname
    rw [endsNumber, hname]
    exact Bool.or_true _

theorem EndsNumeral.exponentPart_eq (h : EndsNumeral rest) :
    exponentPart rest = some (0, false, rest) := by
  cases rest with
  | nil => rfl
  | cons c s =>
    obtain ⟨hname, -⟩ := h c rfl
    have hmark : ¬(c = 'e' ∨ c = 'E') := by
      rintro (rfl | rfl)
      all_goals exact absurd hname (by decide)
    rw [exponentPart.eq_def]
    exact if_neg hmark

/-- The digits of an exponent are read with or without a sign in front of them. -/
theorem IsExponent.exponentPart_eq {power : List Char} {e : ℤ} (h : IsExponent power e)
    (hrest : EndsNumeral rest) : exponentPart (power ++ rest) = some (e, true, rest) := by
  cases h with
  | @unsigned mark ds hmark hds hne | @plus mark ds hmark hds hne | @minus mark ds hmark hds hne =>
    have hrun := digitRun_append hds hrest.endsDigits
    have hvalue := valueIn_digitsOf ds
    obtain ⟨c, tail, rfl⟩ := List.exists_cons_of_ne_nil hne
    have hc := hds c List.mem_cons_self
    have hsign : c ≠ '-' ∧ c ≠ '+' := by
      constructor
      all_goals
        rintro rfl
        exact absurd hc (by decide)
    rw [List.cons_append] at hrun
    simp [exponentPart.eq_def, hmark, hc, hrun, hsign, ← hvalue]

/-! ## Numbers -/

theorem EndsDigits.decimalRun_eq (h : EndsDigits rest) : decimalRun rest = none := by
  cases rest with
  | nil => rfl
  | cons c s =>
    rw [decimalRun, (h c rfl).1]
    rfl

theorem ne_point_of_isDigit (h : c.isDigit = true) : c ≠ '.' := by
  rintro rfl
  exact absurd h (by decide)

/-- Digits before a point or what does not run into them. -/
theorem wholePart_append (hds : AreDigits ds) (hne : ds ≠ []) (hrest : EndsDigits rest) :
    wholePart (ds ++ rest) = some (digitsOf ds, rest) := by
  have hrun := decimalRun_append hds hne hrest
  obtain ⟨c, tail, rfl⟩ := List.exists_cons_of_ne_nil hne
  have hc := ne_point_of_isDigit (hds c List.mem_cons_self)
  rw [List.cons_append] at hrun ⊢
  simp [wholePart, hc, hrun]

theorem wholePart_pointed (hds : AreDigits ds) (rest : List Char) :
    wholePart (ds ++ '.' :: rest) = some (digitsOf ds, '.' :: rest) := by
  by_cases hne : ds = []
  · subst hne
    rfl
  · exact wholePart_append hds hne (endsDigits_cons (by decide))

theorem fractionPart_pointed (hds : AreDigits ds) (hrest : EndsDigits rest) :
    fractionPart ('.' :: (ds ++ rest)) = some (digitsOf ds, true, rest) := by
  by_cases hne : ds = []
  · subst hne
    have hhead : rest.head?.any Char.isDigit = false := by
      cases rest with
      | nil => rfl
      | cons c s => exact (hrest c rfl).1
    rw [List.nil_append, fractionPart, hrest.decimalRun_eq]
    dsimp only
    rw [hhead]
    rfl
  · rw [fractionPart, decimalRun_append hds hne hrest]

theorem fractionPart_of_no_point (h : ∀ s, rest ≠ '.' :: s) :
    fractionPart rest = some ([], false, rest) := by
  rw [fractionPart]
  exact h

/-- A decimal number is made of its parts, if nothing follows that it could run into. -/
theorem decimalNumber_of_parts {whole fraction : List Nat} {pointed scaled : Bool} {e : ℤ}
    {afterWhole afterFraction : List Char} (hwhole : wholePart s = some (whole, afterWhole))
    (hfraction : fractionPart afterWhole = some (fraction, pointed, afterFraction))
    (hexponent : exponentPart afterFraction = some (e, scaled, rest)) (hrest : EndsNumeral rest) :
    decimalNumber s =
      if pointed || scaled then
        some (.real (Decimal.toDouble false
          ⟨valueIn 10 (whole ++ fraction), e - fraction.length⟩), rest)
      else if whole.head? = some 0 && whole.any (· ≠ 0) then none
      else if digitLimit < whole.length then none
      else some (.whole (valueIn 10 whole), rest) := by
  have hunit : ∀ c ∈ rest.head?, ¬(c = 'j' ∨ c = 'J') := by
    rintro c hc (rfl | rfl)
    all_goals exact absurd (hrest _ hc).1 (by decide)
  simp only [decimalNumber, hwhole, hfraction, hexponent, Option.bind_eq_bind, Option.bind_some]
  rw [hrest.endsNumber_eq]
  cases rest with
  | nil => rfl
  | cons c s =>
    dsimp only
    rw [if_neg (hunit c rfl)]
    rfl

theorem EndsNumeral.ne_point (h : EndsNumeral rest) (s : List Char) : rest ≠ '.' :: s := by
  rintro rfl
  exact (h '.' rfl).2 rfl

/-- An exponent ends the digits before it. -/
theorem IsExponent.endsDigits {power : List Char} {e : ℤ} (h : IsExponent power e)
    (rest : List Char) :
    EndsDigits (power ++ rest) ∧ ∀ s, power ++ rest ≠ '.' :: s := by
  cases h with
  | unsigned hmark | plus hmark | minus hmark =>
    rcases hmark with rfl | rfl
    all_goals exact ⟨endsDigits_cons (by decide), fun s h => absurd (List.cons.inj h).1 (by decide)⟩

theorem digitsOf_append (ds es : List Char) : digitsOf (ds ++ es) = digitsOf ds ++ digitsOf es :=
  List.map_append

theorem length_digitsOf (ds : List Char) : (digitsOf ds).length = ds.length := List.length_map _

/-- Zeros in front are only those of zero. -/
theorem no_leading_zero (hds : AreDigits ds) (hzeros : ds.head? = some '0' → ∀ c ∈ ds, c = '0') :
    ¬((digitsOf ds).head? = some 0 && (digitsOf ds).any (· ≠ 0)) = true := by
  intro h
  rw [Bool.and_eq_true, decide_eq_true_eq, digitsOf, List.head?_map, Option.map_eq_some_iff,
    List.any_map, List.any_eq_true] at h
  obtain ⟨⟨c, hc, hvalue⟩, d, hd, hother⟩ := h
  have hlow : '0'.toNat ≤ c.toNat := (Char.isDigit_iff_toNat.1 (hds c (List.mem_of_mem_head? hc))).1
  have hzero : c = '0' := Char.toNat_inj.1 (Nat.le_antisymm (Nat.sub_eq_zero_iff_le.1 hvalue) hlow)
  rw [hzeros (hzero ▸ hc) d hd] at hother
  exact absurd hother (by decide)

/-- A number is read as itself, if nothing follows that it could run into. -/
theorem IsNumeral.decimalNumber_eq {n : NumberLiteral} (h : IsNumeral s n) (hrest : EndsNumeral rest) :
    decimalNumber (s ++ rest) = some (n, rest) := by
  cases h with
  | whole hds hne hzeros hshort =>
    rw [decimalNumber_of_parts (wholePart_append hds hne hrest.endsDigits)
      (fractionPart_of_no_point hrest.ne_point) hrest.exponentPart_eq hrest, valueIn_digitsOf,
      length_digitsOf, Bool.or_false, if_neg Bool.false_ne_true, if_neg (no_leading_zero hds hzeros),
      digitLimit, if_neg (Nat.not_lt.2 hshort)]
  | @pointed whole fraction hwhole hfraction hne =>
    rw [List.append_assoc, List.cons_append,
      decimalNumber_of_parts (wholePart_pointed hwhole _)
      (fractionPart_pointed hfraction hrest.endsDigits) hrest.exponentPart_eq hrest,
      ← digitsOf_append, valueIn_digitsOf, length_digitsOf, zero_sub]
    rfl
  | scaled hmantissa hpower =>
    obtain ⟨hends, hpoint⟩ := hpower.endsDigits rest
    cases hmantissa with
    | whole hds hne =>
      rw [List.append_assoc, decimalNumber_of_parts (wholePart_append hds hne hends)
        (fractionPart_of_no_point hpoint) (hpower.exponentPart_eq hrest) hrest, List.append_nil,
        valueIn_digitsOf]
      rfl
    | pointed hwhole hfraction =>
      rw [List.append_assoc, List.append_assoc, List.cons_append,
        decimalNumber_of_parts (wholePart_pointed hwhole _) (fractionPart_pointed hfraction hends)
        (hpower.exponentPart_eq hrest) hrest, ← digitsOf_append, valueIn_digitsOf, length_digitsOf]
      rfl

/-! ## Bases -/

/-- What a zero in front of a letter could be the mark of. -/
def basedMarks : List Char := ['x', 'X', 'o', 'O', 'b', 'B']

theorem not_based_of_areDigits (h : AreDigits s) : ∀ c ∈ s, c ∉ basedMarks := by
  intro c hc hmark
  have hletter : ∀ c ∈ basedMarks, c.isDigit ≠ true := List.all_iff_forall_prop.1 (by decide)
  exact hletter c hmark (h c hc)

theorem IsMantissa.not_based {ds : List Char} {decimals : Nat} (h : IsMantissa s ds decimals) :
    ∀ c ∈ s, c ∉ basedMarks := by
  cases h with
  | whole hds => exact not_based_of_areDigits hds
  | pointed hwhole hfraction =>
    exact List.forall_mem_append.2 ⟨not_based_of_areDigits hwhole,
      List.forall_mem_cons.2 ⟨by decide, not_based_of_areDigits hfraction⟩⟩

theorem IsExponent.not_based {e : ℤ} (h : IsExponent s e) : ∀ c ∈ s, c ∉ basedMarks := by
  cases h with
  | unsigned hmark hds | plus hmark hds | minus hmark hds =>
    rcases hmark with rfl | rfl
    all_goals simpa [basedMarks] using not_based_of_areDigits hds

/-- No letter in a decimal number is the mark of another base. -/
theorem IsNumeral.not_based {n : NumberLiteral} (h : IsNumeral s n) : ∀ c ∈ s, c ∉ basedMarks := by
  cases h with
  | whole hds => exact not_based_of_areDigits hds
  | pointed hwhole hfraction hne => exact (IsMantissa.pointed hwhole hfraction hne).not_based
  | scaled hmantissa hpower =>
    exact List.forall_mem_append.2 ⟨hmantissa.not_based, hpower.not_based⟩

theorem IsNumeral.ne_nil {n : NumberLiteral} (h : IsNumeral s n) : s ≠ [] := by
  cases h with
  | whole _ hne => exact hne
  | pointed => exact List.append_ne_nil_of_right_ne_nil _ (List.cons_ne_nil _ _)
  | scaled _ hpower =>
    refine List.append_ne_nil_of_right_ne_nil _ ?_
    cases hpower with
    | unsigned | plus | minus => exact List.cons_ne_nil _ _

/-- A number is read as itself and the rest, if nothing follows that it could run into. -/
theorem IsNumeral.numberLiteral_eq {n : NumberLiteral} (h : IsNumeral s n) (hrest : EndsNumeral rest) :
    numberLiteral (s ++ rest) = some (n, rest) := by
  rw [← h.decimalNumber_eq hrest, numberLiteral.eq_def]
  split
  · rename_i c tail hs
    have hc : c ∉ basedMarks := by
      cases s with
      | nil => exact absurd rfl h.ne_nil
      | cons first others =>
        cases others with
        | nil =>
          obtain rfl : rest = c :: tail := (List.cons.inj hs).2
          intro hmark
          have hletter : ∀ c ∈ basedMarks, isNameChar c ≠ false :=
            List.all_iff_forall_prop.1 (by decide)
          exact hletter c hmark (hrest c rfl).1
        | cons second others =>
          obtain rfl : second = c := (List.cons.inj (List.cons.inj hs).2).1
          exact h.not_based second (List.mem_cons_of_mem _ List.mem_cons_self)
    simp only [basedMarks, List.mem_cons, List.not_mem_nil, or_false, not_or] at hc
    rw [if_neg (not_or.2 ⟨hc.1, hc.2.1⟩), if_neg (not_or.2 ⟨hc.2.2.1, hc.2.2.2.1⟩),
      if_neg (not_or.2 ⟨hc.2.2.2.2.1, hc.2.2.2.2.2⟩), hs]
  · rfl

/-- A number begins with a digit, or with a point that a digit follows. -/
def BeginsNumeral (s : List Char) : Prop :=
  ∃ c tail, s = c :: tail ∧ (c.isDigit = true ∨ c = '.' ∧ tail.head?.any Char.isDigit = true)

theorem beginsNumeral_of_areDigits (hds : AreDigits ds) (hne : ds ≠ []) (rest : List Char) :
    BeginsNumeral (ds ++ rest) := by
  obtain ⟨c, tail, rfl⟩ := List.exists_cons_of_ne_nil hne
  exact ⟨c, tail ++ rest, rfl, .inl (hds c List.mem_cons_self)⟩

theorem beginsNumeral_pointed {whole fraction : List Char} (hwhole : AreDigits whole)
    (hfraction : AreDigits fraction) (hne : whole ++ fraction ≠ []) (rest : List Char) :
    BeginsNumeral (whole ++ '.' :: (fraction ++ rest)) := by
  by_cases hempty : whole = []
  · subst hempty
    obtain ⟨d, tail, rfl⟩ := List.exists_cons_of_ne_nil hne
    exact ⟨'.', _, rfl, .inr ⟨rfl, hfraction d List.mem_cons_self⟩⟩
  · exact beginsNumeral_of_areDigits hwhole hempty _

theorem IsNumeral.begins {n : NumberLiteral} (h : IsNumeral s n) (rest : List Char) :
    BeginsNumeral (s ++ rest) := by
  cases h with
  | whole hds hne => exact beginsNumeral_of_areDigits hds hne rest
  | pointed hwhole hfraction hne =>
    rw [List.append_assoc]
    exact beginsNumeral_pointed hwhole hfraction hne rest
  | scaled hmantissa =>
    rw [List.append_assoc]
    cases hmantissa with
    | whole hds hne => exact beginsNumeral_of_areDigits hds hne _
    | pointed hwhole hfraction hne =>
      rw [List.append_assoc]
      exact beginsNumeral_pointed hwhole hfraction hne _

end

end Milp.Settings.Script
