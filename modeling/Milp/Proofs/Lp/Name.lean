import Milp.Lp.Name
import Milp.Proofs.Comparison
import Milp.Proofs.Except
import Mathlib.Data.List.Nodup
set_option autoImplicit false

/-! # Printed names

The entities of a model are printed under names that the LP format allows, one for each. An entity
keeps its own name if it can and has a number otherwise. A name that is kept is compared with the
names that were printed before it; a number is compared with nothing. So numbers never meet each other
and no name is kept twice, but an entity whose own name is spelled like the number of a later entity
shares its printed name with it, and the names are distinct only without such entities
(`printedNames_usable`). -/

namespace Milp.Lp

/-! ## Numbers -/

/-- The printed name of an entity that does not keep its own: a letter and its number. -/
def numbered (letter : String) (i : Nat) : String := letter ++ toString (i + 1)

theorem numbered_injective {letter : String} {i j : Nat}
    (h : numbered letter i = numbered letter j) : i = j := by
  have hl := congrArg String.toList h
  rw [numbered, numbered, String.toList_append, String.toList_append] at hl
  have hdigits := congrArg (fun ds => Nat.ofDigitChars 10 ds 0) (List.append_cancel_left hl)
  simpa [Nat.toString_eq_ofList_toDigits] using hdigits

theorem continuesName_of_isDigit {c : Char} (h : c.isDigit = true) : continuesName c = true := by
  have halphanumeric : c.isAlphanum = true := Bool.or_eq_true_iff.2 (.inr h)
  rw [continuesName, halphanumeric, Bool.true_or, Bool.true_or]

theorem isCompliant_numbered {letter : String} (hletter : letter = "x" ∨ letter = "c") (i : Nat) :
    isCompliant (numbered letter i) = true := by
  have hdigits : (toString (i + 1)).toList.all continuesName = true := by
    rw [Nat.toString_eq_ofList_toDigits, String.toList_ofList, List.all_eq_true]
    intro c hc
    exact continuesName_of_isDigit (Nat.isDigit_of_mem_toDigits (by decide) (by decide) hc)
  rcases hletter with rfl | rfl
  · have hl : (numbered "x" i).toList = 'x' :: (toString (i + 1)).toList := String.toList_append
    rw [isCompliant, hl]
    exact hdigits
  · have hl : (numbered "c" i).toList = 'c' :: (toString (i + 1)).toList := String.toList_append
    rw [isCompliant, hl]
    exact hdigits

theorem positionText_one (i : Nat) : positionText (.int 1) i = .ok (toString (i + 1)) := by
  rw [positionText, Value.int, Value.int, Value.combine_numbers]
  rfl

/-! ## Names one after another -/

/-- The printed name of the entity at a position. -/
def shown (letter : String) (i : Nat) (used : List String) (name : Option String) : String :=
  (name.filter fun s => isCompliant s && !used.contains s).getD (numbered letter i)

/-- The printed names of entities from a position on. -/
def shownFrom (letter : String) (i : Nat) (used : List String) :
    List (Option String) → List String
  | [] => []
  | name :: rest =>
    shown letter i used name :: shownFrom letter (i + 1) (shown letter i used name :: used) rest

theorem printedName_eq (letter : String) (i : Nat) (used : List String) (name : Option String) :
    printedName letter (.int 1) i used (.ofName name) = .ok (shown letter i used name) := by
  have hname : compliantName? (.ofName name) = .ok (name.filter isCompliant) := by
    cases name with
    | none => rfl
    | some s =>
      rw [Option.filter_some]
      rfl
  have hfilter : (name.filter isCompliant).filter (fun s => !used.contains s) =
      name.filter fun s => isCompliant s && !used.contains s := by
    rw [Option.filter_filter]
  refine bind_eq_ok_iff.2 ⟨_, hname, ?_⟩
  rw [hfilter, shown, positionText_one]
  cases name.filter fun s => isCompliant s && !used.contains s <;> rfl

theorem printedNamesFrom_eq (letter : String) (i : Nat) (used : List String)
    (names : List (Option String)) :
    printedNamesFrom letter (.int 1) i used (names.map .ofName) =
      .ok (shownFrom letter i used names) := by
  induction names generalizing i used with
  | nil => rfl
  | cons name rest ih =>
    rw [List.map_cons, printedNamesFrom]
    exact bind_eq_ok_iff.2 ⟨_, printedName_eq letter i used name,
      bind_eq_ok_iff.2 ⟨_, ih _ _, rfl⟩⟩

/-- A printed name is determined by the names before it. -/
theorem getElem?_shownFrom (letter : String) (i : Nat) (used : List String)
    (names : List (Option String)) (k : Nat) :
    (shownFrom letter i used names)[k]? =
      names[k]?.map
        (shown letter (i + k) (((shownFrom letter i used names).take k).reverse ++ used)) := by
  induction names generalizing i used k with
  | nil => rfl
  | cons name rest ih =>
    cases k with
    | zero => rfl
    | succ k =>
      rw [shownFrom, List.getElem?_cons_succ, List.getElem?_cons_succ, ih, List.take_succ_cons,
        List.reverse_cons, List.append_assoc, List.singleton_append, Nat.add_right_comm,
        Nat.add_assoc]

/-! ## Who keeps its name -/

theorem shown_cases (letter : String) (i : Nat) (used : List String) (name : Option String) :
    (∃ s, name = some s ∧ isCompliant s = true ∧ s ∉ used ∧ shown letter i used name = s) ∨
      ((∀ s, name = some s → isCompliant s = true → s ∈ used) ∧
        shown letter i used name = numbered letter i) := by
  cases name with
  | none =>
    right
    exact ⟨fun s h => (nomatch h), rfl⟩
  | some s =>
    by_cases h : (isCompliant s && !used.contains s) = true
    · left
      have hshown : shown letter i used (some s) = s := by
        rw [shown, Option.filter_some, if_pos h]
        rfl
      rw [Bool.and_eq_true, Bool.not_eq_true', List.contains_eq_mem, decide_eq_false_iff_not] at h
      exact ⟨s, rfl, h.1, h.2, hshown⟩
    · right
      have hshown : shown letter i used (some s) = numbered letter i := by
        rw [shown, Option.filter_some, if_neg h]
        rfl
      refine ⟨fun t ht hcompliant => ?_, hshown⟩
      obtain rfl := Option.some.inj ht
      rw [hcompliant, Bool.true_and, Bool.not_eq_true, Bool.not_eq_false'] at h
      exact List.contains_iff_mem.1 h

/-- An entity keeps its own name if the format allows it and no earlier entity was printed with it. -/
def Keeps (names : List (Option String)) (printed : List String) (i : Nat) (s : String) : Prop :=
  names[i]? = some (some s) ∧ isCompliant s = true ∧ s ∉ printed.take i

/-- An entity is printed with its own name if it keeps it, and with its number if it keeps none. -/
inductive PrintedAt (letter : String) (names : List (Option String)) (printed : List String)
    (i : Nat) : Prop where
  | kept (s : String) (keeps : Keeps names printed i s) (shown : printed[i]? = some s)
  | counted (none : ∀ s, ¬ Keeps names printed i s)
    (shown : printed[i]? = some (numbered letter i))

section

variable {letter : String} {names : List (Option String)} {printed : List String}

theorem printedAt_shownFrom (letter : String) (names : List (Option String)) {i : Nat}
    (h : i < names.length) : PrintedAt letter names (shownFrom letter 0 [] names) i := by
  have hname : names[i]? = some names[i] := List.getElem?_eq_getElem h
  have hshown := getElem?_shownFrom letter 0 [] names i
  rw [hname, Option.map_some, Nat.zero_add, List.append_nil] at hshown
  obtain ⟨s, hs, hcompliant, hnew, heq⟩ | ⟨hnone, heq⟩ := shown_cases letter i
      ((shownFrom letter 0 [] names).take i).reverse names[i]
  · rw [List.mem_reverse] at hnew
    exact .kept s ⟨hs ▸ hname, hcompliant, hnew⟩ (heq ▸ hshown)
  · refine .counted (fun s ⟨hs, hcompliant, hnew⟩ => hnew ?_) (heq ▸ hshown)
    have hs : names[i] = some s := Option.some.inj (hname ▸ hs)
    exact List.mem_reverse.1 (hnone s hs hcompliant)

theorem isCompliant_of_printedAt (hletter : letter = "x" ∨ letter = "c") {i : Nat} {s : String}
    (h : PrintedAt letter names printed i) (hs : printed[i]? = some s) : isCompliant s = true := by
  cases h with
  | kept t keeps shown =>
    obtain rfl := Option.some.inj (shown ▸ hs)
    exact keeps.2.1
  | counted none shown =>
    obtain rfl := Option.some.inj (shown ▸ hs)
    exact isCompliant_numbered hletter i

/-- Two entities share a printed name only if the later one has a number and the earlier one keeps a
name that is spelled like it. -/
theorem keeps_of_shared {i j : Nat} {s : String} (hij : i < j)
    (hi : PrintedAt letter names printed i) (hj : PrintedAt letter names printed j)
    (hsi : printed[i]? = some s) (hsj : printed[j]? = some s) :
    Keeps names printed i (numbered letter j) ∧ ∀ t, ¬ Keeps names printed j t := by
  cases hj with
  | kept t keeps shown =>
    obtain rfl := Option.some.inj (shown ▸ hsj)
    exact absurd (List.mem_of_getElem? ((List.getElem?_take_of_lt hij).trans hsi)) keeps.2.2
  | counted none shown =>
    obtain rfl := Option.some.inj (shown ▸ hsj)
    refine ⟨?_, none⟩
    cases hi with
    | kept t keeps shown =>
      obtain rfl := Option.some.inj (shown ▸ hsi)
      exact keeps
    | counted _ shown =>
      have hnumber := numbered_injective (Option.some.inj (shown.symm.trans hsi))
      omega

theorem nodup_iff (hlength : printed.length = names.length)
    (h : ∀ i < names.length, PrintedAt letter names printed i) :
    printed.Nodup ↔ ∀ i j, i < j → j < names.length → Keeps names printed i (numbered letter j) →
      ∃ t, Keeps names printed j t := by
  constructor
  · intro hnodup i j hij hj hkeeps
    by_contra hnone
    have hi : printed[i]? = some (numbered letter j) := by
      cases h i (Nat.lt_trans hij hj) with
      | kept s keeps shown =>
        have hs := Option.some.inj (Option.some.inj (keeps.1 ▸ hkeeps.1))
        exact hs ▸ shown
      | counted none _ => exact absurd hkeeps (none _)
    have hj' : printed[j]? = some (numbered letter j) := by
      cases h j hj with
      | kept s keeps _ => exact absurd ⟨s, keeps⟩ hnone
      | counted _ shown => exact shown
    have hpos : i < printed.length := hlength ▸ Nat.lt_trans hij hj
    exact Nat.ne_of_lt hij ((List.getElem?_inj hpos hnodup).1 (hi.trans hj'.symm))
  · intro hshared
    refine List.pairwise_iff_getElem.2 fun i j hi hj hij heq => ?_
    obtain ⟨hkeeps, hnone⟩ := keeps_of_shared hij (h i (hlength ▸ hi)) (h j (hlength ▸ hj))
      (List.getElem?_eq_getElem hi) ((List.getElem?_eq_getElem hj).trans (congrArg some heq.symm))
    obtain ⟨t, ht⟩ := hshared i j hij (hlength ▸ hj) hkeeps
    exact hnone t ht

end

/-! ## Usable names -/

theorem printedNames_eq (letter : String) (names : List (Option String)) :
    printedNames letter (.int 1) (names.map .ofName) = .ok (shownFrom letter 0 [] names) :=
  printedNamesFrom_eq letter 0 [] names

theorem length_shownFrom (letter : String) (names : List (Option String)) :
    (shownFrom letter 0 [] names).length = names.length := by
  rw [length_printedNamesFrom (printedNames_eq letter names), List.length_map]

theorem isCompliant_of_mem_shownFrom {letter : String} (hletter : letter = "x" ∨ letter = "c")
    {names : List (Option String)} {s : String} (hs : s ∈ shownFrom letter 0 [] names) :
    isCompliant s = true := by
  obtain ⟨i, hi, hsi⟩ := List.mem_iff_getElem.1 hs
  have hat := printedAt_shownFrom letter names (length_shownFrom letter names ▸ hi)
  exact isCompliant_of_printedAt hletter hat (hsi ▸ List.getElem?_eq_getElem hi)

/-- Entities are printed with one name each, all of which the format allows. Each entity keeps its own
name if it can and has its number otherwise, and the names are distinct exactly if no entity keeps a
name that is spelled like the number of a later one. -/
theorem printedNames_usable {letter : String} (hletter : letter = "x" ∨ letter = "c")
    (names : List (Option String)) :
    ∃ printed, printedNames letter (.int 1) (names.map .ofName) = .ok printed ∧
      printed.length = names.length ∧
      (∀ s ∈ printed, isCompliant s = true) ∧
      (∀ i < names.length, PrintedAt letter names printed i) ∧
      (printed.Nodup ↔ ∀ i j, i < j → j < names.length →
        Keeps names printed i (numbered letter j) → ∃ t, Keeps names printed j t) := by
  have hat : ∀ i < names.length, PrintedAt letter names (shownFrom letter 0 [] names) i :=
    fun i hi => printedAt_shownFrom letter names hi
  exact ⟨_, printedNames_eq letter names, length_shownFrom letter names,
    fun s hs => isCompliant_of_mem_shownFrom hletter hs, hat,
    nodup_iff (length_shownFrom letter names) hat⟩

theorem printedNames_usable_repeated : ("x" = "x" ∨ "x" = "c") ∧
    ∃ printed, printedNames "x" (.int 1) ([some "a", some "a"].map .ofName) = .ok printed ∧
      printed.Nodup := by
  obtain ⟨printed, hprinted, -, -, -, hnodup⟩ := printedNames_usable (.inl rfl) [some "a", some "a"]
  refine ⟨.inl rfl, printed, hprinted, hnodup.2 fun i j hij hj hkeeps => ?_⟩
  obtain ⟨rfl, rfl⟩ : i = 0 ∧ j = 1 := by
    rw [List.length_cons, List.length_singleton] at hj
    omega
  exact absurd hkeeps.1 (by decide +kernel)

/-- A variable that is named like the number of the next one shares its printed name with it. -/
theorem shared_number :
    ∃ printed, printedNames "x" (.int 1) ([some "x2", none].map .ofName) = .ok printed ∧
      ¬ printed.Nodup :=
  ⟨_, printedNames_eq "x" [some "x2", none], by decide +kernel⟩

end Milp.Lp
