import Milp.Variable
set_option autoImplicit false

/-! # Linear expressions

A linear expression is a list of terms, each a variable with its coefficient. Every variable occurs
at most once and no coefficient is zero; terms keep the order in which their variables were first
met. `LinearExpr.ofTerms` brings any list of terms into this form. Main statements: merging keeps
each variable once (`nodup_ids_merge`) and in the order of first occurrence (`ids_addTerm`). -/

namespace Milp

/-- A variable with its coefficient. -/
abbrev Term := Var × Double

namespace Term

def id (t : Term) : Nat := t.1.id

def isZero (t : Term) : Bool := t.2.eq Double.zero

end Term

/-! ## Merging terms of the same variable -/

/-- Adds a coefficient to the term of a variable, or a new term at the end. -/
def addTerm (terms : List Term) (t : Term) : List Term :=
  match terms with
  | [] => [(t.1, Double.zero + t.2)]
  | u :: rest => if u.id = t.id then (u.1, u.2 + t.2) :: rest else u :: addTerm rest t

/-- The terms with one term for each variable, in the order of first occurrence. -/
def mergeTerms (terms : List Term) : List Term := terms.foldl addTerm []

theorem ids_addTerm (terms : List Term) (t : Term) :
    (addTerm terms t).map Term.id =
      if t.id ∈ terms.map Term.id then terms.map Term.id else terms.map Term.id ++ [t.id] := by
  induction terms with
  | nil => simp [addTerm, Term.id]
  | cons u rest ih =>
    by_cases h : u.id = t.id
    · have hm : t.id ∈ (u :: rest).map Term.id := by simp [h]
      rw [addTerm, if_pos h, if_pos hm]
      rfl
    · rw [addTerm, if_neg h, List.map_cons, ih]
      have hne : t.id ≠ u.id := fun e => h e.symm
      by_cases hm : t.id ∈ rest.map Term.id
      · simp [hm]
      · simp [hm, hne]

theorem nodup_ids_addTerm {terms : List Term} (t : Term) (h : (terms.map Term.id).Nodup) :
    ((addTerm terms t).map Term.id).Nodup := by
  rw [ids_addTerm]
  split
  · exact h
  · rename_i hm
    rw [List.nodup_append]
    refine ⟨h, by simp, ?_⟩
    intro a ha b hb
    rw [List.mem_singleton] at hb
    subst hb
    exact fun e => hm (e ▸ ha)

theorem nodup_ids_merge (terms : List Term) : ((mergeTerms terms).map Term.id).Nodup := by
  suffices h : ∀ acc : List Term, (acc.map Term.id).Nodup →
      ((terms.foldl addTerm acc).map Term.id).Nodup from h [] (by simp)
  induction terms with
  | nil => exact fun acc h => h
  | cons t rest ih => exact fun acc h => ih _ (nodup_ids_addTerm t h)

/-! ## The type -/

/-- Terms of distinct variables with coefficients that are not zero. -/
structure LinearExpr where
  terms : List Term
  distinct : (terms.map Term.id).Nodup
  nonzero : ∀ t ∈ terms, t.isZero = false
deriving DecidableEq

namespace LinearExpr

/-- The expression with the given terms: terms of one variable are added up from left to right, and
those that come to zero are dropped. -/
def ofTerms (terms : List Term) : LinearExpr where
  terms := (mergeTerms terms).filter fun t => !t.isZero
  distinct := (nodup_ids_merge terms).sublist (List.filter_sublist.map Term.id)
  nonzero := by
    intro t ht
    simpa using (List.mem_filter.1 ht).2

def empty : LinearExpr := ofTerms []

instance : Inhabited LinearExpr := ⟨empty⟩

def ofVar (v : Var) : LinearExpr := ofTerms [(v, Double.one)]

def vars (e : LinearExpr) : List Var := e.terms.map Prod.fst

def size (e : LinearExpr) : Nat := e.terms.length

/-- The coefficient of a variable, zero if it has no term. -/
def coefficient (e : LinearExpr) (v : Var) : Double :=
  match e.terms.find? (·.id = v.id) with
  | some t => t.2
  | none => Double.zero

def mentions (e : LinearExpr) (v : Var) : Bool := e.terms.any (·.id = v.id)

/-! ## Arithmetic -/

def negate (e : LinearExpr) : LinearExpr := ofTerms (e.terms.map fun t => (t.1, -t.2))

def plus (a b : LinearExpr) : LinearExpr := ofTerms (a.terms ++ b.terms)

def minus (a b : LinearExpr) : LinearExpr := a.plus b.negate

def times (e : LinearExpr) (k : Double) : LinearExpr :=
  ofTerms (e.terms.map fun t => (t.1, t.2 * k))

/-- The sum of a list of expressions, by merging all their terms at once. -/
def sum (es : List LinearExpr) : LinearExpr := ofTerms (es.flatMap terms)

/-! ## Text -/

/-- A term without a leading plus sign; a coefficient of one is left out. -/
def termText (serial : Serials) (t : Term) : String :=
  if t.2.eq Double.one then t.1.text serial
  else if t.2.eq (-Double.one) then "-" ++ t.1.text serial
  else t.2.generalText 6 ++ t.1.text serial

/-- Terms after the first one are joined with a plus sign unless they begin with a minus sign. -/
def text (serial : Serials) (e : LinearExpr) : String :=
  match e.terms.map (termText serial) with
  | [] => "0"
  | first :: rest =>
    rest.foldl (fun s t => if t.startsWith "-" then s ++ t else s ++ "+" ++ t) first

def description (serial : Serials) (e : LinearExpr) : String :=
  s!"mipbuilder.linear.LinearExpr({Text.abbreviate 60 (e.text serial)})"

end LinearExpr

end Milp
