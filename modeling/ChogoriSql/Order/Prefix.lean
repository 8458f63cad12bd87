import Mathlib

/-! Lexicographic comparison of keys made of fields, each position with its own comparator,
and the ranges a pair of key prefixes bounds.  Comparison stops at the end of the shorter
key, so a key compares equal to each of its prefixes: a prefix used as a lower bound admits
every key that extends it, and a prefix used as an upper bound is inclusive. -/

namespace PrefixOrder

variable {α : Type}

def lexCompare : List (α → α → Ordering) → List α → List α → Ordering
  | cmp :: cmps, a :: left, b :: right => (cmp a b).then (lexCompare cmps left right)
  | _, _, _ => .eq

def AtOrAfter (cmps : List (α → α → Ordering)) (start key : List α) : Prop :=
  lexCompare cmps start key ≠ .gt

def AtOrBefore (cmps : List (α → α → Ordering)) (key finish : List α) : Prop :=
  lexCompare cmps key finish ≠ .gt

def InRange (cmps : List (α → α → Ordering)) (start finish key : List α) : Prop :=
  AtOrAfter cmps start key ∧ AtOrBefore cmps key finish

instance (cmps : List (α → α → Ordering)) (start key : List α) :
    Decidable (AtOrAfter cmps start key) :=
  inferInstanceAs (Decidable (lexCompare cmps start key ≠ .gt))

instance (cmps : List (α → α → Ordering)) (key finish : List α) :
    Decidable (AtOrBefore cmps key finish) :=
  inferInstanceAs (Decidable (lexCompare cmps key finish ≠ .gt))

instance (cmps : List (α → α → Ordering)) (start finish key : List α) :
    Decidable (InRange cmps start finish key) :=
  inferInstanceAs (Decidable (AtOrAfter cmps start key ∧ AtOrBefore cmps key finish))

@[simp] theorem lexCompare_nil_left (cmps : List (α → α → Ordering)) (key : List α) :
    lexCompare cmps [] key = .eq := by
  cases cmps <;> cases key <;> rfl

@[simp] theorem lexCompare_nil_right (cmps : List (α → α → Ordering)) (key : List α) :
    lexCompare cmps key [] = .eq := by
  cases cmps <;> cases key <;> rfl

@[simp] theorem lexCompare_cons (cmp : α → α → Ordering) (cmps : List (α → α → Ordering))
    (a b : α) (left right : List α) :
    lexCompare (cmp :: cmps) (a :: left) (b :: right) = (cmp a b).then (lexCompare cmps left right) :=
  rfl

end PrefixOrder
