import Mathlib

/-! The lexicographic order of lists, core's `compare` on `List α`, under appending and under a
map that reverses the order of the elements: what an order-preserving encoding made of
concatenated, self-delimiting parts rests on.  A decoder that reads a value back from its code
followed by anything makes the code prefix-free, which is the hypothesis these facts need. -/

namespace LexOrder

variable {α β γ ε : Type}

theorem eq_of_starts_of_decodes (encode : γ → List α) (decode : List α → Except ε (γ × Nat))
    {valid : γ → Prop}
    (decodes : ∀ x, valid x → ∀ suffix, decode (encode x ++ suffix) = .ok (x, (encode x).length))
    {x y : γ} (validX : valid x) (validY : valid y) (isPrefix : encode x <+: encode y) : x = y := by
  obtain ⟨suffix, extended⟩ := isPrefix
  have read := decodes x validX suffix
  rw [extended, ← List.append_nil (encode y), decodes y validY []] at read
  exact (Prod.mk.inj (Except.ok.inj read)).1.symm

variable [Ord α] [Ord β]

theorem compare_append_left [Std.ReflOrd α] (common rest rest' : List α) :
    compare (common ++ rest) (common ++ rest') = compare rest rest' := by
  induction common with
  | nil => rfl
  | cons head tail ih =>
      rw [List.cons_append, List.cons_append, List.compare_cons_cons, Std.compare_self, ih]
      rfl

theorem compare_append_of_apart [Std.LawfulEqOrd α] {front front' : List α}
    (notPrefix : ¬ front <+: front') (notPrefix' : ¬ front' <+: front) (back back' : List α) :
    compare (front ++ back) (front' ++ back') = compare front front' := by
  induction front generalizing front' with
  | nil => exact absurd (List.nil_prefix) notPrefix
  | cons head tail ih =>
      cases front' with
      | nil => exact absurd List.nil_prefix notPrefix'
      | cons head' tail' =>
          rw [List.cons_append, List.cons_append, List.compare_cons_cons, List.compare_cons_cons]
          cases heads : compare head head' with
          | eq =>
              obtain rfl := Std.LawfulEqCmp.eq_of_compare heads
              have tails := ih (fun later => notPrefix (List.cons_prefix_cons.mpr ⟨rfl, later⟩))
                (fun later => notPrefix' (List.cons_prefix_cons.mpr ⟨rfl, later⟩))
              rw [tails]
          | lt => rfl
          | gt => rfl

theorem compare_map_of_apart [Std.LawfulEqOrd α] (f : α → β)
    (reverses : ∀ a a', compare (f a) (f a') = compare a' a) {front front' : List α}
    (notPrefix : ¬ front <+: front') (notPrefix' : ¬ front' <+: front) :
    compare (front.map f) (front'.map f) = compare front' front := by
  induction front generalizing front' with
  | nil => exact absurd (List.nil_prefix) notPrefix
  | cons head tail ih =>
      cases front' with
      | nil => exact absurd List.nil_prefix notPrefix'
      | cons head' tail' =>
          rw [List.map_cons, List.map_cons, List.compare_cons_cons, List.compare_cons_cons,
            reverses]
          cases heads : compare head' head with
          | eq =>
              obtain rfl := Std.LawfulEqCmp.eq_of_compare heads
              have tails := ih (fun later => notPrefix (List.cons_prefix_cons.mpr ⟨rfl, later⟩))
                (fun later => notPrefix' (List.cons_prefix_cons.mpr ⟨rfl, later⟩))
              rw [tails]
          | lt => rfl
          | gt => rfl

theorem compare_mul_add {base low low' : Nat} (high high' : Nat) (below : low < base)
    (below' : low' < base) :
    compare (high * base + low) (high' * base + low') = (compare high high').then (compare low low') := by
  rcases lt_trichotomy high high' with fewer | same | more
  · have smaller : high * base + low < high' * base + low' :=
      calc high * base + low < (high + 1) * base := by rw [Nat.succ_mul]; omega
        _ ≤ high' * base := Nat.mul_le_mul_right base fewer
        _ ≤ high' * base + low' := Nat.le_add_right _ _
    rw [compare_lt_iff_lt.mpr smaller, compare_lt_iff_lt.mpr fewer]
    rfl
  · subst same
    rw [Std.compare_self]
    simp only [compare, compareOfLessAndEq, Ordering.then]
    split_ifs <;> first | rfl | omega
  · have greater : high' * base + low' < high * base + low :=
      calc high' * base + low' < (high' + 1) * base := by rw [Nat.succ_mul]; omega
        _ ≤ high * base := Nat.mul_le_mul_right base more
        _ ≤ high * base + low := Nat.le_add_right _ _
    rw [compare_gt_iff_gt.mpr greater, compare_gt_iff_gt.mpr more]
    rfl

end LexOrder
