import Mathlib

/-! `PgOp::MoveInactiveOpsOutside` of `pggate/pg_op.cc`, which `PopulateDmlByRowIdOps` and
`ProcessResponsePagingState` call once they have switched operators off.  A left iterator skips
the active operators, a right one skips back over the inactive ones, and while they have not met
the two operators they stop at are swapped, with their row orders when `batch_row_orders_` has
any; `active_op_count_` is where the left iterator ends.  The operators are of any type with their
`is_active()` flag, the row orders of any type.

The pass leaves the active operators exactly in `[0, active_op_count_)`, the operators a
permutation of what they were, and each row order beside its operator. -/

namespace ChogoriSql

structure PgOp (α β : Type) where
  pgsqlOps : Array α
  batchRowOrders : Array β
  activeOpCount : Nat

namespace PgOp

variable {α β : Type} (isActive : α → Bool)

def advanceLeft (ops : Array α) (left : Nat) : Nat :=
  if h : left < ops.size then
    if isActive ops[left] then advanceLeft ops (left + 1) else left
  else left
termination_by ops.size - left

def advanceRight (ops : Array α) (right : Int) : Int :=
  if h : 0 ≤ right ∧ right.toNat < ops.size then
    if !isActive ops[right.toNat] then advanceRight ops (right - 1) else right
  else right
termination_by (right + 1).toNat

theorem le_advanceLeft (ops : Array α) (left : Nat) : left ≤ advanceLeft isActive ops left := by
  fun_induction advanceLeft isActive ops left <;> omega

theorem advanceLeft_le_size (ops : Array α) (left : Nat) (within : left ≤ ops.size) :
    advanceLeft isActive ops left ≤ ops.size := by
  fun_induction advanceLeft isActive ops left with
  | case1 left inBounds _ ih => exact ih (by omega)
  | case2 => exact within
  | case3 => exact within

theorem advanceLeft_succ_le {ops : Array α} {left : Nat} (inBounds : left < ops.size)
    (active : isActive ops[left] = true) : left + 1 ≤ advanceLeft isActive ops left := by
  rw [advanceLeft, dif_pos inBounds, if_pos active]
  exact le_advanceLeft isActive ops (left + 1)

theorem advanceLeft_passed (ops : Array α) (left : Nat) :
    ∀ i (h : i < ops.size), left ≤ i → i < advanceLeft isActive ops left →
      isActive ops[i] = true := by
  fun_induction advanceLeft isActive ops left with
  | case1 left inBounds active ih =>
      intro i h lower upper
      by_cases here : i = left
      · subst here
        exact active
      · exact ih i h (by omega) upper
  | case2 => intro i h lower upper; omega
  | case3 => intro i h lower upper; omega

theorem advanceLeft_stop (ops : Array α) (left : Nat) :
    ∀ i (h : i < ops.size), i = advanceLeft isActive ops left → isActive ops[i] = false := by
  fun_induction advanceLeft isActive ops left with
  | case1 left inBounds active ih => exact ih
  | case2 left inBounds inactive =>
      intro i h same
      subst same
      simpa using inactive
  | case3 left outside => intro i h same; omega

theorem advanceRight_le (ops : Array α) (right : Int) : advanceRight isActive ops right ≤ right := by
  fun_induction advanceRight isActive ops right <;> omega

theorem advanceRight_le_pred {ops : Array α} {right : Int}
    (inBounds : 0 ≤ right ∧ right.toNat < ops.size) (inactive : isActive ops[right.toNat] = false) :
    advanceRight isActive ops right ≤ right - 1 := by
  rw [advanceRight, dif_pos inBounds, if_pos (by simp [inactive])]
  exact advanceRight_le isActive ops (right - 1)

theorem advanceRight_passed (ops : Array α) (right : Int) :
    ∀ i (h : i < ops.size), advanceRight isActive ops right < i → i ≤ right →
      isActive ops[i] = false := by
  fun_induction advanceRight isActive ops right with
  | case1 right inBounds inactive ih =>
      intro i h lower upper
      by_cases here : (i : Int) = right
      · obtain rfl : i = right.toNat := by omega
        simpa using inactive
      · exact ih i h lower (by omega)
  | case2 => intro i h lower upper; omega
  | case3 => intro i h lower upper; omega

theorem advanceRight_stop (ops : Array α) (right : Int) :
    ∀ i (h : i < ops.size), (i : Int) = advanceRight isActive ops right → isActive ops[i] = true := by
  fun_induction advanceRight isActive ops right with
  | case1 right inBounds inactive ih => exact ih
  | case2 right inBounds active =>
      intro i h same
      obtain rfl : i = right.toNat := by omega
      simpa using active
  | case3 right outside => intro i h same; omega

structure Advanced (ops : Array α) (left : Nat) (right : Int) : Prop where
  bounded : right < ops.size
  leftStop : ∀ (h : left < ops.size), isActive ops[left] = false
  rightStop : ∀ (h : 0 ≤ right ∧ right.toNat < ops.size), isActive ops[right.toNat] = true

theorem advanced_of_advance (ops : Array α) (left : Nat) (right : Int) (bounded : right < ops.size) :
    Advanced isActive ops (advanceLeft isActive ops left) (advanceRight isActive ops right) where
  bounded := lt_of_le_of_lt (advanceRight_le isActive ops right) bounded
  leftStop h := advanceLeft_stop isActive ops left _ h rfl
  rightStop h := advanceRight_stop isActive ops right _ h.2 (by omega)

theorem advance_swap_lt {ops : Array α} {left : Nat} {right : Int}
    (advanced : Advanced isActive ops left right) (before : (left : Int) < right)
    (hl : left < ops.size) (hr : right.toNat < ops.size) :
    (advanceRight isActive (ops.swap left right.toNat hl hr) right -
      advanceLeft isActive (ops.swap left right.toNat hl hr) left).toNat < (right - left).toNat := by
  have rightActive := advanced.rightStop ⟨by omega, hr⟩
  have leftInactive := advanced.leftStop hl
  have leftMoves : left + 1 ≤ advanceLeft isActive (ops.swap left right.toNat hl hr) left :=
    advanceLeft_succ_le isActive (by rw [Array.size_swap]; exact hl)
      (by rw [Array.getElem_swap_left]; exact rightActive)
  have rightMoves : advanceRight isActive (ops.swap left right.toNat hl hr) right ≤ right - 1 :=
    advanceRight_le_pred isActive ⟨by omega, by rw [Array.size_swap]; exact hr⟩
      (by rw [Array.getElem_swap_right]; exact leftInactive)
  omega

def moveLoop (hasSortingOrder : Bool) (ops : Array α) (orders : Array β) (left : Nat)
    (right : Int) (advanced : Advanced isActive ops left right) : PgOp α β :=
  if before : (left : Int) < right then
    have hl : left < ops.size := by have := advanced.bounded; omega
    have hr : right.toNat < ops.size := by have := advanced.bounded; omega
    let swapped := ops.swap left right.toNat hl hr
    let swappedOrders := if hasSortingOrder then orders.swapIfInBounds left right.toNat else orders
    moveLoop hasSortingOrder swapped swappedOrders (advanceLeft isActive swapped left)
      (advanceRight isActive swapped right)
      (advanced_of_advance isActive swapped left right (by rw [Array.size_swap]; exact advanced.bounded))
  else { pgsqlOps := ops, batchRowOrders := orders, activeOpCount := left }
termination_by (right - left).toNat
decreasing_by exact advance_swap_lt isActive advanced before hl hr

/-- `MoveInactiveOpsOutside`. -/
def moveInactiveOpsOutside (op : PgOp α β) : PgOp α β :=
  let totalOpCount := op.pgsqlOps.size
  let hasSortingOrder := !op.batchRowOrders.isEmpty
  moveLoop isActive hasSortingOrder op.pgsqlOps op.batchRowOrders
    (advanceLeft isActive op.pgsqlOps 0) (advanceRight isActive op.pgsqlOps (totalOpCount - 1))
    (advanced_of_advance isActive op.pgsqlOps 0 _ (by omega))

/-- What `MoveInactiveOpsOutside` is for, against the operators and row orders it started from:
the operators are permuted, the active ones are exactly those in front of the count, and the row
orders are permuted with them. -/
structure MovedOutside (ops : Array α) (orders : Array β) (moved : PgOp α β) : Prop where
  perm : moved.pgsqlOps.Perm ops
  countBound : moved.activeOpCount ≤ moved.pgsqlOps.size
  activeFront : ∀ i (h : i < moved.pgsqlOps.size),
    i < moved.activeOpCount ↔ isActive moved.pgsqlOps[i] = true
  ordersSize : moved.batchRowOrders.size = orders.size
  ordersBeside : (moved.pgsqlOps.zip moved.batchRowOrders).Perm (ops.zip orders)

structure Partitioned (ops : Array α) (left : Nat) (right : Int) : Prop where
  leftBound : left ≤ ops.size
  prefixActive : ∀ i (h : i < ops.size), i < left → isActive ops[i] = true
  suffixInactive : ∀ i (h : i < ops.size), right < i → isActive ops[i] = false

theorem partitioned_start (ops : Array α) :
    Partitioned isActive ops (advanceLeft isActive ops 0) (advanceRight isActive ops (ops.size - 1)) where
  leftBound := advanceLeft_le_size isActive ops 0 (Nat.zero_le _)
  prefixActive i h upper := advanceLeft_passed isActive ops 0 i h (Nat.zero_le i) upper
  suffixInactive i h lower := advanceRight_passed isActive ops _ i h lower (by omega)

theorem partitioned_swap {ops : Array α} {left : Nat} {right : Int}
    (partitioned : Partitioned isActive ops left right) (before : (left : Int) < right)
    (hl : left < ops.size) (hr : right.toNat < ops.size) :
    Partitioned isActive (ops.swap left right.toNat hl hr)
      (advanceLeft isActive (ops.swap left right.toNat hl hr) left)
      (advanceRight isActive (ops.swap left right.toNat hl hr) right) where
  leftBound := advanceLeft_le_size isActive _ left (by rw [Array.size_swap]; omega)
  prefixActive i h upper := by
    by_cases old : i < left
    · rw [Array.getElem_swap_of_ne (by omega) (by omega)]
      exact partitioned.prefixActive i (by simpa using h) old
    · exact advanceLeft_passed isActive _ left i h (by omega) upper
  suffixInactive i h lower := by
    by_cases old : right < i
    · rw [Array.getElem_swap_of_ne (by omega) (by omega)]
      exact partitioned.suffixInactive i (by simpa using h) old
    · exact advanceRight_passed isActive _ right i h lower (by omega)

theorem activeFront_of_met {ops : Array α} {left : Nat} {right : Int}
    (advanced : Advanced isActive ops left right) (partitioned : Partitioned isActive ops left right)
    (met : ¬ (left : Int) < right) :
    ∀ i (h : i < ops.size), i < left ↔ isActive ops[i] = true := by
  intro i h
  constructor
  · exact partitioned.prefixActive i h
  · intro active
    by_contra after
    have past : right < i := by
      by_cases same : (left : Int) = right
      · have bounded := advanced.bounded
        have leftInactive := advanced.leftStop (by omega)
        have rightActive := advanced.rightStop ⟨by omega, by omega⟩
        have index : right.toNat = left := by omega
        simp only [index] at rightActive
        rw [leftInactive] at rightActive
        cases rightActive
      · omega
    rw [partitioned.suffixInactive i h past] at active
    cases active

theorem zip_swap_perm (ops : Array α) (orders : Array β) {left right : Nat} (hl : left < ops.size)
    (hr : right < ops.size) (hasSortingOrder : Bool) (sorting : hasSortingOrder = !orders.isEmpty)
    (parallel : orders.isEmpty ∨ orders.size = ops.size) :
    ((ops.swap left right hl hr).zip
      (if hasSortingOrder then orders.swapIfInBounds left right else orders)).Perm
      (ops.zip orders) := by
  cases hasSortingOrder with
  | false =>
      have empty : orders = #[] := Array.isEmpty_iff.mp (by simpa using sorting.symm)
      subst empty
      have zipEmpty : ∀ xs : Array α, xs.zip (#[] : Array β) = #[] := fun xs =>
        Array.eq_empty_of_size_eq_zero (by simp [Array.size_zip])
      rw [if_neg Bool.false_ne_true, zipEmpty, zipEmpty]
  | true =>
      have sameSize : orders.size = ops.size := by
        rcases parallel with empty | same
        · simp [empty] at sorting
        · exact same
      have hl' : left < orders.size := by omega
      have hr' : right < orders.size := by omega
      rw [if_pos rfl, Array.swapIfInBounds_def, dif_pos hl', dif_pos hr']
      have zipped : (ops.swap left right hl hr).zip (orders.swap left right hl' hr') =
          (ops.zip orders).swap left right (by simp [Array.size_zip]; omega)
            (by simp [Array.size_zip]; omega) := by
        apply Array.ext
        · simp [Array.size_zip]
        · intro k _ _
          simp only [Array.getElem_zip, Array.getElem_swap]
          split_ifs <;> rfl
      rw [zipped]
      exact Array.swap_perm _ _

theorem MovedOutside.of_swap {ops swapped : Array α} {orders swappedOrders : Array β}
    {moved : PgOp α β} (next : MovedOutside isActive swapped swappedOrders moved)
    (perm : swapped.Perm ops) (ordersSize : swappedOrders.size = orders.size)
    (beside : (swapped.zip swappedOrders).Perm (ops.zip orders)) :
    MovedOutside isActive ops orders moved where
  perm := next.perm.trans perm
  countBound := next.countBound
  activeFront := next.activeFront
  ordersSize := next.ordersSize.trans ordersSize
  ordersBeside := next.ordersBeside.trans beside

theorem moveLoop_movedOutside (hasSortingOrder : Bool) (ops : Array α) (orders : Array β)
    (left : Nat) (right : Int) (advanced : Advanced isActive ops left right)
    (partitioned : Partitioned isActive ops left right)
    (sorting : hasSortingOrder = !orders.isEmpty)
    (parallel : orders.isEmpty ∨ orders.size = ops.size) :
    MovedOutside isActive ops orders (moveLoop isActive hasSortingOrder ops orders left right advanced) := by
  induction ops, orders, left, right, advanced using moveLoop.induct isActive hasSortingOrder with
  | case1 ops orders left right advanced before hl hr swapped swappedOrders ih =>
      rw [moveLoop, dif_pos before]
      have ordersSize : swappedOrders.size = orders.size := by
        cases hasSortingOrder <;> simp [swappedOrders]
      have sameEmpty : swappedOrders.isEmpty = orders.isEmpty := by
        simp only [Array.isEmpty, ordersSize]
      have next := ih (partitioned_swap isActive partitioned before hl hr)
        (by rw [sorting, sameEmpty])
        (by
          rcases parallel with empty | same
          · exact Or.inl (sameEmpty.trans empty)
          · right
            rw [ordersSize, Array.size_swap]
            exact same)
      exact next.of_swap isActive (Array.swap_perm hl hr) ordersSize
        (zip_swap_perm ops orders hl hr hasSortingOrder sorting parallel)
  | case2 ops orders left right advanced met =>
      rw [moveLoop, dif_neg met]
      exact {
        perm := Array.Perm.refl ops
        countBound := partitioned.leftBound
        activeFront := activeFront_of_met isActive advanced partitioned met
        ordersSize := rfl
        ordersBeside := Array.Perm.refl _ }

/-- `MoveInactiveOpsOutside` partitions the operators: whatever their flags, and with row orders
either absent or one for each operator, the active operators end up exactly in front of
`active_op_count_`, the operators are permuted, and every row order is still beside its
operator. -/
theorem moveInactiveOpsOutside_partitions (op : PgOp α β)
    (parallel : op.batchRowOrders.isEmpty ∨ op.batchRowOrders.size = op.pgsqlOps.size) :
    MovedOutside isActive op.pgsqlOps op.batchRowOrders (op.moveInactiveOpsOutside isActive) :=
  moveLoop_movedOutside isActive _ _ _ _ _ _ (partitioned_start isActive op.pgsqlOps) rfl parallel

theorem moveInactiveOpsOutside_partitions_alternating :
    ((#[0, 1, 2, 3] : Array Nat).isEmpty ∨
        (#[0, 1, 2, 3] : Array Nat).size = #[false, true, false, true].size) ∧
      MovedOutside id #[false, true, false, true] #[0, 1, 2, 3]
        (moveInactiveOpsOutside id
          { pgsqlOps := #[false, true, false, true], batchRowOrders := #[0, 1, 2, 3],
            activeOpCount := 0 }) :=
  ⟨Or.inr rfl, moveInactiveOpsOutside_partitions id
    { pgsqlOps := #[false, true, false, true], batchRowOrders := #[0, 1, 2, 3], activeOpCount := 0 }
    (Or.inr rfl)⟩

end PgOp

end ChogoriSql
