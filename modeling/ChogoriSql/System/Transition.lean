import Mathlib

/-! Transition systems given by a partial step function `next : σ → α → Option σ`, one action
of one thread at a time: the states runs reach, invariants closed under steps, runs replayed
from a list of actions, and the termination of every run from a measure each step lowers.
The last section collects what the threads of a system indexed by `Fin n` hold, and how a
sum over the parts of a state changes when one part does. -/

namespace Transition

variable {σ α : Type}

def Step (next : σ → α → Option σ) (s t : σ) : Prop :=
  ∃ action, next s action = some t

def Reachable (next : σ → α → Option σ) : σ → σ → Prop :=
  Relation.ReflTransGen (Step next)

def Terminal (next : σ → α → Option σ) (s : σ) : Prop :=
  ∀ action, next s action = none

def restrict (next : σ → α → Option σ) (allowed : α → Bool) (s : σ) (action : α) : Option σ :=
  if allowed action then next s action else none

def run (next : σ → α → Option σ) : σ → List α → Option σ
  | s, [] => some s
  | s, action :: rest => (next s action).bind fun t => run next t rest

variable {next : σ → α → Option σ}

theorem Reachable.refl (s : σ) : Reachable next s s :=
  Relation.ReflTransGen.refl

theorem Reachable.tail {s t u : σ} {action : α} (reach : Reachable next s t)
    (stepped : next t action = some u) : Reachable next s u :=
  Relation.ReflTransGen.tail reach ⟨action, stepped⟩

theorem Reachable.trans {s t u : σ} (first : Reachable next s t) (second : Reachable next t u) :
    Reachable next s u :=
  Relation.ReflTransGen.trans first second

theorem reachable_of_run {s t : σ} {actions : List α} (ran : run next s actions = some t) :
    Reachable next s t := by
  induction actions generalizing s with
  | nil =>
      simp only [run, Option.some.injEq] at ran
      rw [ran]
      exact Reachable.refl t
  | cons action rest ih =>
      simp only [run] at ran
      cases stepped : next s action with
      | none => rw [stepped] at ran; cases ran
      | some u =>
          rw [stepped, Option.bind_some] at ran
          exact Relation.ReflTransGen.head ⟨action, stepped⟩ (ih ran)

theorem Reachable.closed {P : σ → Prop} (closed : ∀ s action t, P s → next s action = some t → P t)
    {s t : σ} (start : P s) (reach : Reachable next s t) : P t := by
  induction reach with
  | refl => exact start
  | tail _ step ih =>
      obtain ⟨action, stepped⟩ := step
      exact closed _ action _ ih stepped

theorem acc_of_measure {P : σ → Prop} (measure : σ → Nat)
    (closed : ∀ s action t, P s → next s action = some t → P t)
    (lowers : ∀ s action t, P s → next s action = some t → measure t < measure s) :
    ∀ s, P s → Acc (fun t s => Step next s t) s := by
  intro s holds
  induction hm : measure s using Nat.strong_induction_on generalizing s with
  | _ m ih =>
      constructor
      rintro t ⟨action, stepped⟩
      exact ih (measure t) (hm ▸ lowers s action t holds stepped) t
        (closed s action t holds stepped) rfl

def collect {β γ : Type} {n : Nat} (pick : β → Option γ) (threads : Fin n → β) : List γ :=
  (List.finRange n).filterMap fun i => pick (threads i)

theorem mem_collect {β γ : Type} {n : Nat} {pick : β → Option γ} {threads : Fin n → β} {value : γ} :
    value ∈ collect pick threads ↔ ∃ i, pick (threads i) = some value := by
  simp [collect]

theorem filterMap_update_perm {β γ : Type} {n : Nat} (pick : β → Option γ) (threads : Fin n → β)
    (i : Fin n) (pc : β) :
    ∀ (indices : List (Fin n)), indices.Nodup → i ∈ indices →
      List.Perm
        ((indices.filterMap fun j => pick (Function.update threads i pc j)) ++ (pick (threads i)).toList)
        ((indices.filterMap fun j => pick (threads j)) ++ (pick pc).toList)
  | [], _, member => absurd member List.not_mem_nil
  | j :: rest, distinct, member => by
      have notInRest : j ∉ rest := (List.nodup_cons.mp distinct).1
      by_cases same : j = i
      · subst same
        have restSame : (rest.filterMap fun k => pick (Function.update threads j pc k)) =
            rest.filterMap fun k => pick (threads k) := by
          apply List.filterMap_congr
          intro k inRest
          have differs : k ≠ j := fun eq => notInRest (eq ▸ inRest)
          rw [Function.update_of_ne differs]
        rw [List.filterMap_cons, List.filterMap_cons, Function.update_self, restSame]
        cases pick pc with
        | none => cases pick (threads j) <;> simp
        | some kept =>
            cases pick (threads j) with
            | none => simpa using (List.perm_append_singleton kept _).symm
            | some old =>
                simp only [Option.toList_some, List.cons_append]
                calc List.Perm (kept :: ((rest.filterMap fun k => pick (threads k)) ++ [old]))
                      (kept :: old :: rest.filterMap fun k => pick (threads k)) :=
                      (List.perm_append_singleton old _).cons kept
                  List.Perm _ (old :: kept :: rest.filterMap fun k => pick (threads k)) :=
                      List.Perm.swap old kept _
                  List.Perm _ (old :: ((rest.filterMap fun k => pick (threads k)) ++ [kept])) :=
                      ((List.perm_append_singleton kept _).cons old).symm
      · have inRest : i ∈ rest := (List.mem_cons.mp member).resolve_left (Ne.symm same)
        have ih := filterMap_update_perm pick threads i pc rest (List.nodup_cons.mp distinct).2 inRest
        rw [List.filterMap_cons, List.filterMap_cons, Function.update_of_ne same]
        cases pick (threads j) with
        | none => simpa using ih
        | some value => simpa using ih

theorem collect_update_perm {β γ : Type} {n : Nat} (pick : β → Option γ) (threads : Fin n → β)
    (i : Fin n) (pc : β) :
    (collect pick (Function.update threads i pc) ++ (pick (threads i)).toList).Perm
      (collect pick threads ++ (pick pc).toList) :=
  filterMap_update_perm pick threads i pc _ (List.nodup_finRange n) (List.mem_finRange i)

theorem sum_update_add {ι : Type} [Fintype ι] [DecidableEq ι] (weight : ι → Nat) (i : ι)
    (value : Nat) :
    (∑ j, Function.update weight i value j) + weight i = (∑ j, weight j) + value := by
  rw [Finset.sum_update_of_mem (Finset.mem_univ i), Finset.sdiff_singleton_eq_erase,
    ← Finset.add_sum_erase Finset.univ weight (Finset.mem_univ i)]
  omega

theorem sum_comp_update_add {ι β : Type} [Fintype ι] [DecidableEq ι] (weight : β → Nat)
    (parts : ι → β) (i : ι) (value : β) :
    (∑ j, weight (Function.update parts i value j)) + weight (parts i) =
      (∑ j, weight (parts j)) + weight value := by
  have composed : (fun j => weight (Function.update parts i value j)) =
      Function.update (fun j => weight (parts j)) i (weight value) :=
    Function.comp_update weight parts i value
  rw [composed]
  exact sum_update_add (fun j => weight (parts j)) i (weight value)

end Transition
