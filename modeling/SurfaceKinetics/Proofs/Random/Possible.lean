import SurfaceKinetics.Proofs.Random.Drawing

/-!
# Possible draws

Every number below a bound is the high half of the product of the bound and some
word whose low half is not refused.  So whatever could be drawn from a list without
replacement is drawn when the right words come next.

`CanYield action value` says that some words, when they come next, make an action
yield a value and are then used up.
-/

namespace SurfaceKinetics.RandomSource

variable {β γ : Type}

/-- An action can yield a value, if the right words come next. -/
def CanYield (action : StateM RandomSource β) (value : β) : Prop :=
  ∃ words, ∀ (source : RandomSource) pending,
    action.run { source with pending := words ++ pending } =
      (value, { source with pending })

theorem CanYield.pure (value : β) : CanYield (Pure.pure value) value :=
  ⟨[], fun _ _ => rfl⟩

theorem CanYield.bind
    {action : StateM RandomSource β}
    {next : β → StateM RandomSource γ}
    {value : β}
    {result : γ}
    (first : CanYield action value)
    (second : CanYield (next value) result) :
    CanYield (action >>= next) result := by
  rcases first with ⟨words, yields⟩
  rcases second with ⟨others, yieldsThen⟩
  refine ⟨words ++ others, fun source pending => ?_⟩
  rw [List.append_assoc, StateT.run_bind, yields]
  exact yieldsThen source pending

theorem CanYield.map
    {action : StateM RandomSource β}
    {value : β}
    (yields : CanYield action value)
    (function : β → γ) :
    CanYield (function <$> action) (function value) := by
  rcases yields with ⟨words, yields⟩
  refine ⟨words, fun source pending => ?_⟩
  rw [StateT.run_map, yields]
  rfl

/-- Some source makes an action yield a value that it can yield. -/
theorem CanYield.exists_source
    {action : StateM RandomSource β}
    {value : β}
    (yields : CanYield action value) :
    ∃ source, (action.run source).1 = value := by
  rcases yields with ⟨words, yields⟩
  refine ⟨{ ofSeed 0 with pending := words ++ [] }, ?_⟩
  rw [yields]

theorem canYield_word (next : UInt64) : CanYield word next :=
  ⟨[next], fun _ _ => rfl⟩

/-! ## Whole numbers -/

/-- Between a number and the next bound numbers there is a multiple of the bound. -/
theorem exists_multiple
    (least : Nat)
    {bound : Nat}
    (boundPos : 0 < bound) :
    ∃ number, least ≤ number * bound ∧ number * bound < least + bound := by
  have whole := Nat.div_add_mod (least + (bound - 1)) bound
  have rest := Nat.mod_lt (least + (bound - 1)) boundPos
  rw [Nat.mul_comm] at whole
  exact ⟨(least + (bound - 1)) / bound, by omega, by omega⟩

theorem pred_le_zone (bound : Nat) : bound - 1 ≤ zone bound :=
  Nat.sub_le_sub_right (Nat.le_mul_of_pos_right bound (Nat.two_pow_pos _)) 1

/-- Every number below a bound is the high half of a product that is not refused. -/
theorem exists_word
    {bound place : Nat}
    (inside : place < bound)
    (boundLe : bound ≤ twoTo 64) :
    ∃ word : UInt64,
      word.toNat * bound / twoTo 64 = place ∧
        word.toNat * bound % twoTo 64 ≤ zone bound := by
  have boundPos : 0 < bound := Nat.zero_lt_of_lt inside
  rcases exists_multiple (twoTo 64 * place) boundPos with ⟨number, atLeast, below⟩
  -- The least multiple that reaches the place comes from a word, and what it has
  -- beyond the place is too little to be refused.
  have numberLt : number < twoTo 64 := by
    apply Nat.lt_of_mul_lt_mul_right (a := bound)
    calc
      number * bound < twoTo 64 * place + bound := below
      _ ≤ twoTo 64 * place + twoTo 64 := Nat.add_le_add_left boundLe _
      _ = twoTo 64 * (place + 1) := rfl
      _ ≤ twoTo 64 * bound := Nat.mul_le_mul_left _ inside
  have numberEq : (UInt64.ofNat number).toNat = number :=
    UInt64.toNat_ofNat_of_lt numberLt
  have wordsPos : 0 < twoTo 64 := Nat.two_pow_pos 64
  have low : number * bound - twoTo 64 * place < twoTo 64 := by omega
  have split :
      number * bound =
        twoTo 64 * place + (number * bound - twoTo 64 * place) := by
    omega
  refine ⟨UInt64.ofNat number, ?_, ?_⟩
  · rw [numberEq, split, Nat.mul_add_div wordsPos,
      Nat.div_eq_of_lt low, Nat.add_zero]
  · rw [numberEq, split, Nat.mul_add_mod, Nat.mod_eq_of_lt low]
    exact Nat.le_trans (by omega) (pred_le_zone bound)

theorem canYield_below
    {bound place : Nat}
    (inside : place < bound)
    (boundLe : bound ≤ twoTo 64)
    (refusals : Nat) :
    CanYield (below bound (refusals + 1)) place := by
  rcases exists_word inside boundLe with ⟨next, highEq, lowLe⟩
  rw [below]
  refine (canYield_word next).bind ?_
  dsimp only
  rw [if_pos lowLe, highEq]
  exact CanYield.pure place

theorem canYield_index
    {length place : Nat}
    (inside : place < length)
    (lengthLe : length ≤ twoTo 64) :
    CanYield (index length) (some place) := by
  match length with
  | 1 =>
      rw [Nat.lt_one_iff] at inside
      subst inside
      exact CanYield.pure (some 0)
  | length + 2 => exact (canYield_below inside lengthLe _).map some

/-! ## Elements -/

theorem canYield_take
    {items : List β}
    (lengthLe : items.length ≤ twoTo 64)
    {place : Nat}
    (inside : place < items.length) :
    CanYield (take items) (some (items[place], removeAt items place)) := by
  have found : items[place]? = some items[place] :=
    List.getElem?_eq_getElem inside
  rw [take]
  refine (canYield_index inside lengthLe).bind ?_
  dsimp only
  rw [found]
  exact CanYield.pure _

/-- Whatever elements a list has can be drawn from it. -/
theorem canYield_takeMany
    {count : Nat}
    {items chosen : List β}
    (lengthLe : items.length ≤ twoTo 64)
    (drawn : Drawn count items chosen)
    (before : Nat) :
    CanYield (takeMany count before items) (.ok chosen) := by
  induction count generalizing before items chosen with
  | zero =>
      rw [List.length_eq_zero_iff.mp drawn.1]
      exact CanYield.pure _
  | succ count induction =>
      rcases drawn with ⟨lengthEq, rest, perm⟩
      rcases List.exists_cons_of_length_eq_add_one lengthEq with
        ⟨first, others, rfl⟩
      have member : first ∈ items := perm.subset List.mem_cons_self
      rcases List.getElem_of_mem member with ⟨place, inside, rfl⟩
      have left : (others ++ rest).Perm (removeAt items place) :=
        (perm.trans (cons_removeAt_perm inside).symm).cons_inv
      have shorter : (removeAt items place).length + 1 = items.length :=
        (cons_removeAt_perm inside).length_eq
      rw [takeMany]
      refine (canYield_take lengthLe inside).bind ?_
      refine (induction (by omega) ⟨Nat.succ.inj lengthEq, rest, left⟩ _).bind ?_
      exact CanYield.pure _

end SurfaceKinetics.RandomSource
