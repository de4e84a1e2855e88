import Amanuensis.Research.Poll
/-!
# The counts of a poll

A poll counts its slots, and every slot the requests that have failed on the
way, in 32 bits: after `n` of them the count is `UInt32.ofNat n`. A slot gives
up when its count exceeds the number of retries. It does so after one failure
more than there are retries (`lt_count_iff`), unless that number is the
greatest of all counts: none exceeds it, and the slot never gives up.
-/


namespace Amanuensis

namespace Research

namespace Poll

variable {o : Options} {f : Nat}

/-- One more is counted. -/
theorem count_succ (n : Nat) : UInt32.ofNat n + 1 = UInt32.ofNat (n + 1) :=
  (UInt32.ofNat_add n 1).symm

/-- The counts from `k` on, with one more. -/
theorem counts_succ (k : UInt32) (n : Nat) :
    (List.range' 1 (n + 1)).map (fun i => k + .ofNat i) =
      (k + 1) :: (List.range' 1 n).map fun i => k + 1 + .ofNat i := by
  rw [List.range'_succ, ← List.map_add_range', List.map_cons, List.map_map]
  refine congrArg ((k + 1) :: ·) (List.map_congr_left fun i _ => ?_)
  rw [Function.comp_apply, UInt32.ofNat_add, UInt32.add_assoc]
  rfl

namespace Options

/-- The number of retries is the greatest of all counts, and no limit. -/
def Unlimited (o : Options) : Prop := o.maxRetries.toNat + 1 = UInt32.size

instance (o : Options) : Decidable o.Unlimited :=
  inferInstanceAs (Decidable (o.maxRetries.toNat + 1 = UInt32.size))

/-- A request is repeated that has failed on the way, as have `f` others of
its slot before it. -/
def Repeats (o : Options) (f : Nat) : Prop := o.Unlimited ∨ f < o.maxRetries.toNat

instance (o : Options) (f : Nat) : Decidable (o.Repeats f) :=
  inferInstanceAs (Decidable (o.Unlimited ∨ f < o.maxRetries.toNat))

/-- So many requests of a slot may fail, and one more be made. -/
def Allows (o : Options) (f : Nat) : Prop := o.Unlimited ∨ f ≤ o.maxRetries.toNat

theorem allows_zero (o : Options) : o.Allows 0 := .inr (Nat.zero_le _)

theorem Repeats.allows (h : o.Repeats f) : o.Allows (f + 1) := h

/-- A limit is below the greatest of all counts. -/
theorem limit_lt (h : ¬ o.Unlimited) : o.maxRetries.toNat + 1 < UInt32.size :=
  Nat.lt_of_le_of_ne o.maxRetries.toNat_lt_size h

theorem Allows.le (h : o.Allows f) (hlimited : ¬ o.Unlimited) : f ≤ o.maxRetries.toNat :=
  h.resolve_left hlimited

/-- The last failure of a slot is one for which there is no retry left. -/
theorem Allows.eq_of_not_repeats (h : o.Allows f) (hlast : ¬ o.Repeats f) :
    ¬ o.Unlimited ∧ f = o.maxRetries.toNat := by
  obtain ⟨hlimited, hge⟩ := not_or.1 hlast
  exact ⟨hlimited, Nat.le_antisymm (h.le hlimited) (Nat.not_lt.1 hge)⟩

/-- **When the count exceeds the number of retries.** -/
theorem lt_count_iff (h : o.Allows f) : o.maxRetries < UInt32.ofNat (f + 1) ↔ ¬ o.Repeats f := by
  have hcount : (UInt32.ofNat (f + 1)).toNat < UInt32.size := UInt32.toNat_lt_size _
  rw [UInt32.lt_iff_toNat_lt]
  by_cases hlimited : o.Unlimited
  · -- what wraps around stays below the greatest count
    have hgreatest : o.maxRetries.toNat + 1 = UInt32.size := hlimited
    refine iff_of_false (by omega) fun hlast => hlast (.inl hlimited)
  · have hlt := limit_lt hlimited
    have hle := h.le hlimited
    rw [UInt32.toNat_ofNat_of_lt' (by omega), Repeats, not_or]
    exact ⟨fun hmore => ⟨hlimited, by omega⟩, fun hlast => by omega⟩

variable {failures : UInt32}

/-- So a request is repeated as long as its slot may fail again, -/
theorem not_lt_succ_iff (h : o.Allows failures.toNat) :
    ¬ o.maxRetries < failures + 1 ↔ o.Repeats failures.toNat := by
  have hlast := lt_count_iff h
  rw [← count_succ, UInt32.ofNat_toNat] at hlast
  rw [hlast, Decidable.not_not]

/-- and one failure more is counted, where there is a limit to them. -/
theorem Repeats.toNat_succ (h : o.Repeats failures.toNat) (hlimited : ¬ o.Unlimited) :
    (failures + 1).toNat = failures.toNat + 1 := by
  have hlt := limit_lt hlimited
  have hle : failures.toNat + 1 ≤ o.maxRetries.toNat := h.allows.le hlimited
  have hcount := count_succ failures.toNat
  rw [UInt32.ofNat_toNat] at hcount
  rw [hcount, UInt32.toNat_ofNat_of_lt' (by omega)]

theorem Repeats.allows_succ (h : o.Repeats failures.toNat) : o.Allows (failures + 1).toNat := by
  by_cases hlimited : o.Unlimited
  · exact .inl hlimited
  · rw [h.toNat_succ hlimited]
    exact h.allows

end Options

end Poll

end Research

end Amanuensis
