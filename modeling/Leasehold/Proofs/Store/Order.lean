/-
**The order of a query.**

Records with different ids have one order by timestamp and id, and a query hands out its first ones.

* `IsBefore`: one record comes before another;
* `pairwise_sorted`: sorted records are strictly in order;
* `IsFirst`, `IsFirst.unique`: the list of the first records, of which there is one;
* `isFirst_pageOf`: a page without an offset holds the first records.
-/

import Leasehold.Proofs.Store.Page

namespace Leasehold

variable {α : Type} (timestamp : α → Int) (id : α → String)

/-- One record comes before another by timestamp, and by id at the same timestamp. -/
def IsBefore (first second : α) : Prop :=
  timestamp first < timestamp second ∨
    timestamp first = timestamp second ∧ id first < id second

/-- Some records in their order, which come before all others; none is left out while there is
room. -/
structure IsFirst (count : Nat) (records first : List α) : Prop where
  part : ∀ record ∈ first, record ∈ records
  ordered : first.Pairwise (IsBefore timestamp id)
  fits : first.length ≤ count
  others : ∀ record ∈ records, record ∉ first →
    first.length = count ∧ ∀ chosen ∈ first, IsBefore timestamp id chosen record

variable {timestamp id}

/-! ### Records in order -/

theorem IsBefore.asymm {first second : α} (before : IsBefore timestamp id first second) :
    ¬IsBefore timestamp id second first := by
  rintro (earlier | ⟨same, smaller⟩)
  · rcases before with later | ⟨equal, _⟩ <;> omega
  · rcases before with later | ⟨_, larger⟩
    · omega
    · exact String.lt_asymm larger smaller

theorem notAfter_iff {first second : α} :
    notAfter timestamp id first second = true ↔
      timestamp first < timestamp second ∨
        timestamp first = timestamp second ∧ id first ≤ id second := by
  unfold notAfter
  simp only [Bool.or_eq_true, Bool.and_eq_true, decide_eq_true_eq, beq_iff_eq]

theorem notAfter_trans {first second third : α} (left : notAfter timestamp id first second = true)
    (right : notAfter timestamp id second third = true) :
    notAfter timestamp id first third = true := by
  rw [notAfter_iff] at left right ⊢
  rcases left with earlier | ⟨same, smaller⟩
  · exact .inl (by omega)
  · rcases right with later | ⟨equal, larger⟩
    · exact .inl (by omega)
    · exact .inr ⟨same.trans equal, String.le_trans smaller larger⟩

theorem notAfter_total (first second : α) :
    (notAfter timestamp id first second || notAfter timestamp id second first) = true := by
  rw [Bool.or_eq_true, notAfter_iff, notAfter_iff]
  rcases Int.lt_trichotomy (timestamp first) (timestamp second) with earlier | same | later
  · exact .inl (.inl earlier)
  · exact (String.le_total (id first) (id second)).imp (fun smaller => .inr ⟨same, smaller⟩)
      fun larger => .inr ⟨same.symm, larger⟩
  · exact .inr (.inl later)

/-- Of two records with different ids that are in order, the first comes before the second. -/
theorem isBefore_of_notAfter {first second : α} (order : notAfter timestamp id first second = true)
    (apart : id first ≠ id second) : IsBefore timestamp id first second := by
  rcases notAfter_iff.mp order with earlier | ⟨same, smaller⟩
  · exact .inl earlier
  · refine .inr ⟨same, String.not_le.mp fun larger => ?_⟩
    exact apart (String.le_antisymm smaller larger)

/-- **Sorted records are strictly in order**, if their ids differ. -/
theorem pairwise_sorted {records : List α} (distinct : (records.map id).Nodup) :
    (records.mergeSort (notAfter timestamp id)).Pairwise (IsBefore timestamp id) := by
  have sorted : (records.mergeSort (notAfter timestamp id)).Pairwise
      fun first second => notAfter timestamp id first second = true :=
    List.pairwise_mergeSort (fun _ _ _ => notAfter_trans) notAfter_total records
  have apart : ((records.mergeSort (notAfter timestamp id)).map id).Nodup :=
    ((List.mergeSort_perm records _).map id).nodup_iff.mpr distinct
  exact sorted.imp₂ (fun _ _ order differ => isBefore_of_notAfter order differ)
    (List.pairwise_map.mp apart)

/-! ### The first records -/

namespace IsFirst

variable {count : Nat} {records first other : List α}

theorem nodup (isFirst : IsFirst timestamp id count records first) : first.Nodup :=
  isFirst.ordered.imp fun before same => (same ▸ before).asymm (same ▸ before)

/-- No list of the first records holds one that another such list does not hold. -/
theorem subset (one : IsFirst timestamp id count records first)
    (another : IsFirst timestamp id count records other) : first ⊆ other := by
  intro record listed
  by_contra missing
  obtain ⟨full, later⟩ := another.others record (one.part record listed) missing
  -- The other list is full, so it holds a record in place of this one, which comes both before
  -- and after it.
  obtain ⟨rival, held, absent⟩ : ∃ rival ∈ other, rival ∉ first := by
    by_contra none
    have within : record :: other ⊆ first := by
      refine List.cons_subset.mpr ⟨listed, fun rival held => ?_⟩
      by_contra absent
      exact none ⟨rival, held, absent⟩
    have longer := (List.subperm_of_subset (List.nodup_cons.mpr ⟨missing, another.nodup⟩)
      within).length_le
    have fits := one.fits
    rw [List.length_cons] at longer
    omega
  obtain ⟨_, earlier⟩ := one.others rival (another.part rival held) absent
  exact (later rival held).asymm (earlier record listed)

/-- **There is one list of the first records.** -/
theorem unique (one : IsFirst timestamp id count records first)
    (another : IsFirst timestamp id count records other) : first = other := by
  have same : first.Perm other := (List.perm_ext_iff_of_nodup one.nodup another.nodup).mpr
    fun record => ⟨fun listed => one.subset another listed, fun listed => another.subset one listed⟩
  exact same.eq_of_pairwise (fun _ _ _ _ before after => absurd after before.asymm) one.ordered
    another.ordered

end IsFirst

/-- **A page without an offset holds the first records**, so many as it may hold. -/
theorem isFirst_pageOf {records : List α} (distinct : (records.map id).Nodup) (count : Nat) :
    IsFirst timestamp id count records
      (pageOf timestamp id .ascending 0 (some count) records) := by
  show IsFirst timestamp id count records
    ((records.mergeSort (notAfter timestamp id)).take count)
  have ordered : (records.mergeSort (notAfter timestamp id)).Pairwise
      (IsBefore timestamp id) := pairwise_sorted distinct
  have same := List.mergeSort_perm records (notAfter timestamp id)
  generalize records.mergeSort (notAfter timestamp id) = sorted at ordered same
  rw [← List.take_append_drop count sorted, List.pairwise_append] at ordered
  obtain ⟨front, _, across⟩ := ordered
  refine ⟨fun record listed => same.subset (List.mem_of_mem_take listed), front,
    List.length_take_le _ _, fun record listed left => ?_⟩
  have behind : record ∈ sorted.drop count := by
    have there := same.symm.subset listed
    rw [← List.take_append_drop count sorted, List.mem_append] at there
    exact there.resolve_left left
  have room : count < sorted.length := by
    by_contra full
    rw [List.drop_eq_nil_of_le (Nat.le_of_not_lt full)] at behind
    cases behind
  exact ⟨List.length_take_of_le (Nat.le_of_lt room), fun chosen taken =>
    across chosen taken record behind⟩

end Leasehold
