import GetInTkt.AllInOne
import Mathlib.Data.List.GetD
import Mathlib.Data.List.Perm.Basic
import Mathlib.Data.List.Nodup

/-!
# The enctypes of the request of `krb5_get_in_tkt`

`krb5_get_in_tkt` copies `get_in_tkt_enctypes` (five enctypes and a terminating 0) and
reorders the copy in place for the caller's enctypes: one already at `next` stays, one
found later in the table is swapped into `next`, any other is dropped, and the table is cut
with a 0 at `next`. During the loop the table is the enctypes taken so far, then the others
of the table in some order, then the 0; the taken ones are exactly those the spec keeps.

Results:
1. `inTktKtypes_distinct_in_table`: for every caller list, the request's enctypes are its
   distinct members in the table, in the order of their first occurrence, terminated by 0
   and counted by `nktypes`; and every index the loop reads or writes lies in the copy.
-/

namespace GetInTkt

/-- One enctype of the caller as the spec reads it: kept, at the end, if it is in the table
and not kept already. -/
def specKtypesStep (taken : List Int) (t : Int) : List Int :=
  if t ∈ getInTktEnctypes ∧ t ∉ taken then taken ++ [t] else taken

/-- The spec's enctypes of the request: the distinct members of the caller's list that are
in `get_in_tkt_enctypes`, in the order of their first occurrence. -/
def specKtypes (ktypes : List Int) : List Int :=
  ktypes.foldl specKtypesStep []

/-! ## The layout of the table -/

theorem getD_table (taken rest : List Int) (j : Nat) :
    (taken ++ rest ++ [0]).getD (taken.length + j) 0 = (rest ++ [0]).getD j 0 := by
  rw [List.append_assoc, List.getD_append_right _ _ _ _ (Nat.le_add_right _ _), Nat.add_sub_cancel_left]

/-- The swap of the loop on the layout: `t`, found in the rest, trades places with the rest's
first entry `r`. -/
theorem swapAt_table (taken A B : List Int) (r t : Int) :
    swapAt (taken ++ r :: (A ++ t :: B) ++ [0]) taken.length (taken.length + (A.length + 1)) =
      taken ++ t :: (A ++ r :: B) ++ [0] := by
  have front : (taken ++ r :: (A ++ t :: B) ++ [0]).getD taken.length 0 = r := by
    simpa using getD_table taken (r :: (A ++ t :: B)) 0
  have back : (taken ++ r :: (A ++ t :: B) ++ [0]).getD (taken.length + (A.length + 1)) 0 = t := by
    rw [getD_table, List.cons_append, List.getD_cons_succ, List.append_assoc,
      List.getD_append_right _ _ _ _ (Nat.le_refl _), Nat.sub_self, List.cons_append, List.getD_cons_zero]
  unfold swapAt
  rw [front, back]
  simp only [List.append_assoc, List.cons_append]
  rw [List.set_append_right _ _ (Nat.le_refl _), Nat.sub_self, List.set_cons_zero,
    List.set_append_right _ _ (Nat.le_add_right _ _), Nat.add_sub_cancel_left, List.set_cons_succ,
    List.set_append_right _ _ (Nat.le_refl _), Nat.sub_self, List.set_cons_zero]

theorem mem_range_drop {i m n : Nat} : i ∈ (List.range n).drop m ↔ m ≤ i ∧ i < n := by
  simp only [List.mem_drop_iff_getElem, List.getElem_range, List.length_range]
  constructor
  · rintro ⟨j, lt, rfl⟩; omega
  · rintro ⟨le, lt⟩; exact ⟨i - m, by omega, by omega⟩

theorem getD_table_of_lt (taken : List Int) {rest : List Int} {j : Nat} (lt : j < rest.length) :
    (taken ++ rest ++ [0]).getD (taken.length + j) 0 = rest[j] := by
  rw [getD_table, List.getD_append _ _ _ _ lt, List.getD_eq_getElem _ _ lt]

theorem getD_table_next (taken rest : List Int) :
    (taken ++ rest ++ [0]).getD taken.length 0 = (rest ++ [0]).getD 0 0 := by
  simpa using getD_table taken rest 0

/-- An entry past the first of the rest splits it around that entry. -/
theorem split_rest {rest : List Int} {t : Int} {j : Nat} (lt : j + 1 < rest.length)
    (atJ : rest[j + 1] = t) : ∃ r A B, rest = r :: (A ++ t :: B) ∧ A.length = j := by
  cases rest with
  | nil => simp at lt
  | cons r R =>
    have within : j < R.length := by simpa using lt
    refine ⟨r, R.take j, R.drop (j + 1), ?_, by simp [Nat.min_eq_left within.le]⟩
    rw [List.getElem_cons_succ] at atJ
    rw [← atJ, ← List.drop_eq_getElem_cons within, List.take_append_drop]

/-- Moving `t` to the front of the rest and the old front to where `t` was permutes. -/
theorem swap_perm (taken A B : List Int) (r t : Int) :
    (taken ++ [t] ++ (A ++ r :: B)).Perm (taken ++ r :: (A ++ t :: B)) := by
  rw [List.append_assoc, List.singleton_append]
  refine List.Perm.append_left taken ?_
  calc List.Perm (t :: (A ++ r :: B)) (t :: r :: (A ++ B)) := List.perm_middle.cons t
    List.Perm _ (r :: t :: (A ++ B)) := List.Perm.swap r t _
    List.Perm _ (r :: (A ++ t :: B)) := (List.perm_middle.cons r).symm

section Reorder
variable {taken rest : List Int} {t : Int}

/-- What the inner loop finds lies in the rest of the table, past its first entry. -/
theorem find_in_rest {i : Nat}
    (found : ((List.range (taken.length + rest.length)).drop (taken.length + 1)).find?
      (fun i => (taken ++ rest ++ [0]).getD i 0 = t) = some i) :
    ∃ j, ∃ lt : j + 1 < rest.length, i = taken.length + (j + 1) ∧ rest[j + 1] = t := by
  have ⟨low, high⟩ := mem_range_drop.mp (List.mem_of_find?_eq_some found)
  have isT : _ = true := List.find?_some found
  rw [decide_eq_true_eq] at isT
  refine ⟨i - taken.length - 1, by omega, by omega, ?_⟩
  rw [← getD_table_of_lt taken, ← isT]
  congr 1
  omega

/-- An entry of the rest past its first is found by the inner loop. -/
theorem find_of_rest_ne_none {j : Nat} (lt : j + 1 < rest.length) (atJ : rest[j + 1] = t) :
    ((List.range (taken.length + rest.length)).drop (taken.length + 1)).find?
      (fun i => (taken ++ rest ++ [0]).getD i 0 = t) ≠ none := by
  rw [Ne, List.find?_eq_none]
  intro none
  refine none (taken.length + (j + 1)) (mem_range_drop.mpr ⟨by omega, by omega⟩) ?_
  rw [getD_table_of_lt taken lt, atJ, decide_eq_true_eq]

/-- One round of the loop on a table of the layout: an enctype in the rest is taken, at the
end of the taken ones, and any other is dropped; the rest stays a permutation. -/
theorem reorderKtypes_cons (nonzero : t ≠ 0) (ks : List Int) :
    ∃ rest', ((if t ∈ rest then taken ++ [t] else taken) ++ rest').Perm (taken ++ rest) ∧
      reorderKtypes (taken.length + rest.length) (t :: ks) (taken ++ rest ++ [0]) taken.length =
        reorderKtypes (taken.length + rest.length) ks
          ((if t ∈ rest then taken ++ [t] else taken) ++ rest' ++ [0])
          (if t ∈ rest then taken ++ [t] else taken).length := by
  rw [reorderKtypes, getD_table_next]
  by_cases atNext : (rest ++ [0]).getD 0 0 = t
  · rw [if_pos atNext]
    obtain ⟨R, rfl⟩ : ∃ R, rest = t :: R := by
      cases rest with
      | nil => exact absurd atNext.symm nonzero
      | cons r R => exact ⟨R, by rw [← atNext]; rfl⟩
    refine ⟨R, by simp, ?_⟩
    simp
  rw [if_neg atNext]
  by_cases mem : t ∈ rest
  · simp only [if_pos mem]
    split
    · next i found =>
      obtain ⟨j, lt, rfl, atJ⟩ := find_in_rest found
      obtain ⟨r, A, B, rfl, rfl⟩ := split_rest lt atJ
      refine ⟨A ++ r :: B, swap_perm taken A B r t, ?_⟩
      rw [swapAt_table]
      simp
    · next none =>
      obtain ⟨j, lt, atJ⟩ := List.mem_iff_getElem.mp mem
      cases j with
      | zero => exact absurd (by rw [← atJ, List.getD_append _ _ _ _ lt, List.getD_eq_getElem]) atNext
      | succ j => exact absurd none (find_of_rest_ne_none lt atJ)
  · simp only [if_neg mem]
    split
    · next i found =>
      obtain ⟨j, lt, rfl, atJ⟩ := find_in_rest found
      exact absurd (atJ ▸ List.getElem_mem lt) mem
    · exact ⟨rest, List.Perm.refl _, rfl⟩

end Reorder
/-! ## A whole run of the loop -/

/-- Under the layout, the caller's enctype is in the rest exactly when the spec keeps it. -/
theorem mem_rest_iff {taken rest : List Int} {t : Int}
    (perm : (taken ++ rest).Perm getInTktEnctypes) :
    t ∈ getInTktEnctypes ∧ t ∉ taken ↔ t ∈ rest := by
  have disjoint := (List.nodup_append.mp (perm.nodup_iff.mpr (by decide))).2.2
  rw [← perm.mem_iff, List.mem_append]
  constructor
  · rintro ⟨inTaken | inRest, fresh⟩
    · exact absurd inTaken fresh
    · exact inRest
  · exact fun inRest => ⟨.inr inRest, fun inTaken => disjoint inTaken inRest⟩

/-- From any table of the layout, the loop over the caller's enctypes takes exactly those
the spec keeps, in its order, and leaves the layout. -/
theorem reorderKtypes_run {ks : List Int} (noZero : 0 ∉ ks) {taken rest : List Int}
    (perm : (taken ++ rest).Perm getInTktEnctypes) :
    ∃ rest', (ks.foldl specKtypesStep taken ++ rest').Perm getInTktEnctypes ∧
      reorderKtypes getInTktEnctypes.length ks (taken ++ rest ++ [0]) taken.length =
        (ks.foldl specKtypesStep taken ++ rest' ++ [0], (ks.foldl specKtypesStep taken).length) := by
  induction ks generalizing taken rest with
  | nil => exact ⟨rest, perm, rfl⟩
  | cons t ks ih =>
    have nonzero : t ≠ 0 := fun isZero => noZero (isZero ▸ List.mem_cons_self t ks)
    obtain ⟨rest', perm', step⟩ := @reorderKtypes_cons taken rest t nonzero ks
    have sizes : getInTktEnctypes.length = taken.length + rest.length := by
      rw [← perm.length_eq, List.length_append]
    have kept : specKtypesStep taken t = if t ∈ rest then taken ++ [t] else taken :=
      if_congr (mem_rest_iff perm) rfl rfl
    rw [List.foldl_cons, sizes, step, ← sizes, kept]
    exact ih (fun zero => noZero (List.mem_cons_of_mem t zero)) (perm'.trans perm)

/-! ## The indices the loop touches -/

theorem swapAt_getD_of_ne {l : List Int} {i j n : Nat} (hi : i ≠ n) (hj : j ≠ n) :
    (swapAt l i j).getD n 0 = l.getD n 0 := by
  unfold swapAt
  rw [List.getD_eq_getElem?_getD, List.getElem?_set_ne hj, List.getElem?_set_ne hi,
    ← List.getD_eq_getElem?_getD]

@[simp] theorem swapAtLogged_run (a : List Int) (next i : Nat) (log : List Nat) :
    (swapAtLogged a next i).run log = (swapAt a next i, log ++ [next, i, next, i]) := by
  simp [swapAtLogged, swapAt]

/-- The inner loop finds what `find?` finds, reading only indices it is given. -/
theorem findKtype_run (ktype : List Int) (t : Int) (is : List Nat) (log : List Nat) :
    ((findKtype ktype t is).run log).1 = is.find? (fun i => ktype.getD i 0 = t) ∧
      ∃ read, ((findKtype ktype t is).run log).2 = log ++ read ∧ ∀ i ∈ read, i ∈ is := by
  induction is generalizing log with
  | nil => exact ⟨rfl, [], by simp [findKtype]⟩
  | cons i is ih =>
    simp only [findKtype, StateT.run_bind, readAt_run, Id.bind_eq]
    by_cases found : ktype.getD i 0 = t
    · simp only [found, if_true, StateT.run_pure, Id.pure_eq]
      exact ⟨by simp only [List.find?_cons, decide_eq_true found], [i], rfl, by simp⟩
    · obtain ⟨first, read, logged, within⟩ := ih (log ++ [i])
      simp only [found, if_false]
      refine ⟨by simp only [List.find?_cons, decide_eq_false found, first], i :: read,
        by simp [logged], fun j member => ?_⟩
      rcases List.mem_cons.mp member with rfl | inRead
      · exact List.mem_cons_self _ _
      · exact List.mem_cons_of_mem _ (within j inRead)

/-- The logged loop computes `reorderKtypes`: its log is the record of the loop's own run. -/
theorem reorderKtypesLogged_result (n : Nat) (ks ktype : List Int) (next : Nat) (log : List Nat) :
    ((reorderKtypesLogged n ks ktype next).run log).1 = reorderKtypes n ks ktype next := by
  induction ks generalizing ktype next log with
  | nil => rfl
  | cons t ks ih =>
    simp only [reorderKtypesLogged, reorderKtypes, StateT.run_bind, readAt_run, Id.bind_eq]
    split_ifs
    · exact ih _ _ _
    · rw [← (findKtype_run ktype t _ (log ++ [next])).1]
      split <;> next found => simp only [found, StateT.run_bind, swapAtLogged_run, Id.bind_eq, ih]

/-- While the entry at `nktypes` is 0, the logged loop reads and writes no index past it,
and leaves `next` within it. -/
theorem reorderKtypesLogged_le {n : Nat} {ks : List Int} (noZero : 0 ∉ ks) {ktype : List Int}
    {next : Nat} (term : ktype.getD n 0 = 0) (within : next ≤ n) (log : List Nat) :
    ∃ read, ((reorderKtypesLogged n ks ktype next).run log).2 = log ++ read ∧
      (∀ i ∈ read, i ≤ n) ∧ ((reorderKtypesLogged n ks ktype next).run log).1.2 ≤ n := by
  induction ks generalizing ktype next log with
  | nil => exact ⟨[], (List.append_nil log).symm, fun _ member => absurd member (List.not_mem_nil _), within⟩
  | cons t ks ih =>
    have nonzero : t ≠ 0 := fun isZero => noZero (isZero ▸ List.mem_cons_self t ks)
    have later := @ih (fun zero => noZero (List.mem_cons_of_mem t zero))
    simp only [reorderKtypesLogged, StateT.run_bind, readAt_run, Id.bind_eq]
    split_ifs with atNext
    · have notEnd : next ≠ n := fun atEnd => nonzero (by rw [← atNext, atEnd, term])
      obtain ⟨read, logged, bounded, last⟩ := @later ktype (next + 1) term (by omega) (log ++ [next])
      exact ⟨next :: read, by simp [logged], List.forall_mem_cons.mpr ⟨within, bounded⟩, last⟩
    · obtain ⟨found, read, logged, scanned⟩ :=
        findKtype_run ktype t ((List.range n).drop (next + 1)) (log ++ [next])
      have readLe : ∀ j ∈ read, j ≤ n := fun j member => (mem_range_drop.mp (scanned j member)).2.le
      rcases isFound : ((findKtype ktype t ((List.range n).drop (next + 1))).run (log ++ [next])).1
        with _ | i
      · simp only [StateT.run_bind, Id.bind_eq, isFound, logged]
        obtain ⟨read', logged', bounded, last⟩ := later term within (log ++ [next] ++ read)
        exact ⟨next :: (read ++ read'), by rw [logged']; simp,
          List.forall_mem_cons.mpr ⟨within, List.forall_mem_append.mpr ⟨readLe, bounded⟩⟩, last⟩
      · rw [found] at isFound
        have ⟨low, high⟩ := mem_range_drop.mp (List.mem_of_find?_eq_some isFound)
        have term' : (swapAt ktype next i).getD n 0 = 0 := by
          rw [swapAt_getD_of_ne (by omega) (by omega), term]
        simp only [StateT.run_bind, Id.bind_eq, found, isFound, swapAtLogged_run, logged]
        obtain ⟨read', logged', bounded, last⟩ := @later (swapAt ktype next i) (next + 1) term'
          (by omega) (log ++ [next] ++ read ++ [next, i, next, i])
        have swapLe : ∀ j ∈ [next, i, next, i], j ≤ n := by simp [within, high.le]
        exact ⟨next :: (read ++ [next, i, next, i] ++ read'), by rw [logged']; simp,
          List.forall_mem_cons.mpr ⟨within, List.forall_mem_append.mpr
            ⟨List.forall_mem_append.mpr ⟨readLe, swapLe⟩, bounded⟩⟩, last⟩

/-- While the entry at `nktypes` is 0, the loop reads and writes no index past it. -/
theorem reorderKtypesIndices_le {n : Nat} {ks : List Int} (noZero : 0 ∉ ks) {ktype : List Int}
    {next : Nat} (term : ktype.getD n 0 = 0) (within : next ≤ n) :
    ∀ i ∈ reorderKtypesIndices n ks ktype next, i ≤ n := by
  obtain ⟨read, logged, bounded, last⟩ := reorderKtypesLogged_le noZero term within []
  simp only [reorderKtypesIndices, logged, List.nil_append, List.forall_mem_append,
    List.forall_mem_singleton]
  exact ⟨bounded, last⟩

/-! ## The request's enctypes -/

/-- For every caller list of enctypes (before its terminating 0), the request's enctypes
are its distinct members in `get_in_tkt_enctypes`, in the order of their first occurrence.
The table after `request.ktype[next] = 0` holds them followed by 0, `nktypes` is their
number, and every index the loop reads or writes lies in the six-entry copy. -/
theorem inTktKtypes_distinct_in_table (ktypes : List Int) (noZero : 0 ∉ ktypes) :
    inTktKtypes (some ktypes) = specKtypes ktypes ∧
      (∃ tail, (inTktKtypeTable ktypes).1 = specKtypes ktypes ++ 0 :: tail) ∧
      (inTktKtypeTable ktypes).2 = (specKtypes ktypes).length ∧
      ∀ i ∈ reorderKtypesIndices getInTktEnctypes.length ktypes (getInTktEnctypes ++ [0]) 0,
        i < (getInTktEnctypes ++ [0]).length := by
  obtain ⟨rest, -, run⟩ := @reorderKtypes_run ktypes noZero [] getInTktEnctypes (by simp)
  rw [List.nil_append, List.length_nil, show List.foldl specKtypesStep [] ktypes = specKtypes ktypes
    from rfl] at run
  refine ⟨?_, ⟨(rest ++ [0]).tail, ?_⟩, by simp only [inTktKtypeTable, run], fun i member => ?_⟩
  · simp only [inTktKtypes, run, List.append_assoc, List.take_left]
  · simp only [inTktKtypeTable, run, List.append_assoc]
    cases rest <;> simp [List.set_append_right]
  · have bound := reorderKtypesIndices_le noZero (by decide) (Nat.zero_le _) i member
    simpa using Nat.lt_succ_of_le bound

/-- The caller's `1, 99, 23, 1, 16`: 99 is dropped, the second 1 too, and the request asks
for `1, 23, 16`. -/
theorem demo_inTktKtypes_distinct_in_table :
    0 ∉ ([1, 99, 23, 1, 16] : List Int) ∧
      inTktKtypes (some [1, 99, 23, 1, 16]) = specKtypes [1, 99, 23, 1, 16] ∧
      (∃ tail, (inTktKtypeTable [1, 99, 23, 1, 16]).1 = specKtypes [1, 99, 23, 1, 16] ++ 0 :: tail) ∧
      (inTktKtypeTable [1, 99, 23, 1, 16]).2 = (specKtypes [1, 99, 23, 1, 16]).length ∧
      ∀ i ∈ reorderKtypesIndices getInTktEnctypes.length [1, 99, 23, 1, 16]
        (getInTktEnctypes ++ [0]) 0, i < (getInTktEnctypes ++ [0]).length :=
  ⟨by decide, inTktKtypes_distinct_in_table [1, 99, 23, 1, 16] (by decide)⟩

example : specKtypes [1, 99, 23, 1, 16] = [1, 23, 16] := by decide

end GetInTkt
