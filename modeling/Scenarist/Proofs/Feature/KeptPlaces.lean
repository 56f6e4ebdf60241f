/-
  Kept places — which elements of a scenario are left out, told by where they stand.

  1. **The places** — `keptPlaces` are the places whose element is no table equal to the element right
     before it in the scenario as it was read.  The renderer compares with the element it kept last
     instead.

  2. **One element more** — an element behind the others is left out, or it is kept as the last one,
     and the places take the same step (`dropRepeats_concat`, `keptPlaces_concat`).  So what is kept are
     the elements at the kept places, in order (`map_keptPlaces`).

  3. **The element kept last** — before any place it is equal to the element right before that place
     (`lastKeptBefore_eq`), so both ways to compare agree.

  4. **Neighbours** — two elements that come to stand next to each other have nothing but repetitions
     of the first between them (`isChain_keptPlaces`).
-/
import Scenarist.Proofs.Feature.Repeats

namespace Scenarist.Feature

variable {e : Element} {es fs : List Element} {i : Nat}

/-! ## The places -/

/-- Whether an element is a table. -/
def isTable : Element → Bool
  | .table _ => true
  | _ => false

/-- Whether the element at a place is a table equal to the element right before it. -/
def repeatsAt (es : List Element) : Nat → Bool
  | 0 => false
  | i + 1 => es[i + 1]?.any isTable && es[i]? = es[i + 1]?

/-- The places of all other elements, in order. -/
def keptPlaces (es : List Element) : List Nat :=
  (List.range es.length).filter fun i => !repeatsAt es i

/-- The element kept last among those before a place. -/
def lastKeptBefore (es : List Element) (i : Nat) : Option Element :=
  ((keptPlaces es).filter (· < i)).getLast?.bind fun j => es[j]?

/-! ## One element more -/

theorem repeats_eq (kept : Option Element) (e : Element) :
    repeats kept e = (isTable e && kept = some e) := by
  cases e with
  | table t =>
    cases kept with
    | none => rfl
    | some k => cases k <;> simp [repeats, isTable, beq_eq_decide]
  | _ => cases kept <;> simp [repeats, isTable]

/-- What stands behind an element does not matter. -/
theorem repeatsAt_append (fs : List Element) (hi : i < es.length) :
    repeatsAt (es ++ fs) i = repeatsAt es i := by
  cases i with
  | zero => rfl
  | succ i =>
    rw [repeatsAt, repeatsAt, List.getElem?_append_left hi,
      List.getElem?_append_left (Nat.lt_of_succ_lt hi)]

/-- The place behind all elements. -/
theorem repeatsAt_length (es : List Element) (e : Element) :
    repeatsAt (es ++ [e]) es.length = repeats es.getLast? e := by
  cases es using List.reverseRecOn with
  | nil => rw [List.getLast?_nil, repeats_none]; rfl
  | append_singleton es d =>
    have hlast : (es ++ [d] ++ [e])[es.length + 1]? = some e := by simp
    have hbefore : (es ++ [d] ++ [e])[es.length]? = some d := by simp
    rw [List.length_append, List.length_singleton, repeatsAt, hlast, hbefore,
      List.getLast?_concat, repeats_eq, Option.any_some]

/-- No element, no repetition. -/
theorem repeatsAt_beyond (hi : es.length ≤ i) : repeatsAt es i = false := by
  cases i with
  | zero => rfl
  | succ i => rw [repeatsAt, List.getElem?_eq_none hi, Option.any_none, Bool.false_and]

theorem dropRepeats_concat (es : List Element) (e : Element) :
    dropRepeats (es ++ [e])
      = dropRepeats es ++ if repeats es.getLast? e then [] else [e] := by
  rw [dropRepeats, dropRepeatsAfter_append, Option.or_none]
  rfl

theorem keptPlaces_concat (es : List Element) (e : Element) :
    keptPlaces (es ++ [e])
      = keptPlaces es ++ if repeats es.getLast? e then [] else [es.length] := by
  have hbefore : (List.range es.length).filter (fun i => !repeatsAt (es ++ [e]) i)
      = keptPlaces es :=
    List.filter_congr fun i hi => by rw [repeatsAt_append [e] (List.mem_range.1 hi)]
  rw [keptPlaces, List.length_append, List.length_singleton, List.range_succ, List.filter_append,
    hbefore, List.filter_singleton, repeatsAt_length]
  cases repeats es.getLast? e <;> rfl

theorem lt_of_mem_keptPlaces (hi : i ∈ keptPlaces es) : i < es.length :=
  List.mem_range.1 (List.mem_of_mem_filter hi)

/-- **What is kept** are the elements at the kept places, one for each of them. -/
theorem map_keptPlaces (es : List Element) :
    (keptPlaces es).map (fun i => es[i]?) = (dropRepeats es).map some := by
  induction es using List.reverseRecOn with
  | nil => rfl
  | append_singleton es e ih =>
    have hbefore : (keptPlaces es).map (fun i => (es ++ [e])[i]?)
        = (keptPlaces es).map fun i => es[i]? :=
      List.map_congr_left fun i hi => List.getElem?_append_left (lt_of_mem_keptPlaces hi)
    rw [keptPlaces_concat, dropRepeats_concat, List.map_append, List.map_append, hbefore, ih]
    cases repeats es.getLast? e <;> simp

/-! ## The element kept last -/

/-- The kept places among the first elements are those of a scenario that ends there. -/
theorem keptPlaces_before (es fs : List Element) :
    (keptPlaces (es ++ fs)).filter (· < es.length) = keptPlaces es := by
  induction fs using List.reverseRecOn with
  | nil =>
    rw [List.append_nil]
    exact List.filter_eq_self.2 fun i hi => decide_eq_true (lt_of_mem_keptPlaces hi)
  | append_singleton fs f ih =>
    rw [← List.append_assoc, keptPlaces_concat, List.filter_append, ih]
    cases repeats (es ++ fs).getLast? f <;> simp

/-- The last kept place holds what the last place holds. -/
theorem getLast?_keptPlaces (es : List Element) :
    (keptPlaces es).getLast?.bind (fun i => es[i]?) = es.getLast? := by
  have hlast := congrArg List.getLast? (map_keptPlaces es)
  rw [List.getLast?_map, List.getLast?_map, getLast?_dropRepeats] at hlast
  cases hplace : (keptPlaces es).getLast? <;> cases hes : es.getLast? <;> simp_all

/-- **The element kept last** is equal to the element right before. -/
theorem lastKeptBefore_eq (hi : i ≤ es.length) : lastKeptBefore es i = (es.take i).getLast? := by
  have hlength : (es.take i).length = i := List.length_take_of_le hi
  have hplaces : (keptPlaces es).filter (· < i) = keptPlaces (es.take i) := by
    have h := keptPlaces_before (es.take i) (es.drop i)
    rwa [List.take_append_drop, hlength] at h
  rw [lastKeptBefore, hplaces, ← getLast?_keptPlaces]
  cases hplace : (keptPlaces (es.take i)).getLast? with
  | none => rfl
  | some j =>
    have hj := lt_of_mem_keptPlaces (List.mem_of_getLast? hplace)
    rw [hlength] at hj
    exact (List.getElem?_take_of_lt hj).symm

/-- An element is left out exactly if it is a table equal to the element kept last. -/
theorem repeatsAt_eq_lastKeptBefore (es : List Element) (i : Nat) :
    repeatsAt es i = (es[i]?.any isTable && lastKeptBefore es i = es[i]?) := by
  by_cases hi : i < es.length
  · rw [lastKeptBefore_eq (Nat.le_of_lt hi)]
    cases i with
    | zero => simp [repeatsAt, List.getElem?_eq_getElem hi]
    | succ i =>
      have hbefore : (es.take (i + 1)).getLast? = es[i]? := by
        rw [List.take_add_one, List.getElem?_eq_getElem (Nat.lt_of_succ_lt hi)]
        exact List.getLast?_concat
      rw [hbefore, repeatsAt]
  · have hbeyond := Nat.le_of_not_lt hi
    rw [repeatsAt_beyond hbeyond, List.getElem?_eq_none hbeyond, Option.any_none, Bool.false_and]

/-! ## Neighbours -/

/-- No element that is kept repeats the one kept before it. -/
theorem repeatsAt_dropRepeats (es : List Element) : ∀ i, repeatsAt (dropRepeats es) i = false := by
  induction es using List.reverseRecOn with
  | nil => exact fun i => repeatsAt_beyond (Nat.zero_le i)
  | append_singleton es e ih =>
    intro i
    rw [dropRepeats_concat]
    cases hr : repeats es.getLast? e with
    | true => rw [if_pos rfl, List.append_nil, ih]
    | false =>
      rw [if_neg Bool.false_ne_true]
      rcases Nat.lt_trichotomy i (dropRepeats es).length with hlt | rfl | hgt
      · rw [repeatsAt_append [e] hlt, ih]
      · rw [repeatsAt_length, getLast?_dropRepeats, hr]
      · exact repeatsAt_beyond (by rw [List.length_append]; exact hgt)

/-- A scenario without repetitions stays as it is. -/
theorem dropRepeats_eq_self (h : ∀ i, repeatsAt es i = false) : dropRepeats es = es := by
  induction es using List.reverseRecOn with
  | nil => rfl
  | append_singleton es e ih =>
    have hes : ∀ i, repeatsAt es i = false := by
      intro i
      by_cases hi : i < es.length
      · rw [← repeatsAt_append [e] hi, h]
      · exact repeatsAt_beyond (Nat.le_of_not_lt hi)
    have he : repeats es.getLast? e = false := by rw [← repeatsAt_length, h]
    rw [dropRepeats_concat, ih hes, he]
    rfl

/-- Every element that is no table is kept. -/
theorem filter_dropRepeats (es : List Element) :
    (dropRepeats es).filter (fun e => !isTable e) = es.filter fun e => !isTable e := by
  induction es using List.reverseRecOn with
  | nil => rfl
  | append_singleton es e ih =>
    rw [dropRepeats_concat, List.filter_append, List.filter_append, ih]
    cases hr : repeats es.getLast? e with
    | false => rfl
    | true =>
      -- only a table is left out
      rw [repeats_eq, Bool.and_eq_true] at hr
      simp [hr.1]

/-- Behind the last kept place there are only repetitions of a table. -/
theorem last_keptPlaces (hi : i ∈ (keptPlaces es).getLast?) :
    i + 1 = es.length ∨ es[i]?.any isTable = true := by
  induction es using List.reverseRecOn with
  | nil => cases hi
  | append_singleton es e ih =>
    rw [keptPlaces_concat] at hi
    cases hr : repeats es.getLast? e with
    | false =>
      rw [hr, if_neg Bool.false_ne_true, List.getLast?_concat] at hi
      obtain rfl := Option.some.inj hi
      exact .inl (by rw [List.length_append, List.length_singleton])
    | true =>
      rw [hr, if_pos rfl, List.append_nil] at hi
      rw [repeats_eq, Bool.and_eq_true, decide_eq_true_eq] at hr
      have hheld : es[i]? = some e := by
        rw [← hr.2, ← getLast?_keptPlaces, hi, Option.bind_some]
      rw [List.getElem?_append_left (lt_of_mem_keptPlaces (List.mem_of_getLast? hi)), hheld]
      exact .inr hr.1

/-- **Neighbours.**  Two kept places are next to each other, unless there is a table at the first. -/
theorem isChain_keptPlaces (es : List Element) :
    List.IsChain (fun i j => j = i + 1 ∨ es[i]?.any isTable = true) (keptPlaces es) := by
  induction es using List.reverseRecOn with
  | nil => exact .nil
  | append_singleton es e ih =>
    have hbefore : List.IsChain (fun i j => j = i + 1 ∨ (es ++ [e])[i]?.any isTable = true)
        (keptPlaces es) := by
      refine ih.imp_of_mem_imp fun i j hi hj h => ?_
      rwa [List.getElem?_append_left (lt_of_mem_keptPlaces hi)]
    rw [keptPlaces_concat]
    cases repeats es.getLast? e with
    | true => rwa [if_pos rfl, List.append_nil]
    | false =>
      refine List.isChain_append.2 ⟨hbefore, .singleton _, fun i hi j hj => ?_⟩
      obtain rfl : es.length = j := Option.some.inj hj
      rw [List.getElem?_append_left (lt_of_mem_keptPlaces (List.mem_of_getLast? hi))]
      exact (last_keptPlaces hi).imp_left Eq.symm

/-- **Repeated tables are left out.**  What is kept are the elements that are no table equal to the
element right before them, in order, and it makes no difference whether that is the element that was
read before or the one that was kept last.  So no table stands next to an equal one any more, all other
elements are kept, there is nothing left to leave out, and bullets are neighbours only if they were. -/
theorem repeats_left_out (es : List Element) :
    (keptPlaces es).map (fun i => es[i]?) = (dropRepeats es).map some ∧
    (∀ i, repeatsAt es i = (es[i]?.any isTable && lastKeptBefore es i = es[i]?)) ∧
    (∀ i, repeatsAt (dropRepeats es) i = false) ∧
    (dropRepeats es).filter (fun e => !isTable e) = es.filter (fun e => !isTable e) ∧
    dropRepeats (dropRepeats es) = dropRepeats es ∧
    List.IsChain (fun i j => es[i]?.any isBullet = true → es[j]?.any isBullet = true → j = i + 1)
      (keptPlaces es) := by
  have hnone := repeatsAt_dropRepeats es
  refine ⟨map_keptPlaces es, repeatsAt_eq_lastKeptBefore es, hnone, filter_dropRepeats es,
    dropRepeats_eq_self hnone, (isChain_keptPlaces es).imp fun i j h hbullet _ => ?_⟩
  refine h.resolve_right fun htable => ?_
  cases hheld : es[i]? with
  | none => simp [hheld] at htable
  | some e => cases e <;> simp_all [isBullet, isTable]

end Scenarist.Feature
