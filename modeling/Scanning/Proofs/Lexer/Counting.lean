import Mathlib.Algebra.BigOperators.Group.List.Lemmas
import Mathlib.Algebra.BigOperators.Ring.Finset
import Scanning.Lexer.Summary

namespace Scanning.Lexer

variable {kind : TokenKind} {kinds : List TokenKind} {counts counts' : List (TokenKind × Int)}
  {entry : TokenKind × Int}

/-- The kinds that occur, each once and in order of first appearance, with how often they do. -/
structure Tallies (counts : List (TokenKind × Int)) (kinds : List TokenKind) : Prop where
  mem_iff (kind : TokenKind) : kind ∈ counts.map Prod.fst ↔ kind ∈ kinds
  order : (counts.map Prod.fst).Pairwise fun kind later => kinds.idxOf kind < kinds.idxOf later
  count_eq : ∀ entry ∈ counts, entry.2 = kinds.count entry.1

/-- A kind that is counted already keeps its place, and another one comes last. -/
theorem map_fst_countKind (kind : TokenKind) (counts : List (TokenKind × Int)) :
    (countKind kind counts).map Prod.fst =
      if kind ∈ counts.map Prod.fst then counts.map Prod.fst
      else counts.map Prod.fst ++ [kind] := by
  induction counts with
  | nil => simp [countKind]
  | cons entry counts ih =>
    by_cases hkind : entry.1 = kind
    · simp [countKind, hkind]
    · have hne : kind ≠ entry.1 := Ne.symm hkind
      rw [countKind, if_neg hkind, List.map_cons, ih]
      by_cases hmem : kind ∈ counts.map Prod.fst <;> simp [hmem, hne]

/-- The entry of the kind counts one more, or is new; the others stay. -/
theorem of_mem_countKind (hnodup : (counts.map Prod.fst).Nodup)
    (h : entry ∈ countKind kind counts) :
    entry.1 ≠ kind ∧ entry ∈ counts ∨
      entry.1 = kind ∧ ((kind, entry.2 - 1) ∈ counts ∨
        kind ∉ counts.map Prod.fst ∧ entry.2 = 1) := by
  induction counts with
  | nil =>
    obtain rfl := List.mem_singleton.1 h
    exact .inr ⟨rfl, .inr ⟨List.not_mem_nil, rfl⟩⟩
  | cons first counts ih =>
    obtain ⟨hnew, hnodup⟩ := List.nodup_cons.1 hnodup
    by_cases hkind : first.1 = kind
    · rw [countKind, if_pos hkind, List.mem_cons] at h
      obtain rfl | h := h
      · subst hkind
        exact .inr ⟨rfl, .inl (by simp)⟩
      · refine .inl ⟨?_, List.mem_cons_of_mem _ h⟩
        rintro rfl
        exact hnew (hkind ▸ List.mem_map_of_mem h)
    · rw [countKind, if_neg hkind, List.mem_cons] at h
      obtain rfl | h := h
      · exact .inl ⟨hkind, List.mem_cons_self⟩
      · obtain ⟨hother, hmem⟩ | ⟨hsame, hmem | ⟨hnone, hone⟩⟩ := ih hnodup h
        · exact .inl ⟨hother, List.mem_cons_of_mem _ hmem⟩
        · exact .inr ⟨hsame, .inl (List.mem_cons_of_mem _ hmem)⟩
        · refine .inr ⟨hsame, .inr ⟨?_, hone⟩⟩
          simpa [Ne.symm hkind] using hnone

namespace Tallies

theorem nil : Tallies [] [] where
  mem_iff _ := Iff.rfl
  order := List.Pairwise.nil
  count_eq _ h := absurd h List.not_mem_nil

theorem nodup (h : Tallies counts kinds) : (counts.map Prod.fst).Nodup := by
  refine h.order.imp ?_
  rintro kind _ hlt rfl
  exact Nat.lt_irrefl _ hlt

/-- Counting one more of a kind tallies the kinds with that one behind them. -/
theorem countKind (h : Tallies counts kinds) (kind : TokenKind) :
    Tallies (countKind kind counts) (kinds ++ [kind]) := by
  have hkeep {other : TokenKind} (hmem : other ∈ counts.map Prod.fst) :
      (kinds ++ [kind]).idxOf other = kinds.idxOf other :=
    List.idxOf_append_of_mem ((h.mem_iff other).1 hmem)
  have horder : (counts.map Prod.fst).Pairwise fun other later =>
      (kinds ++ [kind]).idxOf other < (kinds ++ [kind]).idxOf later := by
    refine h.order.imp_of_mem fun hother hlater hlt => ?_
    rwa [hkeep hother, hkeep hlater]
  constructor
  case mem_iff =>
    intro other
    rw [map_fst_countKind]
    split
    case isTrue hmem =>
      rw [h.mem_iff, List.mem_append, List.mem_singleton]
      refine ⟨.inl, ?_⟩
      rintro (hother | rfl)
      · exact hother
      · exact (h.mem_iff _).1 hmem
    case isFalse => simp [h.mem_iff]
  case order =>
    rw [map_fst_countKind]
    split
    case isTrue => exact horder
    case isFalse hnew =>
      refine List.pairwise_append.2 ⟨horder, List.pairwise_singleton _ _, ?_⟩
      intro other hother last hlast
      obtain rfl := List.mem_singleton.1 hlast
      have hlt := List.idxOf_lt_length_of_mem ((h.mem_iff other).1 hother)
      rw [hkeep hother, List.idxOf_append_of_notMem fun hmem => hnew ((h.mem_iff _).2 hmem)]
      omega
  case count_eq =>
    intro entry hentry
    rw [List.count_append]
    obtain ⟨hother, hmem⟩ | ⟨rfl, hmem | ⟨hnew, hone⟩⟩ := of_mem_countKind h.nodup hentry
    · rw [h.count_eq entry hmem, List.count_singleton, if_neg (by simpa using Ne.symm hother)]
      rfl
    · have hbefore := h.count_eq _ hmem
      simp only at hbefore
      rw [List.count_singleton_self]
      omega
    · rw [List.count_singleton_self, hone,
        List.count_eq_zero_of_not_mem fun hmem => hnew ((h.mem_iff _).2 hmem)]
      rfl

/-- Counting one kind after the other tallies them all. -/
theorem foldl (kinds : List TokenKind) :
    Tallies (kinds.foldl (fun counts kind => Lexer.countKind kind counts) []) kinds := by
  induction kinds using List.reverseRecOn with
  | nil => exact nil
  | append_singleton kinds kind ih =>
    rw [List.foldl_append]
    exact ih.countKind kind

/-- A tally is told by the order of its kinds. -/
theorem eq_map (h : Tallies counts kinds) :
    counts = (counts.map Prod.fst).map fun kind => (kind, (kinds.count kind : Int)) := by
  rw [List.map_map]
  refine (List.map_id counts).symm.trans ?_
  apply List.map_congr_left
  intro entry hentry
  rw [id, Function.comp_apply, ← h.count_eq entry hentry]

/-- There is only one tally of some kinds. -/
theorem unique (h : Tallies counts kinds) (h' : Tallies counts' kinds) : counts = counts' := by
  have hkinds : counts.map Prod.fst = counts'.map Prod.fst := by
    have hperm : (counts.map Prod.fst).Perm (counts'.map Prod.fst) :=
      (List.perm_ext_iff_of_nodup h.nodup h'.nodup).2 fun kind =>
        (h.mem_iff kind).trans (h'.mem_iff kind).symm
    refine hperm.eq_of_pairwise (fun kind later _ _ hlt hgt => ?_) h.order h'.order
    exact absurd hlt (Nat.lt_asymm hgt)
  rw [h.eq_map, h'.eq_map, hkinds]

end Tallies

end Scanning.Lexer
