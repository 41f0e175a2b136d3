import Mathlib.Data.List.Basic
import Mathlib.Data.List.Induction

/-!
# Filling a list

A list is filled by requests: a request empties it, or puts at most one item behind those there are.
So the items are those that were added since the list was emptied last, in the order of the requests
(`exists_standing`), and the first of them with a property is the one that was added earliest
(`find?_eq_some_iff`).
-/

namespace DebugSymbols

/-- How requests fill a list. What a request adds can depend on those before it. -/
structure Filling (ρ ε : Type) where
  items : List ρ → List ε
  empties : ρ → Prop
  added? : List ρ → ρ → Option ε
  items_nil : items [] = []
  items_of_empties : ∀ {request} requests, empties request → items (requests ++ [request]) = []
  items_of_not_empties : ∀ {request} requests, ¬ empties request →
    items (requests ++ [request]) = items requests ++ (added? requests request).toList

namespace Filling

variable {ρ ε : Type} {f : Filling ρ ε} {requests before before' : List ρ} {request : ρ} {e e' : ε}

/-- The request behind those in `before` has added `e`, and the list has not been emptied since. -/
def Stands (f : Filling ρ ε) (requests before : List ρ) (e : ε) : Prop :=
  ∃ request after, requests = before ++ request :: after ∧
    (∀ r ∈ request :: after, ¬ f.empties r) ∧ f.added? before request = some e

/-- Of the items that stand and of which `P` holds, `e` was added first. -/
def IsEarliest (f : Filling ρ ε) (requests : List ρ) (P : ε → Prop) (e : ε) : Prop :=
  ∃ before, f.Stands requests before e ∧ P e ∧
    ∀ before' e', f.Stands requests before' e' → P e' → before.length ≤ before'.length

theorem Stands.length_lt (h : f.Stands requests before e) : before.length < requests.length := by
  obtain ⟨request, after, rfl, -⟩ := h
  simp only [List.length_append, List.length_cons]
  omega

/-- One request adds one item. -/
theorem Stands.unique (h : f.Stands requests before e) (h' : f.Stands requests before' e')
    (same : before.length = before'.length) : e = e' := by
  obtain ⟨request, after, rfl, -, added⟩ := h
  obtain ⟨request', after', split, -, added'⟩ := h'
  obtain ⟨rfl, rest⟩ := List.append_inj split same
  cases rest
  exact Option.some.inj (added.symm.trans added')

/-- A request leaves the items standing unless it empties the list, and adds its own. -/
theorem stands_concat_iff : f.Stands (requests ++ [request]) before e ↔ ¬ f.empties request ∧
    (f.Stands requests before e ∨ before = requests ∧ f.added? requests request = some e) := by
  constructor
  · rintro ⟨adding, after, split, kept, added⟩
    rcases List.eq_nil_or_concat' after with rfl | ⟨init, last, rfl⟩
    · obtain ⟨rfl, same⟩ := List.append_inj' split rfl
      cases same
      exact ⟨kept _ List.mem_cons_self, Or.inr ⟨rfl, added⟩⟩
    · -- The request that added the item is not the last one, so that one ends what follows it.
      rw [← List.cons_append, ← List.append_assoc] at split
      obtain ⟨rfl, same⟩ := List.append_inj' split rfl
      cases same
      rw [← List.cons_append, List.forall_mem_append] at kept
      exact ⟨kept.2 _ List.mem_cons_self, Or.inl ⟨adding, init, rfl, kept.1, added⟩⟩
  · rintro ⟨filled, ⟨adding, after, rfl, kept, added⟩ | ⟨rfl, added⟩⟩
    · refine ⟨adding, after ++ [request], by simp, ?_, added⟩
      rw [← List.cons_append, List.forall_mem_append, List.forall_mem_singleton]
      exact ⟨kept, filled⟩
    · exact ⟨request, [], rfl, List.forall_mem_singleton.2 filled, added⟩

/-- The items are those that stand, in the order in which they were added. By induction from the
end, where the last request either empties the list or leaves the items standing. -/
theorem exists_standing (f : Filling ρ ε) (requests : List ρ) :
    ∃ standing : List (List ρ × ε), f.items requests = standing.map Prod.snd ∧
      (∀ before e, (before, e) ∈ standing ↔ f.Stands requests before e) ∧
      standing.Pairwise fun x y => x.1.length < y.1.length := by
  induction requests using List.reverseRecOn with
  | nil =>
    refine ⟨[], f.items_nil, fun before e => iff_of_false List.not_mem_nil ?_, List.Pairwise.nil⟩
    intro stands
    exact absurd stands.length_lt (Nat.not_lt_zero _)
  | append_singleton requests request ih =>
    obtain ⟨standing, items, members, ordered⟩ := ih
    by_cases emptied : f.empties request
    · refine ⟨[], f.items_of_empties requests emptied,
        fun before e => iff_of_false List.not_mem_nil ?_, List.Pairwise.nil⟩
      intro stands
      exact (stands_concat_iff.1 stands).1 emptied
    · rw [f.items_of_not_empties requests emptied]
      simp only [stands_concat_iff, emptied, not_false_eq_true, true_and]
      cases added : f.added? requests request with
      | none =>
        refine ⟨standing, (List.append_nil _).trans items, fun before e => ?_, ordered⟩
        simp [members]
      | some new =>
        refine ⟨standing ++ [(requests, new)], ?_, fun before e => ?_, ?_⟩
        · rw [List.map_append, ← items]
          rfl
        · rw [List.mem_append, members, List.mem_singleton, Prod.mk.injEq, Option.some.injEq,
            eq_comm (a := new)]
        · refine List.pairwise_append.2 ⟨ordered, List.pairwise_singleton _ _, ?_⟩
          intro x listed y last
          rw [List.mem_singleton.1 last]
          exact ((members x.1 x.2).1 listed).length_lt

theorem mem_items_iff : e ∈ f.items requests ↔ ∃ before, f.Stands requests before e := by
  obtain ⟨standing, items, members, -⟩ := f.exists_standing requests
  simp [items, members]

/-- The first item of which something holds was added earliest among those. -/
theorem isEarliest_of_split {P : ε → Prop} {older newer : List ε}
    (split : f.items requests = older ++ e :: newer) (holds : P e) (first : ∀ e' ∈ older, ¬ P e') :
    f.IsEarliest requests P e := by
  obtain ⟨standing, items, members, ordered⟩ := f.exists_standing requests
  obtain ⟨olderStanding, rest, rfl, rfl, tail⟩ := List.map_eq_append_iff.1 (items.symm.trans split)
  obtain ⟨⟨before, _⟩, newerStanding, rfl, rfl, rfl⟩ := List.map_eq_cons_iff.1 tail
  refine ⟨before, (members _ _).1 (by simp), holds, fun before' e' stands holds' => ?_⟩
  rcases List.mem_append.1 ((members _ _).2 stands) with listed | listed
  · exact absurd holds' (first e' (List.mem_map_of_mem listed))
  · rcases List.mem_cons.1 listed with same | listed
    · cases same
      exact Nat.le_refl _
    · have later := (List.pairwise_cons.1 (List.pairwise_append.1 ordered).2.1).1 _ listed
      exact Nat.le_of_lt later

theorem IsEarliest.unique {P : ε → Prop} (h : f.IsEarliest requests P e)
    (h' : f.IsEarliest requests P e') : e = e' := by
  obtain ⟨before, stands, holds, first⟩ := h
  obtain ⟨before', stands', holds', first'⟩ := h'
  exact stands.unique stands'
    (Nat.le_antisymm (first before' e' stands' holds') (first' before e stands holds))

/-- A search from the front finds what was added earliest. -/
theorem find?_eq_some_iff {p : ε → Bool} :
    (f.items requests).find? p = some e ↔ f.IsEarliest requests (fun e => p e = true) e := by
  have found {e : ε} (h : (f.items requests).find? p = some e) :
      f.IsEarliest requests (fun e => p e = true) e := by
    obtain ⟨holds, older, newer, split, first⟩ := List.find?_eq_some_iff_append.1 h
    exact isEarliest_of_split split holds fun e' listed => by simpa using first e' listed
  refine ⟨found, fun earliest => ?_⟩
  cases h : (f.items requests).find? p with
  | some e' => rw [(found h).unique earliest]
  | none =>
    obtain ⟨before, stands, holds, -⟩ := earliest
    exact absurd holds (List.find?_eq_none.1 h e (mem_items_iff.2 ⟨before, stands⟩))

end Filling

end DebugSymbols
