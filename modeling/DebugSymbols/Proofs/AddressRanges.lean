import DebugSymbols.Identifiers

/-!
# The addresses in a range

The bytes of a range are counted from its start without bounds (`Spans`), while its limit is an
address again. Behind the largest address there is none, so a range that reaches the end of the
address space gets the largest address as its limit, and the byte there is not in it, though it
belongs to the range. Everywhere else the two agree (`contains_iff_spans`), and a range has all of
its bytes exactly if it ends before the end of the address space.
-/

namespace DebugSymbols

/-! ## The largest address -/

namespace Address

variable {a : Address} {offset : UInt64}

theorem toNat_top : top.value.toNat = UInt64.size - 1 := by decide

theorem toNat_le_top (a : Address) : a.value.toNat ≤ UInt64.size - 1 :=
  Nat.le_sub_one_of_lt a.value.toNat_lt_size

theorem eq_top_iff : a = top ↔ a.value.toNat = UInt64.size - 1 := by
  constructor
  · rintro rfl
    exact toNat_top
  · intro h
    have same : a.value = top.value := UInt64.toNat_inj.1 (h.trans toNat_top.symm)
    cases a
    exact congrArg mk same

theorem add?_eq_none_iff : a.add? offset = none ↔ UInt64.size ≤ a.value.toNat + offset.toNat := by
  unfold add?
  split
  · next fits => simpa using fits
  · next beyond => simpa using beyond

end Address

namespace AddressRange

/-- The address is one of the `size` bytes from the start on. -/
def Spans (r : AddressRange) (a : Address) : Prop :=
  r.start.value.toNat ≤ a.value.toNat ∧ a.value.toNat - r.start.value.toNat < r.size.toNat

instance (r : AddressRange) (a : Address) : Decidable (r.Spans a) :=
  inferInstanceAs (Decidable (_ ∧ _))

variable {r : AddressRange} {a : Address}

theorem spans_iff : r.Spans a ↔ r.start.value.toNat ≤ a.value.toNat ∧
    a.value.toNat < r.start.value.toNat + r.size.toNat := by
  unfold Spans
  omega

/-! ## The limit -/

theorem toNat_limit (r : AddressRange) :
    r.limit.value.toNat = min (r.start.value.toNat + r.size.toNat) (UInt64.size - 1) := by
  unfold limit
  cases found : r.start.add? r.size with
  | none =>
    have beyond := Address.add?_eq_none_iff.1 found
    rw [Option.getD_none, Address.toNat_top]
    omega
  | some last =>
    have sum := Address.toNat_add? found
    have bounded := last.toNat_le_top
    rw [Option.getD_some]
    omega

theorem contains_eq_true_iff : r.contains a = true ↔
    r.start.value.toNat ≤ a.value.toNat ∧ a.value.toNat < r.limit.value.toNat := by
  simp [contains, UInt64.le_iff_toNat_le, UInt64.lt_iff_toNat_lt]

/-- A range has the bytes that it spans, the one at the largest address excepted. -/
theorem contains_iff_spans_and : r.contains a = true ↔ r.Spans a ∧ a ≠ .top := by
  have bounded := a.toNat_le_top
  rw [contains_eq_true_iff, toNat_limit, spans_iff, ne_eq, Address.eq_top_iff]
  omega

/-- The largest address is spanned by the ranges that reach the end of the address space. -/
theorem spans_top_iff : r.Spans .top ↔ UInt64.size ≤ r.start.value.toNat + r.size.toNat := by
  have bounded := r.start.toNat_le_top
  have positive : 0 < UInt64.size := by decide
  rw [spans_iff, Address.toNat_top]
  omega

/-- **A range has the bytes from its start on, `size` of them, except that none has the largest
address.** So it has all of its bytes exactly if it ends before the end of the address space. -/
theorem contains_iff_spans (r : AddressRange) :
    (∀ a, r.contains a = true ↔ r.Spans a ∧ a ≠ .top) ∧
    ((∀ a, r.contains a = true ↔ r.Spans a) ↔
      r.start.value.toNat + r.size.toNat < UInt64.size) := by
  refine ⟨fun a => contains_iff_spans_and, ?_, ?_⟩
  · intro complete
    apply Nat.not_le.1
    intro reaches
    have spanned := spans_top_iff.2 reaches
    have held := contains_iff_spans_and.1 ((complete .top).2 spanned)
    exact held.2 rfl
  · intro ends a
    rw [contains_iff_spans_and]
    refine ⟨And.left, fun spanned => ⟨spanned, ?_⟩⟩
    rintro rfl
    have reaches := spans_top_iff.1 spanned
    omega

/-- An image of one page at the end of the address space lacks its last byte. -/
theorem contains_lacks_top :
    let r : AddressRange := ⟨⟨0xFFFFFFFFFFFFF000⟩, 0x1000⟩
    r.Spans .top ∧ r.contains .top = false ∧ r.contains ⟨0xFFFFFFFFFFFFFFFE⟩ = true := by
  decide

end AddressRange

end DebugSymbols
