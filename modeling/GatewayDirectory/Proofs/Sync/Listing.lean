import GatewayDirectory.Proofs.Sync.Paging
import GatewayDirectory.Proofs.Text.Digits
import Mathlib.Algebra.Order.Floor.Div

/-!
# Scans of a listing

A listing serves the items of a role in pages, and the token of a page is the number of items before
it, in any spelling (`offset?_eq_some_iff`). So a scan collects the items of the role, each once and
in order (`scan_inventory`): a page and the items after it are the items from its offset on
(`pageAt_more`), so that a walk over the pages finds all of them (`exists_walk_from`), however large
pages are, with one call for each page (`callsFrom`).
-/

namespace GatewayDirectory.Sync.Listing

variable {l : Listing} {role : String} {offset : Nat}

/-! ## Tokens -/

/-- The token spells an offset of 64 bits in decimal digits, perhaps behind a plus sign. -/
def SpellsOffset (token : String) (offset : Nat) : Prop :=
  offset < UInt64.size ∧ (Text.Spells token.toList offset ∨
    ∃ digits, token.toList = '+' :: digits ∧ Text.Spells digits offset)

/-- **A token names an offset exactly if it spells it.** -/
theorem offset?_eq_some_iff {token : String} : offset? token = some offset ↔
    SpellsOffset token offset := by
  rw [offset?, Option.filter_eq_some_iff, decide_eq_true_iff, SpellsOffset, and_comm]
  refine and_congr_right fun _ => ?_
  -- with a plus sign the digits begin behind it, without one they are the whole token
  split
  · rename_i digits hplus
    rw [hplus, Text.natural?_eq_some_iff]
    constructor
    · exact fun h => .inr ⟨digits, rfl, h⟩
    · rintro (h | ⟨_, heq, h⟩)
      · -- a digit is no plus sign
        cases h.digits '+' List.mem_cons_self
      · cases heq
        exact h
  · rename_i hplus
    rw [Text.natural?_eq_some_iff]
    exact ⟨.inl, fun h => h.resolve_right fun ⟨digits, heq, _⟩ => hplus digits heq⟩

/-- The token of an offset names that offset. -/
theorem offset?_toString {n : Nat} (h : n < UInt64.size) : offset? (toString n) = some n := by
  have hlist : (toString n).toList = Nat.toDigits 10 n := Nat.toList_repr
  refine offset?_eq_some_iff.2 ⟨h, .inl ?_⟩
  rw [hlist]
  exact Text.spells_toDigits n

/-- The offset of the page that a token names; without a token it is that of the first page. -/
def start? : Option String → Option Nat
  | none => some 0
  | some token => offset? token

/-- A page is the one from the offset of its token on. -/
theorem page_of_start {token : Option String} (h : start? token = some offset) :
    l.page role token = .ok (l.pageAt role offset) := by
  cases token with
  | none =>
    cases h
    rfl
  | some token =>
    rw [start?] at h
    simp only [page, h]

/-- The token of a later page is another one. -/
theorem ne_of_start {token : Option String} {next : Nat} (h : start? token = some offset)
    (hlt : offset < next) (hnext : next < UInt64.size) : token ≠ some (toString next) := by
  rintro rfl
  rw [start?, offset?_toString hnext] at h
  exact Nat.ne_of_gt hlt (Option.some.inj h)

/-! ## Pages -/

/-- A page that reaches the end is the last one. -/
theorem pageAt_last (h : (l.itemsOf role).length ≤ offset + l.pageSize) :
    l.pageAt role offset = ⟨(l.itemsOf role).drop offset, none⟩ := by
  simp only [pageAt, Nat.min_eq_right h, Nat.lt_irrefl, if_false, List.take_length]

/-- A page that does not reach the end leads on, and the items after it complete those from its
offset on. -/
theorem pageAt_more (h : offset + l.pageSize < (l.itemsOf role).length) :
    ∃ items, l.pageAt role offset = ⟨items, some (toString (offset + l.pageSize))⟩ ∧
      items ++ (l.itemsOf role).drop (offset + l.pageSize) = (l.itemsOf role).drop offset := by
  refine ⟨((l.itemsOf role).take (offset + l.pageSize)).drop offset, ?_, ?_⟩
  · simp only [pageAt, Nat.min_eq_left (Nat.le_of_lt h), h, if_true]
  · rw [List.drop_take, Nat.add_sub_cancel_left, ← List.drop_drop, List.take_append_drop]

/-! ## Scans -/

/-- How many calls it takes to get the items from an offset on: one for each page, and one call if
there are none. -/
def callsFrom (l : Listing) (role : String) (offset : Nat) : Nat :=
  max 1 (((l.itemsOf role).length - offset) ⌈/⌉ l.pageSize)

/-- One call is enough for what fits on a page. -/
theorem callsFrom_last (hsize : 0 < l.pageSize)
    (h : (l.itemsOf role).length ≤ offset + l.pageSize) : l.callsFrom role offset = 1 := by
  refine max_eq_left ((ceilDiv_le_iff_le_mul hsize).2 ?_)
  omega

/-- A page that does not reach the end is one call more. -/
theorem callsFrom_more (hsize : 0 < l.pageSize)
    (h : offset + l.pageSize < (l.itemsOf role).length) :
    l.callsFrom role offset = l.callsFrom role (offset + l.pageSize) + 1 := by
  obtain ⟨left, hleft⟩ := Nat.exists_eq_add_of_lt h
  have hall : (l.itemsOf role).length - offset = left + 1 + l.pageSize := by omega
  have hrest : (l.itemsOf role).length - (offset + l.pageSize) = left + 1 := by omega
  have hpos : 1 ≤ (left + 1) ⌈/⌉ l.pageSize := by
    rw [Nat.ceilDiv_eq_add_pred_div]
    exact (Nat.le_div_iff_mul_le hsize).2 (by omega)
  -- a full page more is one call more, as the quotient is rounded up
  have hstep : (left + 1 + l.pageSize) ⌈/⌉ l.pageSize = (left + 1) ⌈/⌉ l.pageSize + 1 := by
    rw [Nat.ceilDiv_eq_add_pred_div, Nat.ceilDiv_eq_add_pred_div, ← Nat.add_div_right _ hsize]
    congr 1
    omega
  rw [callsFrom, callsFrom, hall, hrest, hstep, max_eq_right hpos, max_eq_right (by omega)]

/-- There are no more calls than items, and one if there are none. -/
theorem callsFrom_le (hsize : 0 < l.pageSize) :
    l.callsFrom role 0 ≤ (l.itemsOf role).length + 1 := by
  have hle : (l.itemsOf role).length ⌈/⌉ l.pageSize ≤ (l.itemsOf role).length :=
    (ceilDiv_le_iff_le_mul hsize).2 (Nat.le_mul_of_pos_left _ hsize)
  rw [callsFrom, Nat.sub_zero]
  omega

/-- **A walk finds the items from the offset of its token on.** -/
theorem exists_walk_from (hsize : 0 < l.pageSize)
    (hsmall : (l.itemsOf role).length ≤ UInt64.size) {token : Option String}
    (hstart : start? token = some offset) :
    ∃ asked, asked.length = l.callsFrom role offset ∧
      Walk role (l.page role) token asked ⟨(l.itemsOf role).drop offset, none⟩ := by
  -- each page leaves fewer items
  induction hleft : (l.itemsOf role).length - offset using Nat.strongRecOn
    generalizing token offset with
  | ind left ih =>
    have hpage : l.page role token = .ok (l.pageAt role offset) := page_of_start hstart
    by_cases hmore : offset + l.pageSize < (l.itemsOf role).length
    · obtain ⟨items, hitems, hrest⟩ := pageAt_more hmore
      have hne : token ≠ some (toString (offset + l.pageSize)) :=
        ne_of_start hstart (by omega) (by omega)
      have hnext : start? (some (toString (offset + l.pageSize))) = some (offset + l.pageSize) :=
        offset?_toString (by omega)
      obtain ⟨asked, hlength, hwalk⟩ := ih _ (by omega) hnext rfl
      refine ⟨token :: asked, ?_, ?_⟩
      · rw [List.length_cons, hlength, callsFrom_more hsize hmore]
      · rw [← hrest]
        exact .more (hpage.trans (congrArg Except.ok hitems)) rfl hne hwalk
    · have hend := Nat.le_of_not_lt hmore
      have hlast : l.pageAt role offset = ⟨(l.itemsOf role).drop offset, none⟩ := pageAt_last hend
      refine ⟨[token], ?_, .last (hpage.trans (congrArg Except.ok hlast)) rfl⟩
      rw [callsFrom_last hsize hend, List.length_singleton]

/-- **A walk over the pages of a listing finds the items of the role**, whatever the size of the
pages. -/
theorem exists_walk (hsize : 0 < l.pageSize) (hsmall : (l.itemsOf role).length ≤ UInt64.size) :
    ∃ asked, Walk role (l.page role) none asked ⟨l.itemsOf role, none⟩ ∧
      asked.length ≤ (l.itemsOf role).length + 1 := by
  have hstart : start? none = some 0 := rfl
  obtain ⟨asked, hlength, hwalk⟩ := exists_walk_from hsize hsmall hstart
  refine ⟨asked, hwalk, ?_⟩
  rw [hlength]
  exact callsFrom_le hsize

section Scans

variable {σ : Type} {p : Propagator σ} {c : Credential}

/-- **A scan of a listing collects the items of the role.** -/
theorem scan_inventory (hinventory : p.inventory = l.inventory) (hsize : 0 < l.pageSize)
    (hsmall : (l.itemsOf c.role).length ≤ UInt64.size)
    (hbudget : (l.itemsOf c.role).length < p.pageBudget) (t : Nat) (s : σ) :
    (p.scan c).Ends t s ⟨l.itemsOf c.role, none⟩ t s := by
  obtain ⟨asked, hwalk, hlength⟩ := exists_walk hsize hsmall
  have hserves : Serves p c (l.page c.role) fun _ s => s := by
    intro token s
    rw [hinventory]
    exact .pure _ s
  have hscan := scanFrom_of_walk hserves hwalk (Nat.le_trans hlength hbudget) s
  rw [noted, List.foldl_fixed] at hscan
  exact hscan.ends t

end Scans

end GatewayDirectory.Sync.Listing
