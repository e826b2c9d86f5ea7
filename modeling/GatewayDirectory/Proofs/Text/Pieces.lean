import GatewayDirectory.Text.Blank

/-!
# Pieces of a text

`splitAt c` cuts a text at every `c`. What stands in front of a separator and what stands behind it
are cut apart from each other (`splitAt_append_cons`), so the first piece is all that stands in
front of the first separator (`splitAt_eq_cons_cons_iff`), and a text that begins with a piece and a
separator tells both the piece and the rest (`append_cons_inj`). Where two texts may hold separators
of their own, one of them may go on behind the other (`append_cons_eq_append_cons_iff`).
-/

namespace GatewayDirectory.Text

variable {c : Char} {cs piece : List Char}

/-- A text has a first piece, even if it is empty. -/
theorem splitAt_ne_nil (c : Char) (cs : List Char) : splitAt c cs ≠ [] := by
  cases cs with
  | nil => exact List.cons_ne_nil _ _
  | cons x cs =>
    rw [splitAt]
    split
    · exact List.cons_ne_nil _ _
    · split <;> exact List.cons_ne_nil _ _

/-- A text without separators is one piece. -/
theorem splitAt_of_not_mem (h : c ∉ cs) : splitAt c cs = [cs] := by
  induction cs with
  | nil => rfl
  | cons x cs ih =>
    obtain ⟨hx, hcs⟩ := List.ne_and_not_mem_of_not_mem_cons h
    rw [splitAt, if_neg (Ne.symm hx), ih hcs]

/-- **A text is cut on both sides of a separator by itself.** -/
theorem splitAt_append_cons (c : Char) (front back : List Char) :
    splitAt c (front ++ c :: back) = splitAt c front ++ splitAt c back := by
  induction front with
  | nil => simp [splitAt]
  | cons x front ih =>
    rw [List.cons_append, splitAt, splitAt, ih]
    split
    · rfl
    · -- the first piece of the front takes one more character
      obtain ⟨piece, pieces, hfront⟩ := List.exists_cons_of_ne_nil (splitAt_ne_nil c front)
      rw [hfront, List.cons_append]
      rfl

/-- What stands in front of the first separator is the first piece. -/
theorem splitAt_append (h : c ∉ piece) (rest : List Char) :
    splitAt c (piece ++ c :: rest) = piece :: splitAt c rest := by
  rw [splitAt_append_cons, splitAt_of_not_mem h, List.singleton_append]

/-- **The first piece of several** is what stands in front of the first separator. -/
theorem splitAt_eq_cons_cons_iff {next : List Char} {more : List (List Char)} :
    splitAt c cs = piece :: next :: more ↔
      c ∉ piece ∧ ∃ rest, cs = piece ++ c :: rest ∧ splitAt c rest = next :: more := by
  constructor
  · intro h
    by_cases hc : c ∈ cs
    · obtain ⟨front, rest, rfl, hfront⟩ := List.eq_append_cons_of_mem hc
      rw [splitAt_append hfront] at h
      obtain ⟨rfl, hrest⟩ := List.cons.inj h
      exact ⟨hfront, rest, rfl, hrest⟩
    · rw [splitAt_of_not_mem hc] at h
      cases h
  · rintro ⟨hpiece, rest, rfl, hrest⟩
    rw [splitAt_append hpiece, hrest]

/-- Only the empty text has an empty piece and nothing else. -/
theorem splitAt_eq_nil_piece_iff : splitAt c cs = [[]] ↔ cs = [] := by
  constructor
  · intro h
    by_cases hc : c ∈ cs
    · obtain ⟨front, rest, rfl, hfront⟩ := List.eq_append_cons_of_mem hc
      rw [splitAt_append hfront] at h
      exact absurd (List.cons.inj h).2 (splitAt_ne_nil c rest)
    · rw [splitAt_of_not_mem hc] at h
      exact (List.cons.inj h).1
  · rintro rfl
    rfl

/-- **A piece and what follows its separator are told by the text.** -/
theorem append_cons_inj {piece' rest rest' : List Char} (h : c ∉ piece) (h' : c ∉ piece') :
    piece ++ c :: rest = piece' ++ c :: rest' ↔ piece = piece' ∧ rest = rest' := by
  constructor
  · intro heq
    have hsplit := congrArg (splitAt c) heq
    rw [splitAt_append h, splitAt_append h'] at hsplit
    obtain ⟨rfl, -⟩ := List.cons.inj hsplit
    exact ⟨rfl, (List.cons.inj (List.append_cancel_left heq)).2⟩
  · rintro ⟨rfl, rfl⟩
    rfl

/-- **Two texts with a separator between two parts are equal** if the parts are, or if the front of
one goes on with a separator and with what the back of the other begins with. -/
theorem append_cons_eq_append_cons_iff {front front' back back' : List Char} :
    front ++ c :: back = front' ++ c :: back' ↔
      front = front' ∧ back = back' ∨
        (∃ cs, front' = front ++ c :: cs ∧ back = cs ++ c :: back') ∨
          ∃ cs, front = front' ++ c :: cs ∧ back' = cs ++ c :: back := by
  constructor
  · intro heq
    rcases List.append_eq_append_iff.1 heq with ⟨more, hfront, hback⟩ | ⟨more, hfront, hback⟩
    · cases more with
      | nil => exact .inl ⟨by simpa using hfront.symm, (List.cons.inj hback).2⟩
      | cons x cs =>
        -- the separator behind the shorter front is the first character that is left over
        obtain ⟨rfl, hrest⟩ := List.cons.inj hback
        exact .inr (.inl ⟨cs, hfront, hrest⟩)
    · cases more with
      | nil => exact .inl ⟨by simpa using hfront, (List.cons.inj hback).2.symm⟩
      | cons x cs =>
        obtain ⟨rfl, hrest⟩ := List.cons.inj hback
        exact .inr (.inr ⟨cs, hfront, hrest⟩)
  · rintro (⟨rfl, rfl⟩ | ⟨cs, rfl, rfl⟩ | ⟨cs, rfl, rfl⟩)
    · rfl
    · simp
    · simp

end GatewayDirectory.Text
