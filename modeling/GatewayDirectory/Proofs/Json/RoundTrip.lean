import GatewayDirectory.Json.Reader
import GatewayDirectory.Proofs.Json.Words

/-!
# Reading what was written

A value that is `Exact` is read back from either of its layouts (`read_compact`, `read_indented`).
The scanner finds its words, and the reader, which holds what is still open, completes the value
after them (`steps_words`).
-/

namespace GatewayDirectory.Json

open Progress

/-! ## The reader along the words of a value -/

/-- The first word of a value does not close an array. -/
theorem words_eq_cons : ∀ (v : Json), ∃ t ts, words v = t :: ts ∧ t ≠ .closeArray
  | .null | .unreadable | .bool _ | .number (.int _) | .number (.real _) | .string _ | .array []
  | .array (_ :: _) | .object [] | .object ((_, _) :: _) => by
    rw [words]
    exact ⟨_, _, rfl, Token.noConfusion⟩

/-- The first item of an array is read as any value is. -/
theorem steps_firstItem (v : Json) (opened : List Frame) (ts : List Token) :
    steps ⟨.firstItem, opened, .null⟩ (words v ++ ts) =
      steps ⟨.value, opened, .null⟩ (words v ++ ts) := by
  obtain ⟨t, rest, hwords, ht⟩ := words_eq_cons v
  have hstep : step ⟨.firstItem, opened, .null⟩ t = step ⟨.value, opened, .null⟩ t := by
    cases t with
    | closeArray => exact absurd rfl ht
    | _ => rfl
  rw [hwords, List.cons_append, steps, steps, hstep]

mutual

/-- **After its words, a value is complete.** -/
theorem steps_words : ∀ (v : Json), v.Exact → ∀ (opened : List Frame) (ts : List Token),
    steps ⟨.value, opened, .null⟩ (words v ++ ts) = steps (complete opened v) ts
  | .null, _, _, _ | .bool _, _, _, _ | .string _, _, _, _ => rfl
  | .number (.int i), hv, opened, ts => by
    rw [Exact] at hv
    rw [words, ← value_literalOf hv]
    rfl
  | .array [], _, _, _ => rfl
  | .array (x :: xs), hv, opened, ts => by
    rw [Exact, ExactItems] at hv
    have hitems := steps_itemWords xs hv.2 [x] opened ts
    have hitem := steps_words x hv.1 (.array [] :: opened) (itemWords xs ++ ts)
    rw [words, List.cons_append, List.append_assoc]
    exact (steps_firstItem x _ _).trans (hitem.trans hitems)
  | .object [], _, _, _ => rfl
  | .object ((k, x) :: xs), hv, opened, ts => by
    rw [Exact, ExactMembers] at hv
    have hmembers := steps_memberWords xs hv.2 [(k, x)] opened ts
    have hvalue := steps_words x hv.1 (.object [] true (some k) :: opened) (memberWords xs ++ ts)
    rw [words, List.cons_append, List.cons_append, List.cons_append, List.append_assoc]
    exact hvalue.trans hmembers

/-- The words behind the first item complete the array around the items that are held. -/
theorem steps_itemWords : ∀ (xs : List Json), ExactItems xs →
    ∀ (items : List Json) (opened : List Frame) (ts : List Token),
      steps ⟨.next, .array items :: opened, .null⟩ (itemWords xs ++ ts) =
        steps (complete opened (.array (items.reverse ++ xs))) ts
  | [], _, items, opened, ts => by
    rw [List.append_nil]
    rfl
  | x :: xs, hv, items, opened, ts => by
    rw [ExactItems] at hv
    have hitems := steps_itemWords xs hv.2 (x :: items) opened ts
    have hitem := steps_words x hv.1 (.array items :: opened) (itemWords xs ++ ts)
    rw [itemWords, List.cons_append, List.append_assoc]
    refine (hitem.trans hitems).trans ?_
    simp

/-- The words behind the first member complete the object around the members that are held. -/
theorem steps_memberWords : ∀ (xs : List (String × Json)), ExactMembers xs →
    ∀ (members : List (String × Json)) (opened : List Frame) (ts : List Token),
      steps ⟨.next, .object members true none :: opened, .null⟩ (memberWords xs ++ ts) =
        steps (complete opened (.object (members.reverse ++ xs))) ts
  | [], _, members, opened, ts => by
    rw [List.append_nil]
    rfl
  | (k, x) :: xs, hv, members, opened, ts => by
    rw [ExactMembers] at hv
    have hmembers := steps_memberWords xs hv.2 ((k, x) :: members) opened ts
    have hvalue :=
      steps_words x hv.1 (.object members true (some k) :: opened) (memberWords xs ++ ts)
    rw [memberWords, List.cons_append, List.cons_append, List.cons_append, List.append_assoc]
    refine (hvalue.trans hmembers).trans ?_
    simp

end

/-! ## The round trip -/

/-- The words of a value are read as that value. -/
theorem ofTokens_words {v : Json} (hv : v.Exact) : ofTokens (words v) = some v := by
  have hsteps := steps_words v hv [] []
  rw [List.append_nil] at hsteps
  rw [ofTokens, hsteps]
  rfl

/-- A text that spells the words of a value is read as that value. -/
theorem read_of_spelled {v : Json} (hv : v.Exact) {s : String} (h : Spelled s.toList (words v)) :
    read s.toUTF8 = some v := by
  rw [read, Text.pieces_toUTF8, ofPieces, Text.piecesOf, Token.scan, h.scan []]
  exact ofTokens_words hv

/-- **What is written without blanks is read back.** -/
theorem read_compact {v : Json} (hv : v.Exact) : read (compact v).toUTF8 = some v := by
  refine read_of_spelled hv ?_
  have hspelled : Spelled (compactChars v ++ []) (words v ++ []) :=
    spelled_compactChars v hv trivial .done
  simpa [compact] using hspelled

/-- **What is written over lines is read back.** -/
theorem read_indented {v : Json} (hv : v.Exact) : read (indented v).toUTF8 = some v := by
  refine read_of_spelled hv ?_
  have hspelled : Spelled (indentedChars 0 v ++ []) (words v ++ []) :=
    spelled_indentedChars 0 v hv trivial .done
  simpa [indented] using hspelled

/-- Values that can be read back are told by what is written for them. -/
theorem compact_inj {v w : Json} (hv : v.Exact) (hw : w.Exact) : compact v = compact w ↔ v = w := by
  constructor
  · intro h
    have hread := read_compact hv
    rw [h, read_compact hw] at hread
    exact (Option.some.inj hread).symm
  · rintro rfl
    rfl

end GatewayDirectory.Json
