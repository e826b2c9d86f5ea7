import GatewayDirectory.Json.Token
import GatewayDirectory.Json.Writer
import GatewayDirectory.Proofs.Text.Digits

/-!
# Scanning what was written

`words v` lists the words of a value in the order in which both layouts write them. The scanner
finds exactly these in a text that is `Spelled` from them (`Spelled.scan`), and both layouts write
such a text (`spelled_compactChars`, `spelled_indentedChars`). A number ends only where something
that is no part of it follows, so the lemmas about values ask for a text that `Ends` a number; what
is written after a value always does.
-/

namespace GatewayDirectory.Json

open Text

/-! ## Values that can be read back -/

mutual

/-- Whether a value can be read back from its text: its numbers are integers that the reader keeps,
and no part of it denotes nothing. -/
def Exact : Json → Prop
  | .null | .bool _ | .string _ => True
  | .number (.int i) => -0x8000000000000000 ≤ i ∧ i < UInt64.size
  | .number (.real _) | .unreadable => False
  | .array xs => ExactItems xs
  | .object ms => ExactMembers ms

/-- Whether all items can be read back. -/
def ExactItems : List Json → Prop
  | [] => True
  | x :: xs => x.Exact ∧ ExactItems xs

/-- Whether the values of all members can be read back. -/
def ExactMembers : List (String × Json) → Prop
  | [] => True
  | (_, x) :: xs => x.Exact ∧ ExactMembers xs

end

/-- The literal of an integer. -/
def literalOf (i : Int) : Literal := ⟨decide (i < 0), Nat.toDigits 10 i.natAbs, none, none⟩

mutual

/-- The words of a value. -/
def words : Json → List Token
  | .null | .unreadable | .number (.real _) => [.null]
  | .bool b => [.bool b]
  | .number (.int i) => [.number (literalOf i)]
  | .string s => [.string (some s)]
  | .array [] => [.openArray, .closeArray]
  | .array (x :: xs) => .openArray :: (words x ++ itemWords xs)
  | .object [] => [.openObject, .closeObject]
  | .object ((k, x) :: xs) =>
    .openObject :: .string (some k) :: .colon :: (words x ++ memberWords xs)

/-- The words of the items after the first, with the closing bracket. -/
def itemWords : List Json → List Token
  | [] => [.closeArray]
  | x :: xs => .comma :: (words x ++ itemWords xs)

/-- The words of the members after the first, with the closing brace. -/
def memberWords : List (String × Json) → List Token
  | [] => [.closeObject]
  | (k, x) :: xs => .comma :: .string (some k) :: .colon :: (words x ++ memberWords xs)

end

/-! ## Blanks and words of one character -/

/-- A blank between words is passed over. -/
theorem scan_space {c : Char} (h : isSpace c = true) (rest : List (Option Char))
    (found : List Token) :
    Token.scanFrom .blank (some c :: rest) found = Token.scanFrom .blank rest found := by
  simp only [isSpace, Bool.or_eq_true, decide_eq_true_eq] at h
  rcases h with ((rfl | rfl) | rfl) | rfl <;> simp [Token.scanFrom, isSpace]

/-- A bracket, brace, colon or comma is a word by itself. -/
theorem scan_punctuation {c : Char} {t : Token} (h : Token.punctuation? c = some t)
    (rest : List (Option Char)) (found : List Token) :
    Token.scanFrom .blank (some c :: rest) found = Token.scanFrom .blank rest (t :: found) := by
  unfold Token.punctuation? at h
  split at h
  case h_7 => cases h
  all_goals
    cases h
    simp [Token.scanFrom, isSpace, Token.punctuation?]

/-! ## Strings -/

/-- The four hexadecimal digits of a control character are read back as its number. -/
theorem hexUnit?_hexDigit {n : Nat} (h : n < 0x20) :
    hexUnit? (some '0') (some '0') (some (hexDigit (n / 16))) (some (hexDigit (n % 16))) =
      some n := by
  revert n
  decide

/-- Inside a string, a character is read back from however it was escaped. -/
theorem scan_escape (c : Char) (cs : List Char) (rest : List (Option Char)) (found : List Token) :
    Token.scanFrom (.string ⟨cs, none, true⟩) ((escape c).map some ++ rest) found =
      Token.scanFrom (.string ⟨c :: cs, none, true⟩) rest found := by
  unfold escape
  -- seven characters have an escape of their own; then control characters, then all others
  split
  · simp [Token.scanFrom, Held.push]
  · simp [Token.scanFrom, Held.push]
  · simp [Token.scanFrom, Held.push]
  · simp [Token.scanFrom, Held.push]
  · simp [Token.scanFrom, Held.push]
  · simp [Token.scanFrom, Held.push]
  · simp [Token.scanFrom, Held.push]
  · rename_i hquote hslash _ _ _ _ _
    have hquote : c ≠ '"' := hquote
    have hslash : c ≠ '\\' := hslash
    split
    · rename_i hcontrol
      have hunit : Held.pushUnit ⟨cs, none, true⟩ c.toNat = ⟨c :: cs, none, true⟩ := by
        simp only [Held.pushUnit, Char.ofNat_toNat]
        rw [if_neg (by omega), if_neg (by omega)]
      simp only [List.map_cons, List.map_nil, List.cons_append, List.nil_append, Token.scanFrom,
        hexUnit?_hexDigit hcontrol, hunit]
    · rename_i hcontrol
      rw [List.map_singleton, List.singleton_append, Token.scanFrom]
      · simp [Held.push, hcontrol, hslash]
      · simpa using hquote
      · simpa using fun _ _ _ _ _ _ => hslash
      · simpa using fun _ _ _ => hslash

/-- **A string is read as it was written.** -/
theorem scan_string (s : String) (rest : List (Option Char)) (found : List Token) :
    Token.scanFrom .blank ((stringChars s).map some ++ rest) found =
      Token.scanFrom .blank rest (.string (some s) :: found) := by
  -- the induction is on what is still to be read; what was read is held in reverse
  have hchars (cs done : List Char) :
      Token.scanFrom (.string ⟨done, none, true⟩)
          ((cs.flatMap escape).map some ++ some '"' :: rest) found =
        Token.scanFrom .blank rest
          (.string (some (String.ofList (done.reverse ++ cs))) :: found) := by
    induction cs generalizing done with
    | nil => simp [Token.scanFrom, Held.text?]
    | cons c cs ih =>
      rw [List.flatMap_cons, List.map_append, List.append_assoc, scan_escape, ih]
      simp
  have hstring := hchars s.toList []
  simp only [List.reverse_nil, List.nil_append, String.ofList_toList] at hstring
  rw [← hstring]
  simp [stringChars, Token.scanFrom, isSpace, Held.start]

/-! ## Numbers -/

/-- What follows ends a number: nothing, a blank or a word of one character. -/
def Ends : List Char → Prop
  | [] => True
  | c :: _ => isSpace c = true ∨ (Token.punctuation? c).isSome

/-- The characters of an integer. -/
theorem toList_toString (i : Int) : (toString i).toList =
    if i < 0 then '-' :: Nat.toDigits 10 i.natAbs else Nat.toDigits 10 i.natAbs := by
  rw [show toString i = i.repr from rfl, Int.repr_eq_if]
  split
  · rename_i h
    rw [if_neg (by omega), Nat.toList_repr, show i.toNat = i.natAbs by omega]
  · rename_i h
    rw [if_pos (by omega), String.toList_append, Nat.toList_repr,
      show (-i).toNat = i.natAbs by omega]
    rfl

/-- The digits of a number have no zero in front. -/
theorem toDigits_natural (n : Nat) : ((Nat.toDigits 10 n).isEmpty ||
    ((Nat.toDigits 10 n).head? == some '0' && (Nat.toDigits 10 n).length != 1)) = false := by
  rw [List.isEmpty_eq_false_iff.2 Nat.toDigits_ne_nil, Bool.false_or, Bool.and_eq_false_iff]
  by_cases hhead : (Nat.toDigits 10 n).head? = some '0'
  · right
    rw [head?_toDigits hhead]
    rfl
  · left
    simpa using hhead

/-- The digits of a natural number are a literal without fraction and exponent, with and without a
minus sign in front. -/
theorem read?_toDigits (n : Nat) :
    Literal.read? (Nat.toDigits 10 n) = some ⟨false, Nat.toDigits 10 n, none, none⟩ ∧
      Literal.read? ('-' :: Nat.toDigits 10 n) = some ⟨true, Nat.toDigits 10 n, none, none⟩ := by
  have hdigits := spells_toDigits n
  have htake : (Nat.toDigits 10 n).takeWhile Char.isDigit = Nat.toDigits 10 n := by
    simpa using takeWhile_digits hdigits.digits noDigit_nil
  have hdrop : (Nat.toDigits 10 n).dropWhile Char.isDigit = [] := by
    simpa using dropWhile_digits hdigits.digits noDigit_nil
  have hshape := toDigits_natural n
  -- from here on only what was said of the digits counts, not where they come from
  generalize Nat.toDigits 10 n = ds at *
  constructor
  · cases ds with
    | nil => exact absurd rfl hdigits.ne_nil
    | cons d ds =>
      have hd : d ≠ '-' := by
        rintro rfl
        exact absurd (hdigits.digits '-' List.mem_cons_self) (by decide)
      unfold Literal.read?
      split
      rename_i negative cs heq
      have hsign : negative = false ∧ cs = d :: ds := by
        simpa [hd, eq_comm] using heq
      obtain ⟨rfl, rfl⟩ := hsign
      simp only [htake, hdrop, hshape]
      rfl
  · simp [Literal.read?, htake, hdrop, hshape]

/-- What is printed for an integer is its literal. -/
theorem read?_literalOf (i : Int) : Literal.read? (toString i).toList = some (literalOf i) := by
  rw [toList_toString]
  split
  · rename_i h
    rw [(read?_toDigits _).2, literalOf, decide_eq_true h]
  · rename_i h
    rw [(read?_toDigits _).1, literalOf, decide_eq_false h]

/-- An integer that the reader keeps is the value of its literal; beyond these bounds a literal
becomes a real number. -/
theorem value_literalOf {i : Int} (h : -0x8000000000000000 ≤ i ∧ i < UInt64.size) :
    (literalOf i).value = .number (.int i) := by
  have hvalue := (spells_toDigits i.natAbs).value
  have hsize : UInt64.size = 18446744073709551616 := rfl
  simp only [Literal.value, literalOf, Option.isSome_none, Bool.or_self, Bool.false_eq_true,
    if_false, hvalue]
  by_cases hneg : i < 0
  · rw [if_pos (by simpa using hneg), if_pos (by omega)]
    congr 2
    omega
  · rw [if_neg (by simpa using hneg), if_pos (by omega)]
    congr 2
    omega

/-- What ends a number is no part of one. -/
theorem not_isNumberChar {c : Char} (h : isSpace c = true ∨ (Token.punctuation? c).isSome) :
    isNumberChar c = false := by
  rcases h with h | h
  · simp only [isSpace, Bool.or_eq_true, decide_eq_true_eq] at h
    rcases h with ((rfl | rfl) | rfl) | rfl <;> rfl
  · unfold Token.punctuation? at h
    split at h <;> first | rfl | cases h

/-- A number is held until it ends. -/
theorem scan_ended {chars : List Char} {l : Literal} (hread : Literal.read? chars.reverse = some l)
    {cs : List Char} (hcs : Ends cs) (found : List Token) :
    Token.scanFrom (.number chars) (cs.map some) found =
      Token.scanFrom .blank (cs.map some) (.number l :: found) := by
  match cs, hcs with
  | [], _ => simp [Token.scanFrom, hread]
  | c :: cs, h =>
    have hchar := not_isNumberChar h
    rw [List.map_cons]
    -- the character after the number is looked at again as one that may start a word
    cases hspace : isSpace c with
    | true =>
      rw [scan_space hspace]
      simp [Token.scanFrom, hchar, hread, hspace]
    | false =>
      have hsome : (Token.punctuation? c).isSome := by simpa [Ends, hspace] using h
      obtain ⟨t, ht⟩ := Option.isSome_iff_exists.1 hsome
      rw [scan_punctuation ht]
      simp [Token.scanFrom, hchar, hread, hspace, ht]

/-- The characters of a number are held in the order of their reading, last first. -/
theorem scan_numberChars {cs : List Char} (hcs : ∀ c ∈ cs, isNumberChar c = true)
    (chars : List Char) (rest : List (Option Char)) (found : List Token) :
    Token.scanFrom (.number chars) (cs.map some ++ rest) found =
      Token.scanFrom (.number (cs.reverse ++ chars)) rest found := by
  induction cs generalizing chars with
  | nil => rfl
  | cons c cs ih =>
    rw [List.map_cons, List.cons_append, Token.scanFrom]
    simp only [hcs c List.mem_cons_self, if_true, Option.getD_some]
    rw [ih fun x hx => hcs x (List.mem_cons_of_mem _ hx)]
    simp

/-- An integer is printed with digits and a minus sign only. -/
theorem isNumberChar_of_mem {i : Int} {c : Char} (hc : c ∈ (toString i).toList) :
    c = '-' ∨ c.isDigit = true := by
  have hdigits := (spells_toDigits i.natAbs).digits
  rw [toList_toString] at hc
  split at hc
  · rcases List.mem_cons.1 hc with h | h
    · exact .inl h
    · exact .inr (hdigits c h)
  · exact .inr (hdigits c hc)

/-- A digit or a minus sign starts a number and no other word. -/
theorem scan_numberStart {c : Char} (hc : c = '-' ∨ c.isDigit = true) (rest : List (Option Char))
    (found : List Token) :
    Token.scanFrom .blank (some c :: rest) found = Token.scanFrom (.number [c]) rest found := by
  -- the scanner asks for blanks, quotes and the first letters of the three names before it comes to
  -- numbers
  have hne (d : Char) (hd : (d = '-' ∨ d.isDigit = true) → False) : c ≠ d := by
    rintro rfl
    exact hd hc
  rw [Token.scanFrom]
  · have hspace : isSpace c = false := by
      simp [isSpace, hne ' ' (by decide), hne '\n' (by decide), hne '\t' (by decide),
        hne '\r' (by decide)]
    simp [hspace, hne '"' (by decide), hc]
  · intro _ _
    exact hne 't' (by decide)
  · intro _ _
    exact hne 'f' (by decide)
  · intro _ _
    exact hne 'n' (by decide)

/-- **A number is read as it was written**, once it ends. -/
theorem scan_number (i : Int) {rest : List Char} (hrest : Ends rest) (found : List Token) :
    Token.scanFrom .blank ((toString i).toList.map some ++ rest.map some) found =
      Token.scanFrom .blank (rest.map some) (.number (literalOf i) :: found) := by
  have hmem (c : Char) (hc : c ∈ (toString i).toList) := isNumberChar_of_mem hc
  have hread := read?_literalOf i
  cases hcs : (toString i).toList with
  | nil =>
    -- an integer is not printed as nothing: nothing is no literal
    rw [hcs] at hread
    cases hread
  | cons c cs =>
    rw [hcs] at hmem hread
    have hchars (x : Char) (hx : x ∈ cs) : isNumberChar x = true := by
      rcases hmem x (List.mem_cons_of_mem _ hx) with rfl | h
      · rfl
      · simp [isNumberChar, h]
    rw [List.map_cons, List.cons_append, scan_numberStart (hmem c List.mem_cons_self),
      scan_numberChars hchars, scan_ended (by simpa using hread) hrest]

/-! ## Layouts -/

/-- The characters spell the words, with blanks wherever they may stand. A number is followed by
something that ends it. -/
inductive Spelled : List Char → List Token → Prop
  | done : Spelled [] []
  | space {c : Char} {cs : List Char} {ts : List Token} (hc : isSpace c = true)
      (h : Spelled cs ts) : Spelled (c :: cs) ts
  | mark {c : Char} {t : Token} {cs : List Char} {ts : List Token}
      (hc : Token.punctuation? c = some t) (h : Spelled cs ts) : Spelled (c :: cs) (t :: ts)
  | null {cs : List Char} {ts : List Token} (h : Spelled cs ts) :
      Spelled ('n' :: 'u' :: 'l' :: 'l' :: cs) (.null :: ts)
  | true {cs : List Char} {ts : List Token} (h : Spelled cs ts) :
      Spelled ('t' :: 'r' :: 'u' :: 'e' :: cs) (.bool .true :: ts)
  | false {cs : List Char} {ts : List Token} (h : Spelled cs ts) :
      Spelled ('f' :: 'a' :: 'l' :: 's' :: 'e' :: cs) (.bool .false :: ts)
  | string (s : String) {cs : List Char} {ts : List Token} (h : Spelled cs ts) :
      Spelled (stringChars s ++ cs) (.string (some s) :: ts)
  | number (i : Int) {cs : List Char} {ts : List Token} (hcs : Ends cs) (h : Spelled cs ts) :
      Spelled ((toString i).toList ++ cs) (.number (literalOf i) :: ts)

/-- **The scanner finds the words that are spelled.** -/
theorem Spelled.scan {cs : List Char} {ts : List Token} (h : Spelled cs ts) (found : List Token) :
    Token.scanFrom .blank (cs.map some) found = some (found.reverse ++ ts) := by
  induction h generalizing found with
  | done => simp [Token.scanFrom]
  | space hc _ ih => rw [List.map_cons, scan_space hc, ih]
  | mark hc _ ih =>
    rw [List.map_cons, scan_punctuation hc, ih]
    simp
  | null _ ih | true _ ih | false _ ih => simp [Token.scanFrom, ih]
  | string s _ ih =>
    rw [List.map_append, scan_string, ih]
    simp
  | number i hcs _ ih =>
    rw [List.map_append, scan_number i hcs, ih]
    simp

namespace Spelled

/-- A line break and its indentation may stand wherever blanks may. -/
theorem newLine (level : Nat) {cs : List Char} {ts : List Token} (h : Spelled cs ts) :
    Spelled (Json.newLine level ++ cs) ts := by
  have hblanks (n : Nat) : Spelled (List.replicate n ' ' ++ cs) ts := by
    induction n with
    | zero => exact h
    | succ n ih => exact .space rfl ih
  exact .space rfl (hblanks _)

end Spelled

/-! ## Values -/

section Ends

variable (cs : List Char)

/-- Behind an item stands a comma or the closing bracket, so a number there is at its end. -/
theorem ends_compactItems (xs : List Json) : Ends (compactItems xs ++ cs) := by
  cases xs <;> simp [compactItems, Ends, isSpace, Token.punctuation?]

/-- Behind the value of a member stands a comma or the closing brace. -/
theorem ends_compactMembers (xs : List (String × Json)) : Ends (compactMembers xs ++ cs) := by
  cases xs <;> simp [compactMembers, Ends, isSpace, Token.punctuation?]

/-- Over lines, an item is ended by a comma or by the line break before the closing bracket. -/
theorem ends_indentedItems (level : Nat) (xs : List Json) :
    Ends (indentedItems level xs ++ cs) := by
  cases xs <;> simp [indentedItems, newLine, Ends, isSpace, Token.punctuation?]

/-- Over lines, a member is ended by a comma or by the line break before the closing brace. -/
theorem ends_indentedMembers (level : Nat) (xs : List (String × Json)) :
    Ends (indentedMembers level xs ++ cs) := by
  cases xs <;> simp [indentedMembers, newLine, Ends, isSpace, Token.punctuation?]

end Ends

mutual

/-- **Without blanks, a value is spelled by its words.** -/
theorem spelled_compactChars : ∀ (v : Json), v.Exact → ∀ {cs : List Char} {ts : List Token},
    Ends cs → Spelled cs ts → Spelled (compactChars v ++ cs) (words v ++ ts)
  | .null, _, _, _, _, h => h.null
  | .bool true, _, _, _, _, h => h.true
  | .bool false, _, _, _, _, h => h.false
  | .number (.int i), _, _, _, hcs, h => h.number i hcs
  | .string s, _, _, _, _, h => h.string s
  | .array [], _, _, _, _, h => .mark rfl (.mark rfl h)
  | .array (x :: xs), hv, cs, _, _, h => by
    rw [Exact, ExactItems] at hv
    have hitems := spelled_compactItems xs hv.2 h
    have hitem := spelled_compactChars x hv.1 (ends_compactItems cs xs) hitems
    simpa [compactChars, words] using Spelled.mark (c := '[') rfl hitem
  | .object [], _, _, _, _, h => .mark rfl (.mark rfl h)
  | .object ((k, x) :: xs), hv, cs, _, _, h => by
    rw [Exact, ExactMembers] at hv
    have hmembers := spelled_compactMembers xs hv.2 h
    have hvalue := spelled_compactChars x hv.1 (ends_compactMembers cs xs) hmembers
    have hmember := (hvalue.mark (c := ':') rfl).string k
    simpa [compactChars, words] using hmember.mark (c := '\x7b') rfl

/-- The items behind the first are spelled by their words up to the closing bracket. -/
theorem spelled_compactItems : ∀ (xs : List Json), ExactItems xs →
    ∀ {cs : List Char} {ts : List Token}, Spelled cs ts →
      Spelled (compactItems xs ++ cs) (itemWords xs ++ ts)
  | [], _, _, _, h => .mark rfl h
  | x :: xs, hv, cs, _, h => by
    rw [ExactItems] at hv
    have hitems := spelled_compactItems xs hv.2 h
    have hitem := spelled_compactChars x hv.1 (ends_compactItems cs xs) hitems
    simpa [compactItems, itemWords] using hitem.mark (c := ',') rfl

/-- The members behind the first are spelled by their words up to the closing brace. -/
theorem spelled_compactMembers : ∀ (xs : List (String × Json)), ExactMembers xs →
    ∀ {cs : List Char} {ts : List Token}, Spelled cs ts →
      Spelled (compactMembers xs ++ cs) (memberWords xs ++ ts)
  | [], _, _, _, h => .mark rfl h
  | (k, x) :: xs, hv, cs, _, h => by
    rw [ExactMembers] at hv
    have hmembers := spelled_compactMembers xs hv.2 h
    have hvalue := spelled_compactChars x hv.1 (ends_compactMembers cs xs) hmembers
    have hmember := (hvalue.mark (c := ':') rfl).string k
    simpa [compactMembers, memberWords] using hmember.mark (c := ',') rfl

end

mutual

/-- **Over lines, a value is spelled by the same words.** -/
theorem spelled_indentedChars : ∀ (level : Nat) (v : Json), v.Exact →
    ∀ {cs : List Char} {ts : List Token}, Ends cs → Spelled cs ts →
      Spelled (indentedChars level v ++ cs) (words v ++ ts)
  | _, .null, _, _, _, _, h => h.null
  | _, .bool true, _, _, _, _, h => h.true
  | _, .bool false, _, _, _, _, h => h.false
  | _, .number (.int i), _, _, _, hcs, h => h.number i hcs
  | _, .string s, _, _, _, _, h => h.string s
  | _, .array [], _, _, _, _, h => .mark rfl (.mark rfl h)
  | level, .array (x :: xs), hv, cs, _, _, h => by
    rw [Exact, ExactItems] at hv
    have hitems := spelled_indentedItems level xs hv.2 h
    have hitem := spelled_indentedChars (level + 1) x hv.1 (ends_indentedItems cs level xs) hitems
    simpa [indentedChars, words] using (hitem.newLine (level + 1)).mark (c := '[') rfl
  | _, .object [], _, _, _, _, h => .mark rfl (.mark rfl h)
  | level, .object ((k, x) :: xs), hv, cs, _, _, h => by
    rw [Exact, ExactMembers] at hv
    have hmembers := spelled_indentedMembers level xs hv.2 h
    have hvalue :=
      spelled_indentedChars (level + 1) x hv.1 (ends_indentedMembers cs level xs) hmembers
    have hmember := ((hvalue.space (c := ' ') rfl).mark (c := ':') rfl).string k
    simpa [indentedChars, words] using (hmember.newLine (level + 1)).mark (c := '\x7b') rfl

/-- Over lines, the items behind the first are spelled by the same words. -/
theorem spelled_indentedItems : ∀ (level : Nat) (xs : List Json), ExactItems xs →
    ∀ {cs : List Char} {ts : List Token}, Spelled cs ts →
      Spelled (indentedItems level xs ++ cs) (itemWords xs ++ ts)
  | level, [], _, _, _, h => by
    simpa [indentedItems, itemWords] using (h.mark (c := ']') rfl).newLine level
  | level, x :: xs, hv, cs, _, h => by
    rw [ExactItems] at hv
    have hitems := spelled_indentedItems level xs hv.2 h
    have hitem := spelled_indentedChars (level + 1) x hv.1 (ends_indentedItems cs level xs) hitems
    simpa [indentedItems, itemWords] using (hitem.newLine (level + 1)).mark (c := ',') rfl

/-- Over lines, the members behind the first are spelled by the same words. -/
theorem spelled_indentedMembers : ∀ (level : Nat) (xs : List (String × Json)), ExactMembers xs →
    ∀ {cs : List Char} {ts : List Token}, Spelled cs ts →
      Spelled (indentedMembers level xs ++ cs) (memberWords xs ++ ts)
  | level, [], _, _, _, h => by
    simpa [indentedMembers, memberWords] using (h.mark (c := '\x7d') rfl).newLine level
  | level, (k, x) :: xs, hv, cs, _, h => by
    rw [ExactMembers] at hv
    have hmembers := spelled_indentedMembers level xs hv.2 h
    have hvalue :=
      spelled_indentedChars (level + 1) x hv.1 (ends_indentedMembers cs level xs) hmembers
    have hmember := ((hvalue.space (c := ' ') rfl).mark (c := ':') rfl).string k
    simpa [indentedMembers, memberWords] using (hmember.newLine (level + 1)).mark (c := ',') rfl

end

end GatewayDirectory.Json
