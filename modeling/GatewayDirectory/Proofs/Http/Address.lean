import GatewayDirectory.Http.Url
import GatewayDirectory.Proofs.Text.Percent
import GatewayDirectory.Proofs.Text.Pieces
import Mathlib.Data.List.TakeWhile

/-!
# Addresses below a host

An `Origin` is an address that names a host and nothing else. Of an address that goes on from there
in plain segments the host is that of the origin, and the path is what was appended with its dots
resolved (`Origin.read?_append`). Nothing is resolved if no segment is a dot or two
(`Verbatim.pathOf_eq`), and the percent-encoded form of a text is none unless the text is.
-/

namespace GatewayDirectory

namespace Http

open Text

/-! ## Plain segments -/

/-- A character that stands for itself wherever it is in a path. -/
def isPlain (c : Char) : Bool :=
  c.isAlphanum || c == '-' || c == '_' || c == '.' || c == '~' || c == '%'

/-- Plain characters are ASCII. -/
theorem isPlain_ascii {c : Char} (h : isPlain c = true) : c.toNat < 128 := by
  simp only [isPlain, Bool.or_eq_true, beq_iff_eq] at h
  rcases h with ((((h | rfl) | rfl) | rfl) | rfl) | rfl
  · exact toNat_lt_of_isAlphanum h
  all_goals decide

/-- A plain character ends no part of an address and is not spelled by its bytes. -/
theorem isPlain_spec {c : Char} (h : isPlain c = true) :
    0x20 < c.toNat ∧ c.toNat < 0x7f ∧ c ≠ '/' ∧ c ≠ '\\' ∧ c ≠ '?' ∧ c ≠ '#' ∧
      Url.pathSpecial.contains c = false :=
  forall_ascii (P := fun c => isPlain c = true → 0x20 < c.toNat ∧ c.toNat < 0x7f ∧ c ≠ '/' ∧
    c ≠ '\\' ∧ c ≠ '?' ∧ c ≠ '#' ∧ Url.pathSpecial.contains c = false) (by decide +kernel) c
    (isPlain_ascii h) h

/-- The characters of a path that leads through those segments. -/
def pathChars (segments : List (List Char)) : List Char := segments.flatMap ('/' :: ·)

/-- Every character of the segments is plain. -/
def Plain (segments : List (List Char)) : Prop := ∀ s ∈ segments, ∀ c ∈ s, isPlain c = true

/-- A path through plain segments holds slashes and plain characters. -/
theorem Plain.eq_or_isPlain {segments : List (List Char)} (h : Plain segments) {c : Char}
    (hc : c ∈ pathChars segments) : c = '/' ∨ isPlain c = true := by
  obtain ⟨s, hs, hc⟩ := List.mem_flatMap.1 hc
  exact (List.mem_cons.1 hc).imp_right (h s hs c)

/-- No slash is inside a plain segment. -/
theorem Plain.not_mem {segments : List (List Char)} (h : Plain segments) {s : List Char}
    (hs : s ∈ segments) : '/' ∉ s := fun hc => (isPlain_spec (h s hs '/' hc)).2.2.1 rfl

/-- A path falls into its segments, after what stands in front of the first slash. -/
theorem Plain.splitAt_pathChars {segments : List (List Char)} (h : Plain segments)
    {front : List Char} (hfront : '/' ∉ front) :
    splitAt '/' (front ++ pathChars segments) = front :: segments := by
  induction segments generalizing front with
  | nil => rw [pathChars, List.flatMap_nil, List.append_nil, splitAt_of_not_mem hfront]
  | cons s segments ih =>
    have hs := h.not_mem List.mem_cons_self
    have hrest : Plain segments := fun s' hs' => h s' (List.mem_cons_of_mem s hs')
    rw [pathChars, List.flatMap_cons, List.cons_append, splitAt_append hfront]
    exact congrArg _ (ih hrest hs)

/-! ## Paths -/

/-- No segment stands for its own place or for the one above. -/
def Undotted (segments : List (List Char)) : Prop :=
  ∀ s ∈ segments, Url.isDot s = false ∧ Url.isDotDot s = false

/-- Segments without dots are kept in their order when a path is resolved. -/
theorem resolve_of_undotted {segments : List (List Char)} (h : Undotted segments)
    (done : List (List Char)) : Url.resolve segments done = done.reverse ++ segments := by
  induction segments generalizing done with
  | nil => rw [Url.resolve, List.append_nil]
  | cons s segments ih =>
    obtain ⟨⟨hdot, hdots⟩, hrest⟩ := List.forall_mem_cons.1 h
    -- the last segment is resolved by a rule of its own
    cases segments with
    | nil => simp [Url.resolve, hdot, hdots]
    | cons s' segments =>
      rw [Url.resolve, hdots, if_neg Bool.false_ne_true, hdot, if_neg Bool.false_ne_true, ih hrest,
        List.reverse_cons, List.append_assoc, List.singleton_append]
      exact List.cons_ne_nil _ _

/-- A client leaves a plain character as it is. -/
theorem encodeChar_of_isPlain {c : Char} (h : isPlain c = true) :
    Url.encodeChar Url.pathSpecial c = [c] := by
  obtain ⟨hlow, hhigh, -, -, -, -, hspecial⟩ := isPlain_spec h
  rw [Url.encodeChar, if_neg]
  rintro (hc | hc | hc)
  · omega
  · omega
  · rw [hspecial] at hc
    cases hc

/-- A client leaves a plain segment as it is. -/
theorem flatMap_encodeChar {s : List Char} (h : ∀ c ∈ s, isPlain c = true) :
    s.flatMap (Url.encodeChar Url.pathSpecial) = s := by
  induction s with
  | nil => rfl
  | cons c s ih =>
    obtain ⟨hc, hs⟩ := List.forall_mem_cons.1 h
    rw [List.flatMap_cons, encodeChar_of_isPlain hc, ih hs, List.singleton_append]

/-- A client changes nothing about a path through the segments. -/
structure Verbatim (segments : List (List Char)) : Prop where
  plain : Plain segments
  undotted : Undotted segments
  ne_nil : segments ≠ []

/-- **A path through plain segments is sent as it stands.** -/
theorem Verbatim.pathOf_eq {segments : List (List Char)} (h : Verbatim segments) :
    Url.pathOf (pathChars segments) = String.ofList (pathChars segments) := by
  obtain ⟨hplain, hdots, hne⟩ := h
  have hslashes : (pathChars segments).map (fun c => if c = '\\' then '/' else c) =
      pathChars segments := by
    refine (List.map_congr_left fun c hc => ?_).trans (List.map_id _)
    rcases hplain.eq_or_isPlain hc with rfl | hc
    · rfl
    · exact if_neg (isPlain_spec hc).2.2.2.1
  have hencoded : segments.flatMap (fun s => '/' :: s.flatMap (Url.encodeChar Url.pathSpecial)) =
      pathChars segments := by
    rw [pathChars, List.flatMap_def, List.flatMap_def]
    refine congrArg List.flatten (List.map_congr_left fun s hs => ?_)
    rw [flatMap_encodeChar (hplain s hs)]
  obtain ⟨s, rest, rfl⟩ := List.exists_cons_of_ne_nil hne
  have hrest : Plain rest := fun s' hs' => hplain s' (List.mem_cons_of_mem s hs')
  have hsplit := hrest.splitAt_pathChars (hplain.not_mem List.mem_cons_self)
  rw [Url.pathOf, hslashes]
  show String.ofList ((Url.resolve (splitAt '/' (s ++ pathChars rest)) []).flatMap _) = _
  rw [hsplit, resolve_of_undotted hdots, List.reverse_nil, List.nil_append, hencoded]

/-! ## Encoded segments -/

/-- The texts that differ from one of small letters in their letters' case only. -/
def spellings : List Char → List (List Char)
  | [] => [[]]
  | c :: cs => (spellings cs).flatMap fun s => [c :: s, c.toUpper :: s]

/-- A text is one of the spellings of itself in small letters. -/
theorem mem_spellings {cs : List Char} (h : ∀ c ∈ cs, c.toNat < 128) :
    cs ∈ spellings (cs.map Char.toLower) := by
  induction cs with
  | nil => exact List.mem_singleton_self []
  | cons c cs ih =>
    obtain ⟨hc, hcs⟩ := List.forall_mem_cons.1 h
    -- a character is the small or the large form of its small form
    have hcase : c = c.toLower ∨ c = c.toLower.toUpper :=
      forall_ascii (P := fun c => c = c.toLower ∨ c = c.toLower.toUpper) (by decide +kernel) c hc
    rw [List.map_cons, spellings, List.mem_flatMap]
    refine ⟨cs, ih hcs, ?_⟩
    rcases hcase with hcase | hcase
    · exact List.mem_cons.2 (.inl (congrArg (· :: cs) hcase))
    · exact List.mem_cons_of_mem _ (List.mem_singleton.2 (congrArg (· :: cs) hcase))

/-- An encoded text is no spelling of what would be decoded as another text. -/
theorem toLower_encode_ne {name dots : String} (word : String) (hne : name ≠ dots)
    (hdots : IsAscii dots) (hword : ∀ cs ∈ spellings word.toList,
      Percent.decode (cs.map asciiByte) = dots.toList.map asciiByte) :
    String.ofList ((Percent.encode name).toList.map Char.toLower) ≠ word := by
  intro h
  have hlower : (Percent.encode name).toList.map Char.toLower = word.toList := by
    rw [← h, String.toList_ofList]
  have hdecode := hword _ (hlower ▸ mem_spellings (Percent.encode_ascii name))
  rw [← ascii_bytes (Percent.encode_ascii name), Percent.decode_encode, ← ascii_bytes hdots,
    toUTF8_toList_inj] at hdecode
  exact hne hdecode

/-- **The encoded form of any text but the dots stands for itself as a segment.** -/
theorem undotted_encode {name : String} (hdot : name ≠ ".") (hdots : name ≠ "..") :
    Url.isDot (Percent.encode name).toList = false ∧
      Url.isDotDot (Percent.encode name).toList = false := by
  -- a segment is taken for dots if it is one of six spellings, a percent sign with two digits for a
  -- dot
  have hone (word : String) := toLower_encode_ne word hdot (by simp [IsAscii])
  have htwo (word : String) := toLower_encode_ne word hdots (by simp [IsAscii])
  simp only [Url.isDot, Url.isDotDot, Bool.or_eq_false_iff, beq_eq_false_iff_ne]
  refine ⟨⟨hone _ ?_, hone _ ?_⟩, ⟨⟨htwo _ ?_, htwo _ ?_⟩, htwo _ ?_⟩, htwo _ ?_⟩
  all_goals decide

/-- What `encode` writes is plain. -/
theorem isPlain_of_mem_encode {name : String} {c : Char}
    (hc : c ∈ (Percent.encode name).toList) : isPlain c = true := by
  have hdigit (n : Nat) (hn : n < 16) : isPlain (Percent.hexDigit n) = true := by
    revert n
    decide
  rw [Percent.toList_encode, List.mem_flatMap] at hc
  obtain ⟨b, -, hb⟩ := hc
  unfold Percent.encodeByte at hb
  split at hb
  · rename_i hunreserved
    obtain rfl := List.mem_singleton.1 hb
    exact Bool.or_eq_true_iff.2 (.inl hunreserved)
  · have hlt : b.toNat < 256 := b.toNat_lt
    simp only [List.mem_cons, List.not_mem_nil, or_false] at hb
    rcases hb with rfl | rfl | rfl
    · decide
    · exact hdigit _ (by omega)
    · exact hdigit _ (by omega)

/-- Only the empty text has an empty encoding. -/
theorem encode_ne_empty {name : String} (h : name ≠ "") : Percent.encode name ≠ "" := by
  intro hempty
  have hnil : Percent.encode "" = "" := by
    rw [Percent.encode, toList_toUTF8]
    rfl
  exact h (Percent.encode_inj.1 (hempty.trans hnil.symm))

/-! ## Addresses -/

/-- An address of a host, with a port perhaps, and nothing behind it. -/
structure Origin where
  scheme : String
  host : String
  /-- Host and port as a client reads them. -/
  authority : String
  scheme_eq : scheme = "http" ∨ scheme = "https"
  host_chars : ∀ c ∈ host.toList, 0x20 < c.toNat ∧ c ≠ '/' ∧ c ≠ '\\' ∧ c ≠ '?' ∧ c ≠ '#'
  authority_eq : Url.authorityOf? scheme host.toList = some authority

namespace Origin

/-- The origin as an address. -/
def text (o : Origin) : String := o.scheme ++ "://" ++ o.host

/-- An origin is spelled by its scheme, two slashes and its host. -/
theorem toList_text (o : Origin) :
    o.text.toList = o.scheme.toList ++ ':' :: '/' :: '/' :: o.host.toList := by
  simp [text]

/-- There is no address without a host. -/
theorem host_ne_nil (o : Origin) : o.host.toList ≠ [] := by
  intro h
  have hauthority := o.authority_eq
  rw [h] at hauthority
  cases hauthority

/-- Slashes behind an origin do not count. -/
theorem dropTrailing_text (o : Origin) (slashes : Nat) :
    dropTrailing '/' (o.text ++ String.ofList (List.replicate slashes '/')) = o.text := by
  -- the host is not empty and holds no slash, so it is where the dropping stops
  have hlast : (o.text.toList.reverse).dropWhile (· == '/') = o.text.toList.reverse := by
    rw [toList_text, List.reverse_append, List.reverse_cons, List.reverse_cons, List.reverse_cons]
    obtain ⟨c, rest, hhost⟩ :=
      List.exists_cons_of_ne_nil (mt List.reverse_eq_nil_iff.1 o.host_ne_nil)
    have hc : c ≠ '/' := by
      have hmem : c ∈ o.host.toList := by
        rw [← List.mem_reverse, hhost]
        exact List.mem_cons_self
      exact (o.host_chars c hmem).2.1
    rw [hhost]
    simp [hc]
  rw [dropTrailing, String.toList_append, String.toList_ofList, List.reverse_append,
    List.reverse_replicate, List.dropWhile_append_of_pos, hlast, List.reverse_reverse,
    String.ofList_toList]
  intro c hc
  rw [(List.mem_replicate.1 hc).2]
  rfl

section Reading

variable {segments : List (List Char)}

/-- Nothing is trimmed from the front of a text without blanks and control characters. -/
theorem dropWhile_glyphs {cs : List Char} (h : ∀ c ∈ cs, 0x20 < c.toNat) :
    cs.dropWhile (fun c => decide (c.toNat ≤ 0x20)) = cs := by
  cases cs with
  | nil => rfl
  | cons c cs =>
    have hc : 0x20 < c.toNat := h c List.mem_cons_self
    rw [List.dropWhile_cons_of_neg]
    simpa using hc

/-- No character of an address below an origin is a blank or begins a query or a fragment. -/
theorem visible_of_mem (o : Origin) (hplain : Plain segments) {c : Char}
    (hc : c ∈ o.text.toList ++ pathChars segments) : 0x20 < c.toNat ∧ c ≠ '?' ∧ c ≠ '#' := by
  rw [toList_text, List.append_assoc, List.mem_append] at hc
  rcases hc with hc | hc
  · have hscheme : ∀ c ∈ o.scheme.toList, 0x20 < c.toNat ∧ c ≠ '?' ∧ c ≠ '#' := by
      rcases o.scheme_eq with h | h <;> simp [h]
    exact hscheme c hc
  · simp only [List.cons_append, List.mem_cons, List.mem_append] at hc
    rcases hc with rfl | rfl | rfl | hc | hc
    · decide
    · decide
    · decide
    · obtain ⟨hlow, -, -, hquery, hfragment⟩ := o.host_chars c hc
      exact ⟨hlow, hquery, hfragment⟩
    · rcases hplain.eq_or_isPlain hc with rfl | hc
      · decide
      · obtain ⟨hlow, -, -, -, hquery, hfragment, -⟩ := isPlain_spec hc
        exact ⟨hlow, hquery, hfragment⟩

/-- What stands behind the scheme, without fragment and query. -/
theorem takeWhile_back (o : Origin) (hplain : Plain segments) {stop : Char}
    (hstop : stop = '?' ∨ stop = '#') :
    ('/' :: '/' :: (o.host.toList ++ pathChars segments)).takeWhile (· != stop) =
      '/' :: '/' :: (o.host.toList ++ pathChars segments) := by
  refine List.takeWhile_eq_self_iff.2 fun c hc => bne_iff_ne.2 ?_
  have hmem : c ∈ o.text.toList ++ pathChars segments := by
    rw [toList_text, List.append_assoc]
    exact List.mem_append_right _ (List.mem_cons_of_mem _ hc)
  obtain ⟨-, hquery, hfragment⟩ := o.visible_of_mem hplain hmem
  rcases hstop with rfl | rfl
  · exact hquery
  · exact hfragment

/-- The host begins behind all slashes. -/
theorem dropWhile_slashes (o : Origin) (rest : List Char) :
    ('/' :: '/' :: (o.host.toList ++ rest)).dropWhile
      (fun c => decide (c = '/') || decide (c = '\\')) = o.host.toList ++ rest := by
  obtain ⟨c, host, hhost⟩ := List.exists_cons_of_ne_nil o.host_ne_nil
  obtain ⟨-, hslash, hback, -⟩ := o.host_chars c (hhost ▸ List.mem_cons_self)
  simp [hhost, hslash, hback]

/-- The host goes up to the first slash behind it. -/
theorem takeWhile_host (o : Origin) (hne : segments ≠ []) :
    (o.host.toList ++ pathChars segments).takeWhile
      (fun c => !(decide (c = '/') || decide (c = '\\'))) = o.host.toList := by
  obtain ⟨s, rest, rfl⟩ := List.exists_cons_of_ne_nil hne
  rw [List.takeWhile_append_of_pos]
  · simp [pathChars]
  · intro c hc
    obtain ⟨-, hslash, hback, -⟩ := o.host_chars c hc
    simp [hslash, hback]

/-- **An address below an origin is read as it stands**, except that the dots of its path are
resolved. -/
theorem read?_append (o : Origin) (hplain : Plain segments) (hne : segments ≠ []) :
    Url.read? (o.text ++ String.ofList (pathChars segments)) =
      some ⟨o.scheme, some o.authority, Url.pathOf (pathChars segments), none, none⟩ := by
  have hall : (o.text ++ String.ofList (pathChars segments)).toList =
      o.text.toList ++ pathChars segments := by
    rw [String.toList_append, String.toList_ofList]
  have hchars (c : Char) (hc : c ∈ o.text.toList ++ pathChars segments) : 0x20 < c.toNat :=
    (o.visible_of_mem hplain hc).1
  have hsplit : o.text.toList ++ pathChars segments =
      o.scheme.toList ++ ':' :: '/' :: '/' :: (o.host.toList ++ pathChars segments) := by
    rw [toList_text, List.append_assoc]
    rfl
  have hfragment := o.takeWhile_back hplain (.inr rfl)
  have hquery := o.takeWhile_back hplain (.inl rfl)
  have hslashes := o.dropWhile_slashes (pathChars segments)
  have hhost := o.takeWhile_host hne
  generalize hback : '/' :: '/' :: (o.host.toList ++ pathChars segments) = back at *
  generalize hcs : o.text.toList ++ pathChars segments = cs at *
  -- nothing is trimmed at the ends, and nothing is left out in between
  have hfront : cs.dropWhile (fun c => decide (c.toNat ≤ 0x20)) = cs := dropWhile_glyphs hchars
  have hend : cs.reverse.dropWhile (fun c => decide (c.toNat ≤ 0x20)) = cs.reverse :=
    dropWhile_glyphs fun c hc => hchars c (List.mem_reverse.1 hc)
  have hbreaks : cs.filter
      (fun c => !(decide (c = '\t') || decide (c = '\n') || decide (c = '\r'))) = cs := by
    refine List.filter_eq_self.2 fun c hc => ?_
    have hlow := hchars c hc
    have hbreak (b : Char) (hb : b.toNat ≤ 0x20) : c ≠ b := by
      rintro rfl
      omega
    simp [hbreak '\t' (by decide), hbreak '\n' (by decide), hbreak '\r' (by decide)]
  have hscheme : cs.takeWhile Url.isSchemeChar = o.scheme.toList := by
    rcases o.scheme_eq with hs | hs <;> rw [hsplit, hs] <;> rfl
  have hrest : cs.drop o.scheme.toList.length = ':' :: back := by
    rw [hsplit, List.drop_left]
  have hhead : (!(o.scheme.toList.head?.any Char.isAlpha) ||
      (':' :: back).head? != some ':') = false := by
    rcases o.scheme_eq with hs | hs <;> rw [hs] <;> rfl
  have hlower : String.ofList (o.scheme.toList.map Char.toLower) = o.scheme := by
    rcases o.scheme_eq with hs | hs <;> rw [hs] <;> rfl
  have hport : (Url.schemePort? o.scheme).isSome = true := by
    rcases o.scheme_eq with hs | hs <;> rw [hs] <;> rfl
  unfold Url.read?
  simp only [hall, hfront, hend, List.reverse_reverse, hbreaks, hscheme, hrest, hhead, hlower,
    Bool.false_eq_true, if_false, List.drop_one, List.tail_cons, hfragment, hquery,
    List.drop_length, hport, if_true, hslashes, hhost, List.drop_left, o.authority_eq]
  rfl

end Reading

end Origin

end Http

end GatewayDirectory
