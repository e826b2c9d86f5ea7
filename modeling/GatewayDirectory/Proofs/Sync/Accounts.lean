import GatewayDirectory.Proofs.Text.Pieces
import GatewayDirectory.Sync.Account
import GatewayDirectory.Sync.Pipeline

/-!
# Accounts and the keys that begin with them

An `Arn` is a resource name in its six parts, of which the last may hold further colons and the
region may be empty. No two of them have one text (`Arn.text_inj`), and an account is read from
exactly the texts that they have (`account_read_exactly`). So an account holds no colon, and a key,
in which nothing is escaped, tells the account that it begins with. Whether it tells the region and
the name as well depends on the colons that the region holds (`keys_collide_iff`).
-/

namespace GatewayDirectory.Sync

open Text

/-! ## Resource names -/

/-- A resource name in parts, `arn:partition:service:region:account:resource`. -/
@[ext]
structure Arn where
  partition : String
  service : String
  region : String
  account : String
  resource : String
  /-- Only the resource may hold colons. -/
  separate : ∀ field ∈ [partition, service, region, account], ':' ∉ field.toList
  /-- Only the region may be empty. -/
  full : ∀ field ∈ [partition, service, account, resource], field ≠ ""

namespace Arn

/-- The parts, separated by colons. -/
def text (n : Arn) : String :=
  "arn:" ++ n.partition ++ ":" ++ n.service ++ ":" ++ n.region ++ ":" ++ n.account ++ ":" ++
    n.resource

/-- The account is none of the parts that may hold a colon or be empty. -/
theorem account_spec (n : Arn) : n.account ≠ "" ∧ ':' ∉ n.account.toList :=
  ⟨n.full _ (by simp), n.separate _ (by simp)⟩

/-- The letters of a resource name, field by field. -/
theorem toList_text (n : Arn) : n.text.toList =
    ['a', 'r', 'n'] ++ ':' :: (n.partition.toList ++ ':' :: (n.service.toList ++ ':' ::
      (n.region.toList ++ ':' :: (n.account.toList ++ ':' :: n.resource.toList)))) := by
  simp [text]

/-- **The first five pieces of a resource name are its fields.** What the resource falls into does
not matter to them. -/
theorem splitAt_text (n : Arn) : splitAt ':' n.text.toList =
    ['a', 'r', 'n'] :: n.partition.toList :: n.service.toList :: n.region.toList ::
      n.account.toList :: splitAt ':' n.resource.toList := by
  -- each field is taken off at its colon, as it holds none itself
  rw [toList_text, splitAt_append (by decide), splitAt_append (n.separate _ (by simp)),
    splitAt_append (n.separate _ (by simp)), splitAt_append (n.separate _ (by simp)),
    splitAt_append (n.separate _ (by simp))]

/-- **A text is a resource name in one way at most.** -/
theorem text_inj {m n : Arn} : m.text = n.text ↔ m = n := by
  constructor
  · intro h
    have hpieces := congrArg (fun text : String => splitAt ':' text.toList) h
    simp only [splitAt_text, List.cons.injEq, String.toList_inj, true_and] at hpieces
    obtain ⟨hpartition, hservice, hregion, haccount, -⟩ := hpieces
    -- the resource is what is left of the text behind the other fields
    have hresource : m.resource = n.resource := by
      simpa [text, hpartition, hservice, hregion, haccount] using h
    exact Arn.ext hpartition hservice hregion haccount hresource
  · rintro rfl
    rfl

end Arn

/-! ## Reading the account -/

section Reading

variable {s a : String}

/-- The account of a resource name is read from its text. -/
theorem accountOfArn_text (n : Arn) : accountOfArn n.text = .ok n.account := by
  have hpartition : n.partition ≠ "" := n.full _ (by simp)
  have hservice : n.service ≠ "" := n.full _ (by simp)
  have hresource : n.resource ≠ "" := n.full _ (by simp)
  obtain ⟨piece, more, hpieces⟩ :=
    List.exists_cons_of_ne_nil (splitAt_ne_nil ':' n.resource.toList)
  -- the resource is not empty, though its first piece may be
  have hpiece : piece ≠ [] ∨ more ≠ [] := by
    by_cases hempty : piece = []
    · right
      rintro rfl
      rw [hempty, splitAt_eq_nil_piece_iff] at hpieces
      exact hresource (String.toList_eq_nil_iff.1 hpieces)
    · exact .inl hempty
  rw [accountOfArn, n.splitAt_text, hpieces]
  simp [hpartition, hservice, n.account_spec.1, hpiece]

/-- A text from which an account is read is that of a resource name with that account. -/
theorem exists_arn_of_accountOfArn (h : accountOfArn s = .ok a) :
    ∃ n : Arn, n.text = s ∧ n.account = a := by
  unfold accountOfArn at h
  split at h
  · rename_i scheme partition service region account resource more hpieces
    split at h
    · rename_i hfull
      obtain ⟨rfl, hpartition, hservice, haccount, hresource⟩ := hfull
      -- the pieces are taken off the text one by one, and the resource is what they leave
      obtain ⟨-, _, htext, h₁⟩ := splitAt_eq_cons_cons_iff.1 hpieces
      obtain ⟨hp, _, rfl, h₂⟩ := splitAt_eq_cons_cons_iff.1 h₁
      obtain ⟨hs, _, rfl, h₃⟩ := splitAt_eq_cons_cons_iff.1 h₂
      obtain ⟨hr, _, rfl, h₄⟩ := splitAt_eq_cons_cons_iff.1 h₃
      obtain ⟨ha, rest, rfl, h₅⟩ := splitAt_eq_cons_cons_iff.1 h₄
      -- an empty rest would be one empty piece, which the check for the resource excludes
      have hrest : rest ≠ [] := by
        rintro rfl
        obtain ⟨rfl, rfl⟩ := List.cons.inj h₅
        simp at hresource
      refine ⟨⟨.ofList partition, .ofList service, .ofList region, .ofList account, .ofList rest,
        ?_, ?_⟩, ?_, Except.ok.inj h⟩
      · simp [hp, hs, hr, ha]
      · simp [hpartition, hservice, haccount, hrest]
      · rw [← String.toList_inj, Arn.toList_text, htext]
        simp
    · cases h
  · cases h

/-- Where no account is read, the text is reported as malformed. -/
theorem accountOfArn_cases (s : String) :
    (∃ a, accountOfArn s = .ok a) ∨ accountOfArn s = .error (.malformedArn s) := by
  unfold accountOfArn
  split
  · split
    · exact .inl ⟨_, rfl⟩
    · exact .inr rfl
  · exact .inr rfl

/-- **An account is read exactly from the resource names that have it.** -/
theorem accountOfArn_eq_ok_iff :
    accountOfArn s = .ok a ↔ ∃ n : Arn, n.text = s ∧ n.account = a := by
  constructor
  · exact exists_arn_of_accountOfArn
  · rintro ⟨n, rfl, rfl⟩
    exact accountOfArn_text n

/-- An account that is read is not empty and holds no colon. -/
theorem account_spec_of_read (h : accountOfArn s = .ok a) : a ≠ "" ∧ ':' ∉ a.toList := by
  obtain ⟨n, -, rfl⟩ := exists_arn_of_accountOfArn h
  exact n.account_spec

end Reading

/-- **An account is read from resource names and from nothing else.** The account `a` is read from a
text exactly when the text is that of a resource name whose account is `a`; no two resource names
have one text, and so the account is the only one. It is not empty and holds no colon. Every text
that no resource name has is reported as malformed. -/
theorem account_read_exactly (s : String) :
    (∀ a, accountOfArn s = .ok a ↔ ∃ n : Arn, n.text = s ∧ n.account = a) ∧
    (∀ m n : Arn, m.text = s → n.text = s → m = n) ∧
    (∀ a, accountOfArn s = .ok a → a ≠ "" ∧ ':' ∉ a.toList) ∧
    (accountOfArn s = .error (.malformedArn s) ↔ ∀ n : Arn, n.text ≠ s) := by
  refine ⟨fun a => accountOfArn_eq_ok_iff, ?_, fun a => account_spec_of_read, ?_⟩
  · intro m n hm hn
    exact Arn.text_inj.1 (hm.trans hn.symm)
  · constructor
    · rintro h n rfl
      rw [accountOfArn_text] at h
      cases h
    · intro h
      rcases accountOfArn_cases s with ⟨a, ha⟩ | herror
      · obtain ⟨n, hn, -⟩ := exists_arn_of_accountOfArn ha
        exact absurd hn (h n)
      · exact herror

/-- A resource name without a region whose resource holds colons and nothing but colons. -/
theorem account_read_past_colons :
    let n : Arn := ⟨"aws", "iam", "", "1", "::", by decide, by decide⟩
    n.text = "arn:aws:iam::1:::" ∧ accountOfArn "arn:aws:iam::1:::" = .ok "1" ∧
      ∀ m : Arn, m.text = "arn:aws:iam::1:::" → m = n := by
  intro n
  have htext : n.text = "arn:aws:iam::1:::" := by decide
  obtain ⟨hread, hunique, -, -⟩ := account_read_exactly "arn:aws:iam::1:::"
  exact ⟨htext, (hread "1").2 ⟨n, htext, rfl⟩, fun m hm => hunique m n hm htext⟩

/-! ## Keys -/

/-- The region `r'` goes on behind `r` with a colon and with what the name `n` begins with; the rest
of `n` is `n'`. -/
def Overlaps (r n r' n' : String) : Prop := ∃ cs : String, r' = r ++ ":" ++ cs ∧ n = cs ++ ":" ++ n'

section Keys

variable {s s' a a' r r' n n' : String}

/-- The letters of a key, part by part. -/
theorem toList_composeKey (a r n : String) :
    (composeKey a r n).toList = a.toList ++ ':' :: (r.toList ++ ':' :: n.toList) := by
  simp [composeKey]

/-- Regions overlap as their letters do. -/
theorem overlaps_iff : Overlaps r n r' n' ↔ ∃ cs : List Char,
    r'.toList = r.toList ++ ':' :: cs ∧ n.toList = cs ++ ':' :: n'.toList := by
  constructor
  · rintro ⟨cs, rfl, rfl⟩
    exact ⟨cs.toList, by simp, by simp⟩
  · rintro ⟨cs, hregion, hname⟩
    refine ⟨.ofList cs, ?_, ?_⟩
    · rw [← String.toList_inj, hregion]
      simp
    · rw [← String.toList_inj, hname]
      simp

/-- To overlap takes a colon in the longer region. -/
theorem Overlaps.colon_mem (h : Overlaps r n r' n') : ':' ∈ r'.toList := by
  obtain ⟨cs, rfl, -⟩ := h
  simp

/-- **Keys tell the accounts that they begin with**, if these hold no colons. -/
theorem composeKey_eq_iff (ha : ':' ∉ a.toList) (ha' : ':' ∉ a'.toList) :
    composeKey a r n = composeKey a' r' n' ↔
      a = a' ∧ (r = r' ∧ n = n' ∨ Overlaps r n r' n' ∨ Overlaps r' n' r n) := by
  rw [← String.toList_inj, toList_composeKey, toList_composeKey, append_cons_inj ha ha',
    append_cons_eq_append_cons_iff, overlaps_iff, overlaps_iff, String.toList_inj,
    String.toList_inj, String.toList_inj]

end Keys

/-- **When keys collide.** Two keys that begin with accounts read from resource names are equal
exactly when their accounts are equal and their regions and names are, or when one region goes on
behind the other with a colon and with what the other's name begins with. So keys of different
accounts are different; and where neither region holds a colon, a key tells its account, its region
and its name, whatever colons the names hold. -/
theorem keys_collide_iff (s s' a a' r r' n n' : String) (h : accountOfArn s = .ok a)
    (h' : accountOfArn s' = .ok a') :
    (composeKey a r n = composeKey a' r' n' ↔
      a = a' ∧ (r = r' ∧ n = n' ∨ Overlaps r n r' n' ∨ Overlaps r' n' r n)) ∧
    (composeKey a r n = composeKey a' r' n' → a = a') ∧
    (':' ∉ r.toList → ':' ∉ r'.toList → composeKey a r n = composeKey a' r' n' →
      r = r' ∧ n = n') := by
  have hiff : composeKey a r n = composeKey a' r' n' ↔ _ :=
    composeKey_eq_iff (account_spec_of_read h).2 (account_spec_of_read h').2
  refine ⟨hiff, fun heq => (hiff.1 heq).1, fun hr hr' heq => ?_⟩
  -- either region may be the longer one, and the longer one holds a colon
  rcases (hiff.1 heq).2 with hsame | hoverlap | hoverlap
  · exact hsame
  · exact absurd hoverlap.colon_mem hr'
  · exact absurd hoverlap.colon_mem hr

/-- Two roles of one account, whose resources hold colons. With a colon in a region their keys
collide; without one they do not, though the names are the same and hold colons. -/
theorem keys_collide_at_colon :
    accountOfArn "arn:aws:iam::1:role/a:b" = .ok "1" ∧
      accountOfArn "arn:aws:iam:eu:1:role/b" = .ok "1" ∧
      composeKey "1" "eu" "x:y" = composeKey "1" "eu:x" "y" ∧
      composeKey "1" "eu" "x:y" ≠ composeKey "1" "us" "x:y" := by
  have hread : accountOfArn "arn:aws:iam::1:role/a:b" = .ok "1" ∧
      accountOfArn "arn:aws:iam:eu:1:role/b" = .ok "1" := ⟨rfl, rfl⟩
  obtain ⟨hcollide, -, -⟩ := keys_collide_iff _ _ _ _ "eu" "eu:x" "x:y" "y" hread.1 hread.2
  obtain ⟨-, -, htell⟩ := keys_collide_iff _ _ _ _ "eu" "us" "x:y" "x:y" hread.1 hread.2
  refine ⟨hread.1, hread.2, hcollide.2 ⟨rfl, .inr (.inl ⟨"x", rfl, rfl⟩)⟩, fun heq => ?_⟩
  exact absurd (htell (by decide) (by decide) heq).1 (by decide)

end GatewayDirectory.Sync
