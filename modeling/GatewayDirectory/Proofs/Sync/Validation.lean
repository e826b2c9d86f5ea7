import GatewayDirectory.Sync.Credential
import Mathlib.Data.List.Induction
import Mathlib.Data.List.Nodup

/-!
# Which credentials are valid

A list of credentials is read clause by clause in the order in which it is written: of each
credential the role, the region and the rename targets of its allow-list (`Clause.ofCredentials`). A
clause offends if it leaves a field empty or repeats a target of a clause before it
(`Clause.Offends`). The check carries the targets declared so far, each with the entry that declared
it first (`Clause.Notes`), so that it stops at the first offence (`validate_eq_error_iff`). There is
none exactly if every field is given and all targets differ (`validate_eq_ok_iff`).
-/

namespace GatewayDirectory.Sync

/-- A clause of a list of credentials: a field of the credential with that number, or a rename
target with the entry that declares it. -/
inductive Clause where
  | field (index : Nat) (name text : String)
  | rename (owner target : String)
deriving DecidableEq, Inhabited

namespace Clause

/-- The rename targets that an allow-list declares, in the order of its names. -/
def ofEntries (role : String) (entries : List (String × RenameSpec)) : List Clause :=
  entries.filterMap fun x => x.2.target.map (.rename (role ++ "/" ++ x.1))

/-- The clauses of the credential with that number. -/
def ofCredential (index : Nat) (c : Credential) : List Clause :=
  .field index "role_arn" c.role :: .field index "region" c.region ::
    ofEntries c.role c.only.toList

/-- The clauses of the credentials from number `index` on. -/
def ofCredentials (index : Nat) (credentials : List Credential) : List Clause :=
  (credentials.zipIdx index).flatMap fun x => ofCredential x.2 x.1

/-- The clauses of the first credential stand before those of the rest. -/
theorem ofCredentials_cons (index : Nat) (c : Credential) (rest : List Credential) :
    ofCredentials index (c :: rest) = ofCredential index c ++ ofCredentials (index + 1) rest :=
  rfl

/-- Among clauses, a target is declared and the first to do so is that entry. -/
def Declares (clauses : List Clause) (target first : String) : Prop :=
  ∃ before, before ++ [.rename first target] <+: clauses ∧ ∀ owner, .rename owner target ∉ before

/-- A clause is refused after others: it leaves a field empty or repeats a target. -/
inductive Offends (before : List Clause) : Clause → ConfigError → Prop where
  | field (index : Nat) (name : String) :
      Offends before (.field index name "") (.missingField index name)
  | rename {target first : String} (second : String) (h : Declares before target first) :
      Offends before (.rename second target) (.duplicateRename target first second)

/-- No clause offends. -/
def Faultless (clauses : List Clause) : Prop :=
  ∀ before clause e, before ++ [clause] <+: clauses → ¬ Offends before clause e

/-- The first clause that offends is refused with that error. -/
def FirstOffence (clauses : List Clause) (e : ConfigError) : Prop :=
  ∃ before clause, before ++ [clause] <+: clauses ∧ Faultless before ∧ Offends before clause e

/-! ## The check goes through the clauses -/

/-- Checks a clause, given the targets declared before. -/
def check (taken : Table String) : Clause → Except ConfigError (Table String)
  | .field index name text => if text = "" then .error (.missingField index name) else .ok taken
  | .rename owner target =>
    match taken.get? target with
    | some first => .error (.duplicateRename target first owner)
    | none => .ok (taken.insert target owner)

/-- Checks clauses in turn. -/
def checkAll (taken : Table String) (clauses : List Clause) : Except ConfigError (Table String) :=
  clauses.foldlM check taken

/-- Clauses are checked from what the clauses before them left, unless one of these is refused. -/
theorem checkAll_append (taken : Table String) (clauses more : List Clause) :
    checkAll taken (clauses ++ more) =
      match checkAll taken clauses with
      | .error e => .error e
      | .ok taken => checkAll taken more := by
  rw [checkAll, List.foldlM_append, ← checkAll]
  cases checkAll taken clauses <;> rfl

/-- The first clause decides with what the rest is checked, or refuses the list. -/
theorem checkAll_cons (taken : Table String) (clause : Clause) (rest : List Clause) :
    checkAll taken (clause :: rest) =
      match check taken clause with
      | .error e => .error e
      | .ok taken => checkAll taken rest := by
  rw [checkAll, List.foldlM_cons]
  cases check taken clause <;> rfl

/-- The targets of an allow-list are claimed as its clauses are checked. -/
theorem claimTargets_eq (role : String) (entries : List (String × RenameSpec))
    (taken : Table String) :
    claimTargets role entries taken = checkAll taken (ofEntries role entries) := by
  induction entries generalizing taken with
  | nil => rfl
  | cons head rest ih =>
    obtain ⟨name, spec⟩ := head
    rw [claimTargets, ofEntries, List.filterMap_cons]
    cases spec.target with
    | none => exact ih taken
    | some target =>
      simp only [Option.map_some, checkAll_cons, check]
      cases taken.get? target with
      | some first => rfl
      | none => exact ih _

/-- **A list of credentials is checked clause by clause.** -/
theorem validateFrom_eq (index : Nat) (credentials : List Credential) (taken : Table String) :
    validateFrom index credentials taken =
      (checkAll taken (ofCredentials index credentials)).map fun _ => () := by
  induction credentials generalizing index taken with
  | nil => rfl
  | cons c rest ih =>
    rw [validateFrom, ofCredentials_cons, ofCredential, List.cons_append, checkAll_cons, check]
    -- the role comes before the region, and both before the allow-list
    by_cases hrole : c.role = ""
    · rw [if_pos hrole, if_pos hrole]
      rfl
    · rw [if_neg hrole, if_neg hrole]
      dsimp only
      rw [List.cons_append, checkAll_cons, check]
      by_cases hregion : c.region = ""
      · rw [if_pos hregion, if_pos hregion]
        rfl
      · rw [if_neg hregion, if_neg hregion]
        dsimp only
        rw [checkAll_append, claimTargets_eq]
        cases checkAll taken (ofEntries c.role c.only.toList) with
        | error e => rfl
        | ok taken => exact ih (index + 1) taken

/-! ## What the check knows -/

variable {taken taken' : Table String} {before clauses : List Clause} {clause : Clause}
  {e : ConfigError} {target first : String}

/-- The first to declare a target is still the first when a clause follows. -/
theorem declares_concat : Declares (before ++ [clause]) target first ↔
    Declares before target first ∨
      (clause = .rename first target ∧ ∀ owner, .rename owner target ∉ before) := by
  constructor
  · rintro ⟨earlier, hpre, hnone⟩
    rw [List.prefix_concat_iff, List.append_singleton_inj] at hpre
    -- the declaration is the last clause, or stands before it
    rcases hpre with ⟨rfl, hclause⟩ | hpre
    · exact .inr ⟨hclause.symm, hnone⟩
    · exact .inl ⟨earlier, hpre, hnone⟩
  · rintro (⟨earlier, hpre, hnone⟩ | ⟨rfl, hnone⟩)
    · exact ⟨earlier, List.prefix_concat_iff.2 (.inr hpre), hnone⟩
    · exact ⟨before, List.prefix_rfl, hnone⟩

/-- A target that some clause declares has a first one that does. -/
theorem exists_declares_iff :
    (∃ first, Declares clauses target first) ↔ ∃ owner, .rename owner target ∈ clauses := by
  -- from the back: a clause that is added never displaces the first to declare a target
  induction clauses using List.reverseRecOn with
  | nil =>
    refine iff_of_false ?_ (by simp)
    rintro ⟨first, before, hpre, -⟩
    simp at hpre
  | append_singleton before clause ih =>
    simp only [declares_concat, exists_or, List.mem_append, List.mem_singleton, ih]
    by_cases hearlier : ∃ owner, .rename owner target ∈ before
    · exact iff_of_true (.inl hearlier) (.inl hearlier)
    · have hnone (owner : String) : .rename owner target ∉ before :=
        fun hmem => hearlier ⟨owner, hmem⟩
      simp only [hnone, not_false_eq_true, implies_true, and_true, eq_comm]

/-- The targets declared so far are taken, each by the entry that declared it first. -/
def Notes (taken : Table String) (before : List Clause) : Prop :=
  ∀ target first, taken.get? target = some first ↔ Declares before target first

/-- A target is free exactly if no clause declares it. -/
theorem Notes.get?_eq_none_iff (h : Notes taken before) :
    taken.get? target = none ↔ ∀ owner, .rename owner target ∉ before := by
  rw [Option.eq_none_iff_forall_ne_some, ← not_exists, ← not_exists, ← exists_declares_iff]
  simp only [h target]

/-- **A clause is refused exactly if it offends**, and with that error. -/
theorem Notes.check_eq_error_iff (h : Notes taken before) :
    check taken clause = .error e ↔ Offends before clause e := by
  constructor
  · intro hcheck
    -- a field offends by itself, a rename by what the table knows of those before it
    cases clause with
    | field index name text =>
      rw [check] at hcheck
      split at hcheck
      · rename_i htext
        cases hcheck
        exact htext ▸ .field index name
      · cases hcheck
    | rename owner target =>
      rw [check] at hcheck
      split at hcheck
      · rename_i first hfirst
        cases hcheck
        exact .rename owner ((h target first).1 hfirst)
      · cases hcheck
  · rintro (⟨index, name⟩ | ⟨owner, hfirst⟩)
    · rfl
    · rw [check, (h _ _).2 hfirst]

/-- **What a clause declares that is not refused is noted.** -/
theorem Notes.concat (h : Notes taken before) (hcheck : check taken clause = .ok taken') :
    Notes taken' (before ++ [clause]) := by
  intro target first
  rw [declares_concat]
  cases clause with
  | field index name text =>
    rw [check] at hcheck
    split at hcheck
    · cases hcheck
    · cases hcheck
      rw [h target first]
      exact ⟨.inl, fun hor => hor.resolve_right nofun⟩
  | rename owner other =>
    rw [check] at hcheck
    split at hcheck
    · cases hcheck
    · rename_i hfree
      cases hcheck
      rw [Table.get?_insert, ← h target first]
      by_cases heq : other = target
      · -- nobody declared this target before, so its owner is the first
        subst heq
        rw [if_pos rfl, hfree]
        simp [h.get?_eq_none_iff.1 hfree]
      · -- another target is left as it was noted
        rw [if_neg heq]
        exact ⟨.inl, fun hor => hor.resolve_right fun ⟨hclause, _⟩ =>
          heq (Clause.rename.inj hclause).2⟩

/-! ## Offences -/

/-- Clauses are faultless with one more if that one does not offend after them. -/
theorem faultless_concat : Faultless (before ++ [clause]) ↔
    Faultless before ∧ ∀ e, ¬ Offends before clause e := by
  constructor
  · intro h
    -- a prefix of the clauses before is one of all of them
    refine ⟨fun earlier other e hpre => ?_, fun e => h before clause e List.prefix_rfl⟩
    exact h earlier other e (List.prefix_concat_iff.2 (.inr hpre))
  · rintro ⟨hbefore, hclause⟩ earlier other e hpre
    rw [List.prefix_concat_iff, List.append_singleton_inj] at hpre
    rcases hpre with ⟨rfl, rfl⟩ | hpre
    · exact hclause e
    · exact hbefore earlier other e hpre

/-- Clauses with a first offence are not faultless. -/
theorem FirstOffence.not_faultless (h : FirstOffence clauses e) : ¬ Faultless clauses := by
  obtain ⟨before, clause, hpre, -, hoffends⟩ := h
  exact fun hfaultless => hfaultless before clause e hpre hoffends

/-- **The check notes every target or stops at the first offence.** -/
theorem checkAll_ends (clauses : List Clause) :
    (Faultless clauses ∧ ∃ taken, checkAll .empty clauses = .ok taken ∧ Notes taken clauses) ∨
      ∃ e, FirstOffence clauses e ∧ checkAll .empty clauses = .error e := by
  -- what is noted of the clauses so far decides the one that comes next
  induction clauses using List.reverseRecOn with
  | nil =>
    refine .inl ⟨fun before clause e hpre => ?_, .empty, rfl, fun target first => ?_⟩
    · simp at hpre
    · refine iff_of_false nofun ?_
      rintro ⟨before, hpre, -⟩
      simp at hpre
  | append_singleton before clause ih =>
    rw [checkAll_append]
    -- the clauses before this one are all noted, or hold the first offence already
    rcases ih with ⟨hfaultless, taken, htaken, hnotes⟩ | ⟨e, ⟨earlier, other, hpre, hoffence⟩, he⟩
    · rw [htaken]
      dsimp only
      rw [checkAll_cons]
      cases hcheck : check taken clause with
      | error e =>
        have hoffends := hnotes.check_eq_error_iff.1 hcheck
        exact .inr ⟨e, ⟨before, clause, List.prefix_rfl, hfaultless, hoffends⟩, rfl⟩
      | ok taken' =>
        refine .inl ⟨faultless_concat.2 ⟨hfaultless, fun e hoffends => ?_⟩, taken', rfl,
          hnotes.concat hcheck⟩
        rw [hnotes.check_eq_error_iff.2 hoffends] at hcheck
        cases hcheck
    · rw [he]
      exact .inr ⟨e, ⟨earlier, other, List.prefix_concat_iff.2 (.inr hpre), hoffence⟩, rfl⟩

/-- **Clauses are refused with the error of the first that offends.** -/
theorem checkAll_eq_error_iff : checkAll .empty clauses = .error e ↔ FirstOffence clauses e := by
  constructor
  · intro hcheck
    rcases checkAll_ends clauses with ⟨-, taken, htaken, -⟩ | ⟨e', hfirst, he⟩
    · rw [htaken] at hcheck
      cases hcheck
    · rw [he] at hcheck
      cases hcheck
      exact hfirst
  · rintro ⟨before, clause, ⟨rest, rfl⟩, hfaultless, hoffends⟩
    -- the check gets as far as the offence, and what follows it is not looked at
    rcases checkAll_ends before with ⟨-, taken, htaken, hnotes⟩ | ⟨e', hfirst, -⟩
    · rw [List.append_assoc, checkAll_append, htaken]
      dsimp only
      rw [List.singleton_append, checkAll_cons, hnotes.check_eq_error_iff.2 hoffends]
    · exact absurd hfaultless hfirst.not_faultless

/-- **Clauses pass exactly if none offends.** -/
theorem exists_checkAll_eq_ok_iff :
    (∃ taken, checkAll .empty clauses = .ok taken) ↔ Faultless clauses := by
  rcases checkAll_ends clauses with ⟨hfaultless, taken, htaken, -⟩ | ⟨e, hfirst, he⟩
  · exact iff_of_true ⟨taken, htaken⟩ hfaultless
  · refine iff_of_false ?_ hfirst.not_faultless
    rintro ⟨taken, htaken⟩
    rw [he] at htaken
    cases htaken

/-! ## Clauses without an offence -/

/-- A field that is not left empty. -/
def IsGiven : Clause → Prop
  | .field _ _ text => text ≠ ""
  | .rename _ _ => True

/-- The rename target that a clause declares. -/
def target? : Clause → Option String
  | .field _ _ _ => none
  | .rename _ target => some target

/-- The targets are those that some entry declares. -/
theorem mem_targets_iff : target ∈ clauses.filterMap target? ↔
    ∃ owner, .rename owner target ∈ clauses := by
  rw [List.mem_filterMap]
  constructor
  · rintro ⟨clause, hmem, htarget⟩
    cases clause with
    | field => cases htarget
    | rename owner other =>
      cases htarget
      exact ⟨owner, hmem⟩
  · rintro ⟨owner, hmem⟩
    exact ⟨_, hmem, rfl⟩

/-- A clause does not offend if it is given and its target is new. -/
theorem not_offends_iff : (∀ e, ¬ Offends before clause e) ↔ clause.IsGiven ∧
    ∀ target, clause.target? = some target → target ∉ before.filterMap target? := by
  cases clause with
  | field index name text =>
    refine ⟨fun h => ⟨?_, nofun⟩, fun h e hoffends => ?_⟩
    · rintro rfl
      exact h _ (.field index name)
    · cases hoffends
      exact h.1 rfl
  | rename owner target =>
    refine ⟨fun h => ⟨trivial, ?_⟩, fun h e hoffends => ?_⟩
    · rintro _ ⟨⟩ hmem
      obtain ⟨first, hfirst⟩ := exists_declares_iff.2 (mem_targets_iff.1 hmem)
      exact h _ (.rename owner hfirst)
    · cases hoffends with
      | rename _ hfirst =>
        exact h.2 target rfl (mem_targets_iff.2 (exists_declares_iff.1 ⟨_, hfirst⟩))

/-- **No clause offends exactly if every field is given and all targets differ.** -/
theorem faultless_iff : Faultless clauses ↔
    (∀ clause ∈ clauses, clause.IsGiven) ∧ (clauses.filterMap target?).Nodup := by
  induction clauses using List.reverseRecOn with
  | nil =>
    refine iff_of_true (fun before clause e hpre => ?_) ⟨nofun, List.nodup_nil⟩
    simp at hpre
  | append_singleton before clause ih =>
    -- the targets stay distinct exactly if the one of the new clause is new
    have htargets : (before.filterMap target? ++ [clause].filterMap target?).Nodup ↔
        (before.filterMap target?).Nodup ∧
          ∀ target, clause.target? = some target → target ∉ before.filterMap target? := by
      cases clause with
      | field index name text =>
        have hnone : [field index name text].filterMap target? = [] := rfl
        rw [hnone, List.append_nil]
        exact (and_iff_left nofun).symm
      | rename owner target =>
        have hone : [rename owner target].filterMap target? = [target] := rfl
        rw [hone, ← List.concat_eq_append, List.nodup_concat, and_comm]
        simp only [target?, Option.some.injEq, forall_eq']
    rw [faultless_concat, ih, not_offends_iff, List.filterMap_append, htargets,
      List.forall_mem_append, List.forall_mem_singleton]
    exact and_and_and_comm

end Clause

/-! ## Credentials -/

/-- The rename targets that the allow-lists of all credentials give. -/
def targets (credentials : List Credential) : List String :=
  ((credentials.flatMap (·.only.values)).filterMap (·.rename)).filter (· != "")

namespace Clause

/-- The clauses of an allow-list declare its rename targets that are not empty. -/
theorem targets_ofEntries (role : String) (entries : List (String × RenameSpec)) :
    (ofEntries role entries).filterMap target? =
      ((entries.map (·.2)).filterMap (·.rename)).filter (· != "") := by
  rw [ofEntries, List.filterMap_filterMap, List.filter_filterMap, List.filterMap_map]
  refine List.filterMap_congr fun x _ => ?_
  rw [Option.bind_map]
  exact Option.bind_fun_some x.2.target

/-- The clauses of a list of credentials declare its rename targets. -/
theorem targets_ofCredentials (index : Nat) (credentials : List Credential) :
    (ofCredentials index credentials).filterMap target? = targets credentials := by
  induction credentials generalizing index with
  | nil => rfl
  | cons c rest ih =>
    have hrest : targets (c :: rest) =
        ((c.only.values.filterMap (·.rename)).filter (· != "")) ++ targets rest := by
      rw [targets, List.flatMap_cons, List.filterMap_append, List.filter_append]
      rfl
    rw [ofCredentials_cons, List.filterMap_append, ih, hrest]
    exact congrArg (· ++ _) (targets_ofEntries c.role c.only.toList)

/-- The clauses of a list are given exactly if its roles and regions are. -/
theorem forall_isGiven_iff (index : Nat) (credentials : List Credential) :
    (∀ clause ∈ ofCredentials index credentials, clause.IsGiven) ↔
      ∀ c ∈ credentials, c.role ≠ "" ∧ c.region ≠ "" := by
  induction credentials generalizing index with
  | nil => exact iff_of_true nofun nofun
  | cons c rest ih =>
    -- the entries of an allow-list give renames alone, and these leave no field empty
    have hentries : ∀ clause ∈ ofEntries c.role c.only.toList, clause.IsGiven := by
      intro clause hmem
      obtain ⟨x, -, hx⟩ := List.mem_filterMap.1 hmem
      obtain ⟨target, -, rfl⟩ := Option.map_eq_some_iff.1 hx
      trivial
    rw [ofCredentials_cons, List.forall_mem_append, ih, ofCredential, List.forall_mem_cons,
      List.forall_mem_cons, List.forall_mem_cons, and_iff_left hentries]
    exact Iff.rfl

end Clause

/-- **A list of credentials is valid exactly if every role and every region is given and all rename
targets differ.** -/
theorem validate_eq_ok_iff (credentials : List Credential) : validate credentials = .ok () ↔
    (∀ c ∈ credentials, c.role ≠ "" ∧ c.region ≠ "") ∧ (targets credentials).Nodup := by
  rw [← Clause.forall_isGiven_iff 0, ← Clause.targets_ofCredentials 0, ← Clause.faultless_iff,
    ← Clause.exists_checkAll_eq_ok_iff, validate, Clause.validateFrom_eq]
  cases Clause.checkAll .empty (Clause.ofCredentials 0 credentials) with
  | error e => exact iff_of_false nofun nofun
  | ok taken => exact iff_of_true rfl ⟨taken, rfl⟩

/-- **A list of credentials is refused with the error of its first offence.** -/
theorem validate_eq_error_iff (credentials : List Credential) (e : ConfigError) :
    validate credentials = .error e ↔
      Clause.FirstOffence (Clause.ofCredentials 0 credentials) e := by
  rw [← Clause.checkAll_eq_error_iff, validate, Clause.validateFrom_eq]
  cases Clause.checkAll .empty (Clause.ofCredentials 0 credentials) with
  | error e' => simp only [Except.map, Except.error.injEq]
  | ok taken => exact iff_of_false nofun nofun

/-- **The check of credentials is exact.** A list of credentials is valid if every role and every
region is given and all rename targets differ, and only then; any other is refused with the error of
the first offence in the order in which it is written. -/
theorem validate_tells_first_offence (credentials : List Credential) :
    (validate credentials = .ok () ↔
      (∀ c ∈ credentials, c.role ≠ "" ∧ c.region ≠ "") ∧ (targets credentials).Nodup) ∧
    ∀ e, validate credentials = .error e ↔
      Clause.FirstOffence (Clause.ofCredentials 0 credentials) e :=
  ⟨validate_eq_ok_iff credentials, validate_eq_error_iff credentials⟩

/-- The target that the second credential repeats is told before the region that the third lacks. -/
example :
    validate [⟨"r", "eu", none, none, .ofList [("a", ⟨some "x", none⟩), ("b", ⟨some "", none⟩)]⟩,
      ⟨"s", "eu", none, none, .ofList [("b", ⟨some "", none⟩), ("c", ⟨some "x", none⟩)]⟩,
      ⟨"t", "", none, none, .empty⟩] = .error (.duplicateRename "x" "r/a" "s/c") := by
  decide +kernel

end GatewayDirectory.Sync
