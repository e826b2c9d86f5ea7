import GatewayDirectory.Proofs.Timed.Limits
import GatewayDirectory.Sync.Cycle
import Mathlib.Data.Set.Finite.Lattice
import Mathlib.Logic.Relation
import Mathlib.Order.Monotone.Basic
import Mathlib.Order.Preorder.Finite

/-!
# When a scan ends

A scan follows the tokens of the pages that an inventory answers. `Walk` is the scan as a relation:
the tokens that are asked for, in order, and what is found. A scan is a walk if there is one
(`scanFrom_of_walk`), however much larger its budget is; without a walk it goes on for as long as
the budget lasts (`scanFrom_runsOn`). Of finitely many tokens there is no walk exactly when the
tokens lead back to one that was left before (`Cyclic`): only a page that names its own token ends
the scan as repeated, a longer cycle does not.
-/

namespace GatewayDirectory.Sync

open Relation

/-- What an inventory answers to each page token. -/
abbrev Answering := Option String → Except InventoryError Page

/-- Why a scan ends at a page that names its own token. -/
def repeatedToken (role token : String) : InventoryError :=
  .page role ("page token " ++ Text.quoted token ++ " repeated")

/-- A scan from one token on: the tokens that it asks for, and what it finds. -/
inductive Walk (role : String) (answer : Answering) :
    Option String → List (Option String) → Propagator.Scan → Prop
  /-- The page cannot be had. -/
  | failed {token : Option String} {e : InventoryError} (hanswer : answer token = .error e) :
    Walk role answer token [token] ⟨[], some e⟩
  /-- The page is the last one. -/
  | last {token : Option String} {page : Page} (hanswer : answer token = .ok page)
    (hnext : page.next = none) : Walk role answer token [token] ⟨page.items, none⟩
  /-- The page names its own token. -/
  | repeated {token : String} {page : Page} (hanswer : answer (some token) = .ok page)
    (hnext : page.next = some token) :
    Walk role answer (some token) [some token] ⟨page.items, some (repeatedToken role token)⟩
  /-- The page leads on to another token. -/
  | more {token : Option String} {page : Page} {next : String} {asked : List (Option String)}
    {found : Propagator.Scan} (hanswer : answer token = .ok page) (hnext : page.next = some next)
    (hne : token ≠ some next) (rest : Walk role answer (some next) asked found) :
    Walk role answer token (token :: asked) { found with items := page.items ++ found.items }

/-- The page of one token leads a scan on to another token. -/
def Leads (answer : Answering) (token next : Option String) : Prop :=
  ∃ page, answer token = .ok page ∧ page.next = next ∧ next ≠ none ∧ token ≠ next

/-- A scan comes back to a token that it has left. -/
def Cyclic (answer : Answering) : Prop :=
  ∃ token, ReflTransGen (Leads answer) none token ∧ TransGen (Leads answer) token token

/-! ## Walks and cycles -/

section Walks

variable {role : String} {answer : Answering} {token next : Option String}
  {asked : List (Option String)} {found : Propagator.Scan}

/-- A walk goes on as a shorter walk from the token that it is led to. -/
theorem Walk.of_leads (h : Walk role answer token asked found) (hleads : Leads answer token next) :
    ∃ rest found', asked = token :: rest ∧ Walk role answer next rest found' ∧
      found'.error = found.error := by
  obtain ⟨page, hanswer, hnext, hsome, hne⟩ := hleads
  cases h with
  | failed h =>
    rw [h] at hanswer
    cases hanswer
  | last h hnone =>
    rw [h] at hanswer
    cases hanswer
    exact absurd (hnext.symm.trans hnone) hsome
  | repeated h hself =>
    rw [h] at hanswer
    cases hanswer
    exact absurd (hself.symm.trans hnext) hne
  | more h hmore _ rest =>
    rw [h] at hanswer
    cases hanswer
    rw [hmore] at hnext
    subst hnext
    exact ⟨_, _, rfl, rest, rfl⟩

/-- A walk visits every token that it is led to, and what it ends with does not depend on where it
is joined. -/
theorem Walk.of_reaches (h : Walk role answer token asked found)
    (hreaches : ReflTransGen (Leads answer) token next) :
    ∃ rest found', Walk role answer next rest found' ∧ rest.length ≤ asked.length ∧
      found'.error = found.error := by
  induction hreaches with
  | refl => exact ⟨asked, found, h, Nat.le_refl _, rfl⟩
  | tail _ hleads ih =>
    obtain ⟨rest, found', hwalk, hlength, herror⟩ := ih
    obtain ⟨rest', found'', rfl, hwalk', herror'⟩ := hwalk.of_leads hleads
    rw [List.length_cons] at hlength
    exact ⟨rest', found'', hwalk', by omega, herror'.trans herror⟩

/-- A token that leads to a walk starts one, which ends in the same way. -/
theorem Walk.exists_of_reaches (h : Walk role answer next asked found)
    (hreaches : ReflTransGen (Leads answer) token next) :
    ∃ all found', Walk role answer token all found' ∧ found'.error = found.error := by
  induction hreaches using ReflTransGen.head_induction_on with
  | refl => exact ⟨asked, found, h, rfl⟩
  | head hleads _ ih =>
    obtain ⟨rest, found', hrest, herror⟩ := ih
    obtain ⟨page, hanswer, hnext, hsome, hne⟩ := hleads
    obtain ⟨name, rfl⟩ := Option.ne_none_iff_exists'.1 hsome
    exact ⟨_, _, .more hanswer hnext hne hrest, herror⟩

/-- **A walk never comes back to where it started.** -/
theorem Walk.not_transGen (h : Walk role answer token asked found) :
    ¬ TransGen (Leads answer) token token := by
  -- once around there would be a shorter walk from the same token
  induction hn : asked.length using Nat.strongRecOn generalizing asked found with
  | ind n ih =>
    intro hcycle
    obtain ⟨next, hleads, hback⟩ := TransGen.head'_iff.1 hcycle
    obtain ⟨rest, found', rfl, hrest, -⟩ := h.of_leads hleads
    obtain ⟨rest', found'', hwalk, hlength, -⟩ := hrest.of_reaches hback
    rw [List.length_cons] at hn
    exact ih rest'.length (by omega) hwalk rfl hcycle

/-- The tokens of a walk are those that its first one leads to. -/
theorem Walk.reaches_of_mem (h : Walk role answer token asked found) (hmem : next ∈ asked) :
    ReflTransGen (Leads answer) token next := by
  induction h with
  | failed | last | repeated =>
    obtain rfl := List.mem_singleton.1 hmem
    exact .refl
  | more hanswer hnext hne rest ih =>
    rcases List.mem_cons.1 hmem with rfl | hmem
    · exact .refl
    · exact .head ⟨_, hanswer, hnext, Option.some_ne_none _, hne⟩ (ih hmem)

/-- **No token is asked for twice.** -/
theorem Walk.nodup (h : Walk role answer token asked found) : asked.Nodup := by
  induction h with
  | failed | last | repeated => exact List.nodup_singleton _
  | more hanswer hnext hne rest ih =>
    refine List.nodup_cons.2 ⟨fun hmem => ?_, ih⟩
    have hleads : Leads answer _ _ := ⟨_, hanswer, hnext, Option.some_ne_none _, hne⟩
    exact (Walk.more hanswer hnext hne rest).not_transGen
      (TransGen.head' hleads (rest.reaches_of_mem hmem))

/-- Where no walk starts, the page leads on to a token where no walk starts either. -/
theorem exists_leads (h : ¬ ∃ asked found, Walk role answer token asked found) :
    ∃ next, Leads answer token next ∧ ¬ ∃ asked found, Walk role answer next asked found := by
  cases hanswer : answer token with
  | error e => exact absurd ⟨_, _, .failed hanswer⟩ h
  | ok page =>
    cases hnext : page.next with
    | none => exact absurd ⟨_, _, .last hanswer hnext⟩ h
    | some next =>
      by_cases hself : token = some next
      · subst hself
        exact absurd ⟨_, _, .repeated hanswer hnext⟩ h
      · refine ⟨some next, ⟨page, hanswer, hnext, Option.some_ne_none next, hself⟩, ?_⟩
        rintro ⟨asked, found, hwalk⟩
        exact h ⟨_, _, .more hanswer hnext hself hwalk⟩

/-- Without a walk the tokens lead on for ever. -/
theorem exists_path (h : ¬ ∃ asked found, Walk role answer token asked found) :
    ∃ path : Nat → Option String, path 0 = token ∧ ∀ n, Leads answer (path n) (path (n + 1)) := by
  choose! next hleads hnext using
    fun (token : Option String) (h : ¬ ∃ asked found, Walk role answer token asked found) =>
      exists_leads h
  refine ⟨fun n => next^[n] token, rfl, fun n => ?_⟩
  have hnone : ¬ ∃ asked found, Walk role answer (next^[n] token) asked found := by
    induction n with
    | zero => exact h
    | succ n ih =>
      rw [Function.iterate_succ_apply']
      exact hnext _ ih
  show Leads answer (next^[n] token) (next^[n + 1] token)
  rw [Function.iterate_succ_apply']
  exact hleads _ hnone

/-- **Of finitely many tokens there is a walk unless they are cyclic.** -/
theorem exists_walk_iff (role : String) {tokens : Finset String}
    (hfinite : ∀ token page next, answer token = .ok page → page.next = some next →
      next ∈ tokens) :
    (∃ asked found, Walk role answer none asked found) ↔ ¬ Cyclic answer := by
  constructor
  · rintro ⟨asked, found, hwalk⟩ ⟨token, hreaches, hcycle⟩
    obtain ⟨rest, found', hrest, -, -⟩ := hwalk.of_reaches hreaches
    exact hrest.not_transGen hcycle
  · intro hcyclic
    by_contra hnone
    obtain ⟨path, hstart, hleads⟩ := exists_path hnone
    -- there are too few tokens for a path of which none comes again
    have hmem (n : Nat) : path (n + 1) ∈ (tokens.image some : Set (Option String)) := by
      obtain ⟨page, hanswer, hpage, hsome, -⟩ := hleads n
      obtain ⟨token, htoken⟩ := Option.ne_none_iff_exists'.1 hsome
      rw [htoken]
      exact Finset.mem_coe.2 (Finset.mem_image_of_mem some
        (hfinite _ page token hanswer (hpage.trans htoken)))
    obtain ⟨m, n, hlt, heq⟩ :=
      Set.Finite.exists_lt_map_eq_of_forall_mem hmem (tokens.image some).finite_toSet
    have hreaches : ReflTransGen (Leads answer) none (path (m + 1)) := by
      rw [← hstart]
      exact Nat.rel_of_forall_rel_succ_of_le (ReflTransGen (Leads answer))
        (fun k => .single (hleads k)) (Nat.zero_le _)
    have hcycle : TransGen (Leads answer) (path (m + 1)) (path (n + 1)) :=
      Nat.rel_of_forall_rel_succ_of_lt (TransGen (Leads answer))
        (fun k => .single (hleads k)) (Nat.succ_lt_succ hlt)
    rw [← heq] at hcycle
    exact hcyclic ⟨_, hreaches, hcycle⟩

/-- A walk asks for one token more than there are at most. -/
theorem Walk.length_le (h : Walk role answer none asked found) {tokens : Finset String}
    (hfinite : ∀ token page next, answer token = .ok page → page.next = some next →
      next ∈ tokens) : asked.length ≤ tokens.card + 1 := by
  have hsubset : asked.toFinset ⊆ insert none (tokens.image some) := by
    intro token hmem
    have hreaches := h.reaches_of_mem (List.mem_toFinset.1 hmem)
    rcases ReflTransGen.cases_tail hreaches with rfl | ⟨before, -, page, hanswer, hpage, hsome, -⟩
    · exact Finset.mem_insert_self _ _
    · obtain ⟨next, rfl⟩ := Option.ne_none_iff_exists'.1 hsome
      exact Finset.mem_insert_of_mem
        (Finset.mem_image_of_mem some (hfinite _ page next hanswer hpage))
  calc asked.length = asked.toFinset.card := (List.toFinset_card_of_nodup h.nodup).symm
    _ ≤ (insert none (tokens.image some)).card := Finset.card_le_card hsubset
    _ ≤ (tokens.image some).card + 1 := Finset.card_insert_le _ _
    _ ≤ tokens.card + 1 := Nat.succ_le_succ Finset.card_image_le

end Walks

/-! ## Scans -/

section Scans

variable {σ : Type} {p : Propagator σ} {c : Credential} {answer : Answering}
  {note : Option String → σ → σ}

/-- The inventory of a propagator answers each call for a credential at once, and leaves a note of
it in the state. -/
def Serves (p : Propagator σ) (c : Credential) (answer : Answering)
    (note : Option String → σ → σ) : Prop :=
  ∀ token s, (p.inventory c token).Answers s (answer token) (note token s)

/-- The state after calls for some tokens. -/
def noted (note : Option String → σ → σ) (asked : List (Option String)) (s : σ) : σ :=
  asked.foldl (fun s token => note token s) s

/-- **A scan is a walk**, if its budget is large enough. -/
theorem scanFrom_of_walk (hserves : Serves p c answer note) {token : Option String}
    {asked : List (Option String)} {found : Propagator.Scan}
    (h : Walk c.role answer token asked found) {budget : Nat} (hbudget : asked.length ≤ budget)
    (s : σ) : (p.scanFrom c budget token).Answers s found (noted note asked s) := by
  induction h generalizing budget s with
  | @failed token e hanswer =>
    obtain ⟨budget, rfl⟩ := Nat.exists_eq_add_of_le' hbudget
    have hpage := (hserves token s).bounded p.options.callTimeout
    rw [hanswer] at hpage
    exact hpage.bind (.pure _ _)
  | @last token page hanswer hnext =>
    obtain ⟨budget, rfl⟩ := Nat.exists_eq_add_of_le' hbudget
    have hpage := (hserves token s).bounded p.options.callTimeout
    rw [hanswer] at hpage
    refine hpage.bind ?_
    simp only [hnext]
    exact .pure _ _
  | @repeated token page hanswer hnext =>
    obtain ⟨budget, rfl⟩ := Nat.exists_eq_add_of_le' hbudget
    have hpage := (hserves (some token) s).bounded p.options.callTimeout
    rw [hanswer] at hpage
    refine hpage.bind ?_
    simp only [hnext, if_true]
    exact .pure _ _
  | @more token page next asked found hanswer hnext hne rest ih =>
    obtain ⟨budget, rfl⟩ := Nat.exists_eq_add_of_le' hbudget
    have hpage := (hserves token s).bounded p.options.callTimeout
    rw [hanswer] at hpage
    refine hpage.bind ?_
    simp only [hnext, hne, if_false]
    exact (ih (Nat.le_of_succ_le_succ hbudget) (note token s)).bind (.pure _ _)

/-- **Without a walk a scan goes on** until its whole budget is used up. -/
theorem scanFrom_runsOn (hserves : Serves p c answer note) {token : Option String}
    (h : ¬ ∃ asked found, Walk c.role answer token asked found) (budget : Nat) :
    ∃ asked, asked.length = budget ∧
      ∀ s, (p.scanFrom c budget token).RunsOn s (noted note asked s) := by
  induction budget generalizing token with
  | zero => exact ⟨[], rfl, fun s t => ⟨[], rfl⟩⟩
  | succ budget ih =>
    obtain ⟨next, ⟨page, hanswer, hnext, hsome, hne⟩, hnone⟩ := exists_leads h
    obtain ⟨asked, hlength, hruns⟩ := ih hnone
    refine ⟨token :: asked, congrArg Nat.succ hlength, fun s => ?_⟩
    have hpage := (hserves token s).bounded p.options.callTimeout
    rw [hanswer] at hpage
    refine hpage.runsOn ?_
    obtain ⟨next, rfl⟩ := Option.ne_none_iff_exists'.1 hsome
    simp only [hnext, hne, if_false]
    exact (hruns (note token s)).bind

end Scans

/-- **When a scan ends.** Let an inventory answer each call for a credential at once, with a page or
an error that depends on the token alone, and let its pages name finitely many tokens. If the tokens
do not come back to one that was left, the scan ends as the walk does after at most one call more
than there are tokens; if they do, the scan makes as many calls as it is allowed to, however many
these are. A page that names its own token ends the scan with the error that says so. -/
theorem scan_ends_unless_cyclic {σ : Type} (p : Propagator σ) (c : Credential)
    (answer : Answering) (note : Option String → σ → σ) (tokens : Finset String)
    (hserves : ∀ token s, (p.inventory c token).Answers s (answer token) (note token s))
    (hfinite : ∀ token page next, answer token = .ok page → page.next = some next →
      next ∈ tokens) :
    let scan (budget : Nat) := ({ p with pageBudget := budget } : Propagator σ).scan c
    (¬ Cyclic answer → ∃ asked found, Walk c.role answer none asked found ∧
      asked.Nodup ∧ asked.length ≤ tokens.card + 1 ∧
      ∀ budget, asked.length ≤ budget → ∀ s, (scan budget).Answers s found (noted note asked s)) ∧
    (Cyclic answer → ∀ budget, ∃ asked, asked.length = budget ∧
      ∀ s, (scan budget).RunsOn s (noted note asked s)) ∧
    (∀ token page, ReflTransGen (Leads answer) none (some token) →
      answer (some token) = .ok page → page.next = some token →
      ∃ asked found, found.error = some (repeatedToken c.role token) ∧
        ∀ budget, asked.length ≤ budget → ∀ s,
          (scan budget).Answers s found (noted note asked s)) := by
  intro scan
  have hserves' (budget : Nat) :
      Serves ({ p with pageBudget := budget } : Propagator σ) c answer note := hserves
  refine ⟨fun hcyclic => ?_, fun hcyclic budget => ?_, fun token page hreaches hanswer hself => ?_⟩
  · obtain ⟨asked, found, hwalk⟩ := (exists_walk_iff c.role hfinite).2 hcyclic
    exact ⟨asked, found, hwalk, hwalk.nodup, hwalk.length_le hfinite, fun budget hbudget s =>
      scanFrom_of_walk (hserves' budget) hwalk hbudget s⟩
  · have hnone := fun hwalk => (exists_walk_iff c.role hfinite).1 hwalk hcyclic
    exact scanFrom_runsOn (hserves' budget) hnone budget
  · -- the walk at the page itself is the end of the one that leads there
    have hend : Walk c.role answer (some token) [some token] _ := .repeated hanswer hself
    obtain ⟨asked, found, hwalk, herror⟩ := hend.exists_of_reaches hreaches
    exact ⟨asked, found, herror, fun budget hbudget s =>
      scanFrom_of_walk (hserves' budget) hwalk hbudget s⟩

/-- Two sources over a list of the calls made: after the first page the token `a` leads on to
`back`, and every other token leads on to `a`. -/
theorem scan_ends_unless_cyclic_of_back :
    let c : Credential := ⟨"arn:aws:iam::1:role/r", "eu", none, none, .empty⟩
    let source (back : String) : Answering := fun token =>
      .ok ⟨[], if token = some "a" then some back else some "a"⟩
    let p (back : String) (budget : Nat) : Propagator (List (Option String)) :=
      ⟨.arn, fun _ token => Timed.update fun calls => (source back token, calls ++ [token]),
        ⟨.direct, fun _ _ _ => return .ok ()⟩, .usual, fun _ => ⟨0, 0⟩, budget⟩
    let note (token : Option String) (calls : List (Option String)) := calls ++ [token]
    (∀ back token calls, ((p back 0).inventory c token).Answers calls (source back token)
      (note token calls)) ∧
    (∀ back token page next, source back token = .ok page → page.next = some next →
      next ∈ ({back, "a"} : Finset String)) ∧
    -- `a` and `b` lead to each other: a thousand calls are not enough
    (∃ asked, asked.length = 1000 ∧ ((p "b" 1000).scan c).RunsOn [] (noted note asked [])) ∧
    -- `a` leads to itself
    (∃ asked found, found.error = some (repeatedToken c.role "a") ∧
      ∀ budget, asked.length ≤ budget →
        ((p "a" budget).scan c).Answers [] found (noted note asked [])) := by
  intro c source p note
  have hserves (back : String) (token : Option String) (calls : List (Option String)) :
      ((p back 0).inventory c token).Answers calls (source back token) (note token calls) :=
    .update _ _
  have hfinite (back : String) (token : Option String) (page : Page) (next : String)
      (hanswer : source back token = .ok page) (hnext : page.next = some next) :
      next ∈ ({back, "a"} : Finset String) := by
    cases hanswer
    dsimp only at hnext
    split at hnext <;> cases hnext <;> simp
  have hleads (back : String) (token : Option String) (h : token ≠ some "a") :
      Leads (source back) token (some "a") :=
    ⟨⟨[], some "a"⟩, by simp [source, h], rfl, by simp, h⟩
  have hback (back : String) (h : back ≠ "a") : Leads (source back) (some "a") (some back) :=
    ⟨⟨[], some back⟩, by simp [source], rfl, by simp, by simpa using Ne.symm h⟩
  have hcyclic : Cyclic (source "b") :=
    ⟨some "a", .single (hleads "b" none (by simp)),
      .head (hback "b" (by decide)) (.single (hleads "b" (some "b") (by decide)))⟩
  refine ⟨hserves, hfinite, ?_, ?_⟩
  · obtain ⟨asked, hlength, hruns⟩ := (scan_ends_unless_cyclic (p "b" 0) c (source "b") note
      {"b", "a"} (hserves "b") (hfinite "b")).2.1 hcyclic 1000
    exact ⟨asked, hlength, hruns []⟩
  · obtain ⟨asked, found, herror, hscan⟩ := (scan_ends_unless_cyclic (p "a" 0) c (source "a") note
      {"a", "a"} (hserves "a") (hfinite "a")).2.2 "a" ⟨[], some "a"⟩
        (.single (hleads "a" none (by simp))) (by simp [source]) rfl
    exact ⟨asked, found, herror, fun budget hbudget => hscan budget hbudget []⟩

end GatewayDirectory.Sync
