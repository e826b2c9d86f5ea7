import GatewayDirectory.Proofs.Sync.Contacts
import GatewayDirectory.Proofs.Sync.Listing

/-!
# The pages of a listing cover it

To read an inventory is to follow the tokens of its pages to the last one (`Reading`), without a
look at whether a token comes again. A walk that ends without an error is such a reading
(`Walk.reading`), and there is one reading at most (`Reading.unique`). The pages of a listing are
read from any token that spells an offset, and hold the items from there on, each once; a scan reads
them from the beginning (`pages_cover_listing`).
-/

namespace GatewayDirectory.Sync

/-- The pages from one token on, read to the last one: the tokens that are asked for, and the items
of the pages, in order. -/
inductive Reading (answer : Answering) :
    Option String → List (Option String) → List Item → Prop
  | last {token : Option String} {page : Page} (hanswer : answer token = .ok page)
    (hnext : page.next = none) : Reading answer token [token] page.items
  | more {token : Option String} {page : Page} {next : String} {asked : List (Option String)}
    {items : List Item} (hanswer : answer token = .ok page) (hnext : page.next = some next)
    (rest : Reading answer (some next) asked items) :
    Reading answer token (token :: asked) (page.items ++ items)

/-- To read the pages from one token on takes `calls` calls, no two of them with one token, and
gives exactly those items. -/
def ReadsExactly (answer : Answering) (token : Option String) (calls : Nat) (items : List Item) :
    Prop :=
  ∃ asked, asked.length = calls ∧ asked.Nodup ∧
    ∀ asked' items', Reading answer token asked' items' ↔ asked' = asked ∧ items' = items

section Readings

variable {role : String} {answer : Answering} {token : Option String}
  {asked asked' : List (Option String)} {items items' : List Item} {found : Propagator.Scan}

/-- **There is one reading from a token at most.** -/
theorem Reading.unique (h : Reading answer token asked items)
    (h' : Reading answer token asked' items') : asked' = asked ∧ items' = items := by
  induction h generalizing asked' items' with
  | @last token page hanswer hnext =>
    cases h' with
    | last hanswer' hnext' =>
      cases hanswer.symm.trans hanswer'
      exact ⟨rfl, rfl⟩
    | more hanswer' hnext' rest' =>
      cases hanswer.symm.trans hanswer'
      cases hnext.symm.trans hnext'
  | @more token page next asked items hanswer hnext rest ih =>
    cases h' with
    | last hanswer' hnext' =>
      cases hanswer.symm.trans hanswer'
      cases hnext.symm.trans hnext'
    | more hanswer' hnext' rest' =>
      cases hanswer.symm.trans hanswer'
      cases hnext.symm.trans hnext'
      obtain ⟨rfl, rfl⟩ := ih rest'
      exact ⟨rfl, rfl⟩

/-- A walk that ends without an error reads the pages to the last one. -/
theorem Walk.reading (h : Walk role answer token asked found) (hfull : found.error = none) :
    Reading answer token asked found.items := by
  induction h with
  | failed hanswer => cases hfull
  | repeated hanswer hnext => cases hfull
  | last hanswer hnext => exact .last hanswer hnext
  | more hanswer hnext hne rest ih => exact .more hanswer hnext (ih hfull)

/-- A walk without an error is all that can be read. -/
theorem Walk.readsExactly (h : Walk role answer token asked ⟨items, none⟩) :
    ReadsExactly answer token asked.length items := by
  have hreading : Reading answer token asked items := h.reading rfl
  refine ⟨asked, rfl, h.nodup, fun asked' items' => ⟨hreading.unique, ?_⟩⟩
  rintro ⟨rfl, rfl⟩
  exact hreading

end Readings

/-! ## Noted scans -/

section Noted

variable {σ : Type} {p : Propagator σ} {c : Credential} {l : Listing}

/-- Each call for a page of a listing is noted and answered at once. -/
theorem serves_noted (hinventory : p.inventory = l.inventory) :
    Serves p.noted c (l.page c.role) fun token ledger =>
      ⟨ledger.contacts ++ [.page c token], ledger.outside⟩ := by
  intro token ledger time
  show ∃ events, (Ledger.noting (.page c token) (p.inventory c token)).run time ledger = _
  rw [hinventory]
  exact ⟨[], rfl⟩

/-- What is noted of some calls are these calls. -/
theorem noted_pages (asked : List (Option String)) (ledger : Ledger σ) :
    noted (fun token ledger => ⟨ledger.contacts ++ [.page c token], ledger.outside⟩) asked ledger =
      ⟨ledger.contacts ++ asked.map (.page c), ledger.outside⟩ := by
  induction asked generalizing ledger with
  | nil => simp [noted]
  | cons token asked ih =>
    show noted _ asked _ = _
    rw [ih, List.map_cons, List.append_assoc]
    rfl

end Noted

/-- **The pages of a listing cover it.** Let a listing be served in pages of any size, zero counting
as one, where the offset of every item of the role has 64 bits. To read its pages from the beginning
takes one call for each page, or one for an empty list, no two of them with one token, and gives the
items of the role in order. A scan makes just these calls, and so does not end for a token that
comes again, but without an error. To read on from any token that spells an offset gives the items
without those before it. Every other token is refused. -/
theorem pages_cover_listing (l : Listing) (size : Nat) (role : String)
    (hsmall : (l.itemsOf role).length ≤ UInt64.size) :
    let served := l.withPageSize size
    let items := l.itemsOf role
    let calls (n : Nat) := max 1 (n ⌈/⌉ max size 1)
    ReadsExactly (served.page role) none (calls items.length) items ∧
    (∀ {σ : Type} (p : Propagator σ) (c : Credential), p.inventory = served.inventory →
      c.role = role → calls items.length ≤ p.pageBudget →
      ∃ asked, Reading (served.page role) none asked items ∧ ∀ t s,
        (p.noted.scan c).Ends t ⟨[], s⟩ ⟨items, none⟩ t ⟨asked.map (.page c), s⟩) ∧
    (∀ token offset, Listing.SpellsOffset token offset →
      ReadsExactly (served.page role) (some token) (calls (items.length - offset))
        (items.drop offset)) ∧
    ∀ token, (∀ offset, ¬ Listing.SpellsOffset token offset) → served.page role (some token) =
      .error (.page role ("invalid page token " ++ Text.quoted token)) := by
  intro served items calls
  have hsize : 0 < served.pageSize := Nat.lt_of_lt_of_le Nat.zero_lt_one (Nat.le_max_right size 1)
  have hfirst : Listing.start? none = some 0 := rfl
  obtain ⟨asked, hlength, hwalk⟩ := Listing.exists_walk_from (l := served) hsize hsmall hfirst
  refine ⟨?_, ?_, ?_, ?_⟩
  · have hreads := hwalk.readsExactly
    rw [hlength] at hreads
    exact hreads
  · intro σ p c hinventory hrole hbudget
    subst hrole
    refine ⟨asked, hwalk.reading rfl, fun t s => ?_⟩
    have henough : asked.length ≤ p.pageBudget := hlength ▸ hbudget
    have hscan := scanFrom_of_walk (serves_noted hinventory) hwalk henough ⟨[], s⟩
    rw [noted_pages] at hscan
    exact hscan.ends t
  · intro token offset hspells
    have hstart : Listing.start? (some token) = some offset := Listing.offset?_eq_some_iff.2 hspells
    obtain ⟨later, hlater, hrest⟩ := Listing.exists_walk_from (l := served) hsize hsmall hstart
    have hreads := hrest.readsExactly
    rw [hlater] at hreads
    exact hreads
  · intro token hnone
    have hunread : Listing.offset? token = none :=
      Option.eq_none_iff_forall_ne_some.2 fun offset h =>
        hnone offset (Listing.offset?_eq_some_iff.1 h)
    simp only [Listing.page, hunread]

/-- Four items in pages of two and, if the size is given as zero, of one. -/
theorem pages_cover_listing_of_four :
    let items : List Item := [⟨"a", "1"⟩, ⟨"b", "2"⟩, ⟨"c", "3"⟩, ⟨"d", "4"⟩]
    let l : Listing := .ofTable (.ofList [("r", items)])
    let c : Credential := ⟨"r", "eu", none, none, .empty⟩
    let p : Propagator Unit :=
      ⟨.arn, (l.withPageSize 2).inventory, ⟨.direct, fun _ _ _ => return .ok ()⟩, .usual,
        fun _ => ⟨0, 0⟩, 2⟩
    let calls (size n : Nat) := max 1 (n ⌈/⌉ max size 1)
    (calls 0 4 = 4 ∧ calls 2 4 = 2 ∧ calls 2 3 = 2) ∧ (l.itemsOf "r").length ≤ UInt64.size ∧
    ReadsExactly ((l.withPageSize 0).page "r") none (calls 0 4) items ∧
    ReadsExactly ((l.withPageSize 2).page "r") none (calls 2 4) items ∧
    (∃ asked, Reading ((l.withPageSize 2).page "r") none asked items ∧ ∀ t s,
      (p.noted.scan c).Ends t ⟨[], s⟩ ⟨items, none⟩ t ⟨asked.map (.page c), s⟩) ∧
    ReadsExactly ((l.withPageSize 2).page "r") (some "+1") (calls 2 3) (items.drop 1) ∧
    (l.withPageSize 2).page "r" (some "2b") =
      .error (.page "r" ("invalid page token " ++ Text.quoted "2b")) := by
  intro items l c p calls
  have hcalls : calls 0 4 = 4 ∧ calls 2 4 = 2 ∧ calls 2 3 = 2 := by decide +kernel
  have hitems : l.itemsOf "r" = items := by decide +kernel
  have hsmall : (l.itemsOf "r").length ≤ UInt64.size := by
    rw [hitems]
    decide
  obtain ⟨hones, -⟩ := pages_cover_listing l 0 "r" hsmall
  obtain ⟨htwos, hscan, hlater, hother⟩ := pages_cover_listing l 2 "r" hsmall
  rw [hitems] at hones htwos
  simp only [hitems] at hscan hlater
  have hspells : Listing.SpellsOffset "+1" 1 :=
    Listing.offset?_eq_some_iff.1 (by decide +kernel)
  have hunread : Listing.offset? "2b" = none := by decide +kernel
  refine ⟨hcalls, hsmall, hones, htwos, hscan p c rfl rfl (by decide +kernel),
    hlater "+1" 1 hspells, ?_⟩
  refine hother "2b" fun offset h => ?_
  rw [Listing.offset?_eq_some_iff.2 h] at hunread
  cases hunread

end GatewayDirectory.Sync
