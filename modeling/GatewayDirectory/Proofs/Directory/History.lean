import GatewayDirectory.Directory.Store
import GatewayDirectory.Proofs.Text.Bytes
import Mathlib.Data.List.Induction

/-!
# The history of a directory

A store in memory is what its history says. `Store.run` answers the calls of a history in order, and
`Store.accepted` is the part of the history that succeeded. For a store that starts empty the entry
of a name is a fold of that part alone (`Records.run`): the last id, the number and the time of the
writes of an id, and the last token. A step keeps every name valid and equal to its key, and
every id not empty (`Store.Sound`).
-/

namespace GatewayDirectory

open Directory

/-- Calls, each with the time that the clock shows when it is made. -/
abbrev History := List (Instant × Call)

namespace Directory

/-- The writes of an id for a name among calls: when, and which id. -/
def idWrites (name : String) (calls : History) : List (Instant × String) :=
  calls.filterMap fun
    | (now, .put n id) | (now, .putAuthorized n id _) => if n = name then some (now, id) else none
    | _ => none

/-- The tokens bound to a name among calls. -/
def tokenWrites (name : String) (calls : History) : List String :=
  calls.filterMap fun
    | (_, .putToken n token) | (_, .putTokenAuthorized n token _) =>
      if n = name then some token else none
    | _ => none

/-- The call writes an id for a name. -/
def Call.Puts (c : Call) (name id : String) : Prop :=
  c = .put name id ∨ ∃ token, c = .putAuthorized name id token

/-- The call binds a token to a name. -/
def Call.Binds (c : Call) (name token : String) : Prop :=
  c = .putToken name token ∨ ∃ authorization, c = .putTokenAuthorized name token authorization

/-- The entry that writes of ids and of tokens amount to; none without a write of an id. -/
def entryOf (name : String) (writes : List (Instant × String)) (tokens : List String) :
    Option Entry :=
  writes.getLast?.map fun (now, id) =>
    ⟨name, id, UInt64.ofNat writes.length, now, tokens.getLast?⟩

section Writes

variable (name : String)

/-- The writes of ids among calls and later calls are those of both, in order. -/
theorem idWrites_append (calls more : History) :
    idWrites name (calls ++ more) = idWrites name calls ++ idWrites name more :=
  List.filterMap_append

/-- Likewise for the tokens that are bound. -/
theorem tokenWrites_append (calls more : History) :
    tokenWrites name (calls ++ more) = tokenWrites name calls ++ tokenWrites name more :=
  List.filterMap_append

/-- A further write of an id updates the entry, or creates it. Tokens before the first write of an
id would be lost, but there are none. -/
theorem entryOf_write {writes : List (Instant × String)} {tokens : List String} (now : Instant)
    (id : String) (h : writes = [] → tokens = []) :
    entryOf name (writes ++ [(now, id)]) tokens =
      some (match entryOf name writes tokens with
        | some e => e.update id now
        | none => .create name id now) := by
  cases hlast : writes.getLast? with
  | none =>
    have hw : writes = [] := by simpa using hlast
    subst hw
    simp [entryOf, h rfl, Entry.create]
  | some last => simp [entryOf, hlast, Entry.update, UInt64.ofNat_add]

/-- A further token is bound to the entry, if there is one. -/
theorem entryOf_bind (writes : List (Instant × String)) (tokens : List String) (token : String) :
    entryOf name writes (tokens ++ [token]) = (entryOf name writes tokens).map (·.bind token) := by
  simp [entryOf, Entry.bind, Function.comp_def]

/-- There is an entry once an id was written; tokens alone make none. -/
theorem entryOf_eq_none_iff {writes : List (Instant × String)} {tokens : List String} :
    entryOf name writes tokens = none ↔ writes = [] := by
  simp [entryOf]

end Writes

end Directory

namespace Store

/-! ## One call -/

section Call

variable {s : Store} {now : Instant} {name id token : String}

/-- A name is found with the entry that is held for it. -/
theorem get_eq_ok_iff {e : Entry} : s.get name = .ok e ↔ s.get? name = some e := by
  unfold get
  split <;> simp_all

/-- A write of an id succeeds on a valid name and an id that is not empty. -/
theorem put_of_valid (hname : isValidName name = true) (hid : id ≠ "") :
    s.put now name id = (.ok (s.written now name id), s.insert name (s.written now name id)) := by
  simp [put, hname, hid]

/-- What is written is the id. -/
theorem id_written (s : Store) (now : Instant) (name id : String) :
    (s.written now name id).id = id := by
  unfold written
  split <;> rfl

/-- A name that is not valid or an empty id is refused before anything is written. -/
theorem put_of_not_valid (s : Store) (now : Instant) (h : ¬ (isValidName name = true ∧ id ≠ "")) :
    ∃ e, s.put now name id = (.error e, s) := by
  unfold put
  split
  · exact ⟨_, rfl⟩
  · split
    · exact ⟨_, rfl⟩
    · simp_all

/-- A token is bound to an entry that is there. -/
theorem putToken_of_some {e : Entry} (h : s.get? name = some e) :
    s.putToken name token = (.ok (), s.insert name (e.bind token)) := by
  simp [putToken, h]

/-- No entry is made for a token alone. -/
theorem putToken_of_none (h : s.get? name = none) :
    s.putToken name token = (.error (.notFound name), s) := by
  simp [putToken, h]

/-- **A call that fails changes nothing.** -/
theorem answer_of_error {c : Call} {e : Error} (h : (s.answer now c).1 = .error e) :
    (s.answer now c).2 = s := by
  cases c with
  | get | dump => rfl
  | put n id | putAuthorized n id =>
    -- both kinds of a write of an id check name and id; the token that is given along is not looked
    -- at
    by_cases hv : isValidName n = true ∧ id ≠ ""
    · simp [answer, put_of_valid hv.1 hv.2] at h
    · obtain ⟨e', he⟩ := put_of_not_valid s now hv
      simp [answer, he]
  | putToken n t | putTokenAuthorized n t =>
    cases hn : s.get? n with
    | none => simp [answer, putToken_of_none hn]
    | some e' => simp [answer, putToken_of_some hn] at h

end Call

/-! ## Histories -/

/-- The store that a history leaves. -/
def run (s : Store) : History → Store
  | [] => s
  | (now, c) :: rest => run (s.answer now c).2 rest

/-- The calls of a history that succeed. -/
def accepted (s : Store) : History → History
  | [] => []
  | (now, c) :: rest =>
    if (s.answer now c).1.isOk then (now, c) :: accepted (s.answer now c).2 rest
    else accepted (s.answer now c).2 rest

/-- Calls and later calls leave what the later ones leave of what the first ones left. -/
theorem run_append (s : Store) (calls more : History) :
    s.run (calls ++ more) = (s.run calls).run more := by
  induction calls generalizing s with
  | nil => rfl
  | cons call calls ih => exact ih _

/-- Which of the later calls succeed is seen from where the first ones left the store. -/
theorem accepted_append (s : Store) (calls more : History) :
    s.accepted (calls ++ more) = s.accepted calls ++ (s.run calls).accepted more := by
  induction calls generalizing s with
  | nil => rfl
  | cons call calls ih =>
    obtain ⟨now, c⟩ := call
    simp only [List.cons_append, accepted, run]
    split
    · rw [ih, List.cons_append]
    · rw [ih]

/-- A call that succeeds is part of the history that counts. -/
theorem accepted_of_ok {s : Store} {now : Instant} {c : Call} {a : c.Answer}
    (h : (s.answer now c).1 = .ok a) : s.accepted [(now, c)] = [(now, c)] := by
  simp [accepted, h, Except.isOk, Except.toBool]

/-- A call that fails is none. -/
theorem accepted_of_error {s : Store} {now : Instant} {c : Call} {e : Error}
    (h : (s.answer now c).1 = .error e) : s.accepted [(now, c)] = [] := by
  simp [accepted, h, Except.isOk, Except.toBool]

/-! ## What every entry satisfies -/

/-- An entry as a directory may hold it for a name: it carries that name, which is valid, and an id
that is not empty. -/
structure Fits (name : String) (e : Entry) : Prop where
  name_eq : e.name = name
  valid : isValidName name = true
  id_ne : e.id ≠ ""

/-- Every entry fits the name that it is held for. -/
def Sound (s : Store) : Prop := ∀ name e, s.get? name = some e → Fits name e

/-- A store without entries is sound. -/
theorem sound_empty : Sound .empty := by
  intro name e h
  simp at h

/-- An entry that fits its name may be put into a sound store. -/
theorem Sound.insert {s : Store} (hs : s.Sound) {name : String} {e : Entry} (he : Fits name e) :
    Sound (s.insert name e) := by
  intro other e' h
  rw [Table.get?_insert] at h
  split at h
  · rename_i heq
    cases h
    exact heq ▸ he
  · exact hs other e' h

/-- What is written for a valid name fits it, whether the entry is new or updated. -/
theorem Sound.fits_written {s : Store} (hs : s.Sound) (now : Instant) {name id : String}
    (hname : isValidName name = true) (hid : id ≠ "") : Fits name (s.written now name id) := by
  unfold Store.written
  split
  · rename_i e he
    exact ⟨(hs name e he).name_eq, hname, hid⟩
  · exact ⟨rfl, hname, hid⟩

/-- One call keeps a store sound. -/
theorem Sound.answer {s : Store} (hs : s.Sound) (now : Instant) (c : Call) :
    Sound (s.answer now c).2 := by
  cases c with
  | get | dump => exact hs
  | put n id | putAuthorized n id =>
    by_cases hv : isValidName n = true ∧ id ≠ ""
    · simp only [Store.answer, put_of_valid hv.1 hv.2]
      exact hs.insert (hs.fits_written now hv.1 hv.2)
    · obtain ⟨e, he⟩ := put_of_not_valid s now hv
      simp only [Store.answer, he]
      exact hs
  | putToken n t | putTokenAuthorized n t =>
    cases hn : s.get? n with
    | none =>
      simp only [Store.answer, putToken_of_none hn]
      exact hs
    | some e =>
      simp only [Store.answer, putToken_of_some hn]
      have he := hs n e hn
      exact hs.insert ⟨he.name_eq, he.valid, he.id_ne⟩

/-- A whole history keeps a store sound. -/
theorem Sound.run {s : Store} (hs : s.Sound) (calls : History) : Sound (s.run calls) := by
  induction calls generalizing s with
  | nil => exact hs
  | cons call calls ih => exact ih (hs.answer call.1 call.2)

/-- A store that some calls on an empty one leave. -/
def Reachable (s : Store) : Prop := ∃ calls, run .empty calls = s

/-- Calls on an empty store leave nothing but what fits. -/
theorem Reachable.sound {s : Store} (hs : s.Reachable) : s.Sound := by
  obtain ⟨calls, rfl⟩ := hs
  exact sound_empty.run calls

/-- One more call leads to a store that is reachable as well. -/
theorem Reachable.answer {s : Store} (hs : s.Reachable) (now : Instant) (c : Call) :
    Reachable (s.answer now c).2 := by
  obtain ⟨calls, rfl⟩ := hs
  exact ⟨calls ++ [(now, c)], run_append _ _ _⟩

/-- The names of a sound store are ASCII. -/
theorem isAscii_of_isValidName {name : String} (h : isValidName name = true) :
    Text.IsAscii name := by
  intro c hc
  have hchar := (isValidName_iff.1 h).2.2 c hc
  simp only [isNameChar, Bool.or_eq_true, beq_iff_eq] at hchar
  rcases hchar with (((h | rfl) | rfl) | rfl) | rfl
  · exact Text.toNat_lt_of_isAlphanum h
  all_goals decide

/-! ## The entries as a fold of the history -/

/-- The store holds for every name what the successful calls `done` amount to. A token is bound only
after a write of an id, so that none is lost when an entry is created. -/
structure Records (s : Store) (done : History) : Prop where
  entry : ∀ name, s.get? name = entryOf name (idWrites name done) (tokenWrites name done)
  tokens : ∀ name, idWrites name done = [] → tokenWrites name done = []

/-- Before any call there is nothing to record. -/
theorem records_empty : Records .empty [] := ⟨fun _ => rfl, fun _ _ => rfl⟩

namespace Records

variable {s : Store} {done : History} {now : Instant} {name id token : String}

/-- A call that is no write adds nothing to the record. -/
theorem keep (h : s.Records done) {call : Instant × Call} (hid : ∀ name, idWrites name [call] = [])
    (htoken : ∀ name, tokenWrites name [call] = []) : s.Records (done ++ [call]) := by
  constructor
  · intro name
    rw [idWrites_append, tokenWrites_append, hid, htoken, List.append_nil, List.append_nil]
    exact h.entry name
  · intro name
    rw [idWrites_append, tokenWrites_append, hid, htoken, List.append_nil, List.append_nil]
    exact h.tokens name

/-- A write of an id extends the record of its name. -/
theorem write (h : s.Records done) {call : Instant × Call}
    (hid : ∀ other, idWrites other [call] = if name = other then [(now, id)] else [])
    (htoken : ∀ other, tokenWrites other [call] = []) :
    Records (s.insert name (s.written now name id)) (done ++ [call]) := by
  constructor
  · intro other
    rw [Table.get?_insert, idWrites_append, tokenWrites_append, hid, htoken, List.append_nil]
    by_cases heq : name = other
    · -- the entry that is updated, or created, is the one that the record amounts to
      subst heq
      rw [if_pos rfl, if_pos rfl, entryOf_write name now id (h.tokens name), ← h.entry name]
      rfl
    · rw [if_neg heq, if_neg heq, List.append_nil]
      exact h.entry other
  · intro other hnone
    rw [idWrites_append, List.append_eq_nil_iff] at hnone
    rw [tokenWrites_append, htoken, List.append_nil]
    exact h.tokens other hnone.1

/-- A write of a token extends the record of its name, for which an id was written before. -/
theorem bind (h : s.Records done) {call : Instant × Call} {e : Entry} (he : s.get? name = some e)
    (hid : ∀ other, idWrites other [call] = [])
    (htoken : ∀ other, tokenWrites other [call] = if name = other then [token] else []) :
    Records (s.insert name (e.bind token)) (done ++ [call]) := by
  constructor
  · intro other
    rw [Table.get?_insert, idWrites_append, tokenWrites_append, hid, htoken, List.append_nil]
    by_cases heq : name = other
    · subst heq
      rw [if_pos rfl, if_pos rfl, entryOf_bind, ← h.entry name, he]
      rfl
    · rw [if_neg heq, if_neg heq, List.append_nil]
      exact h.entry other
  · intro other hnone
    rw [idWrites_append, hid, List.append_nil] at hnone
    rw [tokenWrites_append, htoken, h.tokens other hnone]
    split
    · rename_i heq
      -- the entry that the token is bound to would be there without a write of an id
      subst heq
      rw [h.entry name, (entryOf_eq_none_iff name).2 hnone] at he
      cases he
    · rfl

/-- One call extends the record by itself if it succeeds. -/
theorem answer (h : s.Records done) (now : Instant) (c : Call) :
    Records (s.answer now c).2 (done ++ s.accepted [(now, c)]) := by
  -- a call that fails neither counts nor changes anything, so only the others are taken apart
  cases hanswer : (s.answer now c).1 with
  | error e =>
    rw [accepted_of_error hanswer, answer_of_error hanswer, List.append_nil]
    exact h
  | ok a =>
    rw [accepted_of_ok hanswer]
    cases c with
    | get n | dump => exact h.keep (fun _ => rfl) (fun _ => rfl)
    | put n id | putAuthorized n id =>
      have hv : isValidName n = true ∧ id ≠ "" := by
        by_contra hv
        obtain ⟨e, he⟩ := put_of_not_valid s now hv
        simp [Store.answer, he] at hanswer
      rw [Store.answer, put_of_valid hv.1 hv.2]
      refine h.write (fun other => ?_) (fun _ => rfl)
      simp only [idWrites, List.filterMap_cons, List.filterMap_nil]
      split <;> simp_all
    | putToken n t | putTokenAuthorized n t =>
      cases hn : s.get? n with
      | none => simp [Store.answer, putToken_of_none hn] at hanswer
      | some e =>
        rw [Store.answer, putToken_of_some hn]
        refine h.bind hn (fun _ => rfl) (fun other => ?_)
        simp only [tokenWrites, List.filterMap_cons, List.filterMap_nil]
        split <;> simp_all

/-- **A whole history extends the record by the calls that succeed.** -/
theorem run (h : s.Records done) (calls : History) :
    Records (s.run calls) (done ++ s.accepted calls) := by
  -- the record grows at its end, so the last call is taken off and not the first
  induction calls using List.reverseRecOn with
  | nil =>
    rw [show s.accepted [] = [] from rfl, List.append_nil]
    exact h
  | append_singleton calls call ih =>
    rw [run_append, accepted_append, ← List.append_assoc]
    exact ih.answer call.1 call.2

end Records

/-! ## What each kind of write leaves alone -/

/-- A write of an id keeps every token. -/
theorem token_put (s : Store) (now : Instant) (name id other : String) :
    ((s.put now name id).2.get? other).bind (·.token) = (s.get? other).bind (·.token) := by
  by_cases hv : isValidName name = true ∧ id ≠ ""
  · rw [put_of_valid hv.1 hv.2, Table.get?_insert]
    split
    · rename_i heq
      subst heq
      cases hname : s.get? name with
      | none => simp [written, hname, Entry.create]
      | some e => simp [written, hname, Entry.update]
    · rfl
  · obtain ⟨e, he⟩ := put_of_not_valid s now hv
    rw [he]

/-- A write of a token keeps everything else of every entry. -/
theorem rest_putToken (s : Store) (name token other : String) :
    ((s.putToken name token).2.get? other).map (fun e => (e.name, e.id, e.counter, e.lastUpdate)) =
      (s.get? other).map (fun e => (e.name, e.id, e.counter, e.lastUpdate)) := by
  cases hname : s.get? name with
  | none => rw [putToken_of_none hname]
  | some e =>
    rw [putToken_of_some hname, Table.get?_insert]
    split
    · rename_i heq
      subst heq
      simp [hname, Entry.bind]
    · rfl

/-- An id that a store holds after a call was there before, unless the call wrote it. -/
theorem id_answer {s : Store} {now : Instant} {c : Call} {name id : String}
    (h : ((s.answer now c).2.get? name).map (·.id) = some id) :
    (s.get? name).map (·.id) = some id ∨ (c.Puts name id ∧ ∃ a, (s.answer now c).1 = .ok a) := by
  -- the two writes of an id do the same to the entries, and so do the two that bind a token
  have hput {n i : String} (h : ((s.put now n i).2.get? name).map (·.id) = some id) :
      (s.get? name).map (·.id) = some id ∨
        (n = name ∧ i = id ∧ ∃ e, (s.put now n i).1 = .ok e) := by
    by_cases hv : isValidName n = true ∧ i ≠ ""
    · rw [put_of_valid hv.1 hv.2] at h ⊢
      rw [Table.get?_insert] at h
      split at h
      · rename_i heq
        have hid := s.id_written now n i
        rw [Option.map_some, hid] at h
        exact .inr ⟨heq, Option.some.inj h, _, rfl⟩
      · exact .inl h
    · obtain ⟨e, he⟩ := put_of_not_valid s now hv
      rw [he] at h
      exact .inl h
  have hbind {n token : String} (h : ((s.putToken n token).2.get? name).map (·.id) = some id) :
      (s.get? name).map (·.id) = some id := by
    have hrest := congrArg (Option.map (·.2.1)) (rest_putToken s n token name)
    rw [Option.map_map, Option.map_map] at hrest
    rw [← h]
    exact hrest.symm
  cases c with
  | get | dump => exact .inl h
  | put n i =>
    exact (hput h).imp_right fun ⟨hn, hi, hok⟩ => ⟨.inl (by rw [hn, hi]), hok⟩
  | putAuthorized n i token =>
    exact (hput h).imp_right fun ⟨hn, hi, hok⟩ => ⟨.inr ⟨token, by rw [hn, hi]⟩, hok⟩
  | putToken n token => exact .inl (hbind h)
  | putTokenAuthorized n token authorization => exact .inl (hbind h)

/-- A token that a store holds after a call was there before, unless the call bound it. -/
theorem token_answer {s : Store} {now : Instant} {c : Call} {name : String}
    (h : ∀ token, ¬ c.Binds name token) :
    ((s.answer now c).2.get? name).bind (·.token) = (s.get? name).bind (·.token) := by
  -- a token for another name leaves this one alone
  have hbind {n token : String} (hne : n ≠ name) :
      ((s.putToken n token).2.get? name).bind (·.token) = (s.get? name).bind (·.token) := by
    cases hn : s.get? n with
    | none => rw [putToken_of_none hn]
    | some e => rw [putToken_of_some hn, Table.get?_insert, if_neg hne]
  cases c with
  | get | dump => rfl
  | put n i | putAuthorized n i => exact token_put s now n i name
  | putToken n token => exact hbind fun hn => h token (.inl (by rw [hn]))
  | putTokenAuthorized n token authorization =>
    exact hbind fun hn => h token (.inr ⟨authorization, by rw [hn]⟩)

/-! ## Every entry once -/

/-- The list of entries holds each under its own name, as a sound store has no other. -/
theorem Sound.mem_dump {s : Store} (hs : s.Sound) {e : Entry} :
    e ∈ s.dump ↔ s.get? e.name = some e := by
  simp only [dump, Table.values, List.mem_map]
  constructor
  · rintro ⟨⟨name, e'⟩, hmem, rfl⟩
    have hget := Table.mem_toList_iff.1 hmem
    rw [(hs name e' hget).name_eq]
    exact hget
  · intro h
    exact ⟨(e.name, e), Table.mem_toList_iff.2 h, rfl⟩

/-- The names that a sound store lists strictly increase. -/
theorem Sound.dump_sorted {s : Store} (hs : s.Sound) :
    s.dump.Pairwise fun a b => a.name < b.name := by
  simp only [dump, Table.values, List.pairwise_map]
  refine s.sorted.imp_of_mem fun {x y} hx hy hlt => ?_
  rw [(hs x.1 x.2 (Table.mem_toList_iff.1 hx)).name_eq,
    (hs y.1 y.2 (Table.mem_toList_iff.1 hy)).name_eq]
  exact hlt

/-- The names increase byte by byte. -/
theorem Sound.dump_increasing {s : Store} (hs : s.Sound) :
    s.dump.Pairwise fun a b => a.name.toUTF8.toList < b.name.toUTF8.toList := by
  refine hs.dump_sorted.imp_of_mem fun {a b} ha hb hlt => ?_
  -- valid names are ASCII, and there the order of characters is that of bytes
  have hascii {e : Entry} (he : e ∈ s.dump) : Text.IsAscii e.name :=
    isAscii_of_isValidName (hs e.name e (hs.mem_dump.1 he)).valid
  exact Text.bytes_lt_of_lt (hascii ha) (hascii hb) hlt

/-! ## The law -/

/-- An entry that tells the history of its name: the time and the id of the last write of an id, how
many there were, and the last token. The counter is a word of 64 bits, so it starts again at zero
after the last number that the word can hold. -/
structure Tells (name : String) (done : History) (e : Entry) : Prop where
  name_eq : e.name = name
  last_write : (idWrites name done).getLast? = some (e.lastUpdate, e.id)
  counter_eq : e.counter = UInt64.ofNat (idWrites name done).length
  changes_eq : (idWrites name done).length < UInt64.size →
    e.changes = (idWrites name done).length
  token_eq : e.token = (tokenWrites name done).getLast?

/-- What a record amounts to for a name tells its history. -/
theorem Records.tells {s : Store} {done : History} (h : s.Records done) {name : String} {e : Entry}
    (he : s.get? name = some e) : Tells name done e := by
  rw [h.entry name, entryOf, Option.map_eq_some_iff] at he
  obtain ⟨⟨now, id⟩, hlast, rfl⟩ := he
  refine ⟨rfl, hlast, rfl, fun hsmall => ?_, rfl⟩
  -- the counter has not started again
  simp only [Entry.changes, UInt64.toNat_ofNat']
  exact Nat.mod_eq_of_lt hsmall

/-- **A directory in memory tells its history.** After any calls on a store that was empty, a name
without a successful write of an id is not found, and every other name has an entry that tells the
successful calls for it. A further write of an id leaves all tokens alone and a write of a token
leaves all else alone; the list of entries holds each of them once, by increasing name; names are
valid and ids not empty; and a call that fails changes nothing. -/
theorem run_tells_history (calls : History) :
    let s := run .empty calls
    let done := accepted .empty calls
    (∀ name,
      (idWrites name done = [] ∧ s.get name = .error (.notFound name)) ∨
      (idWrites name done ≠ [] ∧ ∃ e, s.get name = .ok e ∧ Tells name done e)) ∧
    (∀ now name id other,
      ((s.put now name id).2.get? other).bind (·.token) = (s.get? other).bind (·.token)) ∧
    (∀ name token other,
      ((s.putToken name token).2.get? other).map
          (fun e => (e.name, e.id, e.counter, e.lastUpdate)) =
        (s.get? other).map (fun e => (e.name, e.id, e.counter, e.lastUpdate))) ∧
    (∀ e, e ∈ s.dump ↔ s.get e.name = .ok e) ∧
    s.dump.Pairwise (fun a b => a.name.toUTF8.toList < b.name.toUTF8.toList) ∧
    (∀ name e, s.get name = .ok e → isValidName name = true ∧ e.id ≠ "") ∧
    (∀ now c e, (s.answer now c).1 = .error e → (s.answer now c).2 = s) := by
  intro s done
  have hrecords : s.Records done := records_empty.run calls
  have hsound : s.Sound := sound_empty.run calls
  refine ⟨fun name => ?_, token_put s, rest_putToken s, fun e => ?_, hsound.dump_increasing,
    fun name e he => ?_, fun now c e => answer_of_error⟩
  · cases hget : s.get? name with
    | none =>
      refine .inl ⟨?_, by simp [get, hget]⟩
      rwa [hrecords.entry name, entryOf_eq_none_iff] at hget
    | some e =>
      refine .inr ⟨fun hnone => ?_, e, by simp [get, hget], hrecords.tells hget⟩
      rw [hrecords.entry name, (entryOf_eq_none_iff name).2 hnone] at hget
      cases hget
  · rw [hsound.mem_dump, get_eq_ok_iff]
  · have hfits := hsound name e (get_eq_ok_iff.1 he)
    exact ⟨hfits.valid, hfits.id_ne⟩

end Store

end GatewayDirectory
