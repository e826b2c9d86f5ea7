import GatewayDirectory.Decoding.Json
import GatewayDirectory.Entry
import GatewayDirectory.Proofs.Instant.RoundTrip
import GatewayDirectory.Proofs.Json.RoundTrip

/-!
# Entries and payloads as JSON

An entry or a payload is read back from the JSON text that is written for it, whatever characters
its texts hold and in either layout. An entry needs an instant that the calendar can date.
-/

namespace GatewayDirectory

open Decoding

/-! ## Decoding along an object -/

/-- What is read goes on to what is made of it. -/
@[simp] theorem Decoding.ok_bind {α β : Type} (a : α) (next : α → Except Decoding.Error β) :
    (Except.ok a >>= next) = next a := rfl

/-- What is decoded in two steps is decoded in both. -/
theorem Decoding.bind_eq_ok {α β : Type} {x : Except Decoding.Error α}
    {next : α → Except Decoding.Error β} {b : β} (h : (x >>= next) = .ok b) :
    ∃ a, x = .ok a ∧ next a = .ok b := by
  cases x with
  | error e => cases h
  | ok a => exact ⟨a, rfl, h⟩

/-- What a field must hold is read from what is given for it. -/
theorem Decoding.exists_of_required {V α : Type} {fs : Fields V} {record name : String}
    {size : Nat} {read : V → Except Decoding.Error α} {a : α}
    (h : fs.required record size name read = .ok a) :
    ∃ v, fs.find? name = some v ∧ read v = .ok a := by
  unfold Fields.required at h
  split at h
  · rename_i v hfind
    exact ⟨v, hfind, h⟩
  · split at h <;> cases h

/-- A value that is given is a value that is read. -/
@[simp] theorem Decoding.pure_eq_ok {α : Type} (a : α) :
    (pure a : Except Decoding.Error α) = .ok a := rfl

/-- A value that only had to be of its kind passes. -/
@[simp] theorem Decoding.discard_ok {α : Type} (a : α) :
    discard (Except.ok a : Except Decoding.Error α) = .ok () := rfl

namespace Json

/-- A text is read from a string. -/
@[simp] theorem string_string (s : String) : Decoding.string (Json.string s) = .ok s := rfl

/-- An optional text is there where a string is. -/
@[simp] theorem optionalString_string (s : String) :
    Decoding.optionalString (Json.string s) = .ok (some s) := rfl

/-- A number that is not negative is read as a count. -/
@[simp] theorem count_natCast (n : Nat) : Source.count (Json.number (.int n)) = .ok n := by
  simp [Source.count]

/-- The members of an object as the fields of a record. -/
def given (ms : List (String × Json)) : Fields Json :=
  ⟨ms.map fun (k, v) => (.ok k, v), none, false⟩

/-- A field is found under its name among the members, the first of that name if there are several.
-/
@[simp] theorem find?_given (ms : List (String × Json)) (name : String) :
    (given ms).find? name = (ms.find? (·.1 == name)).map (·.2) := by
  simp [given, Fields.find?, List.find?_map, Function.comp_def]

/-- The members of an object pass if no name stands twice and what is given for a known field is of
its kind. -/
theorem check_given {known : List (Decoding.Field Json)} {ms : List (String × Json)}
    {seen : List String}
    (hnodup : (ms.map (·.1)).Nodup) (hseen : ∀ m ∈ ms, m.1 ∉ seen)
    (hkinds : ∀ m ∈ ms, ∀ f, known.find? (·.name == m.1) = some f → f.check m.2 = .ok ()) :
    Fields.check known seen (given ms).members = .ok () := by
  induction ms generalizing seen with
  | nil => rfl
  | cons m ms ih =>
    obtain ⟨hm, hms⟩ := List.nodup_cons.1 hnodup
    obtain ⟨hunseen, hseen⟩ := List.forall_mem_cons.1 hseen
    obtain ⟨hkind, hkinds⟩ := List.forall_mem_cons.1 hkinds
    rw [given, List.map_cons, Fields.check, ok_bind]
    cases hfind : known.find? (·.name == m.1) with
    | none => exact ih hms hseen hkinds
    | some f =>
      -- only known names are remembered as seen; this one is, and no later member has it
      have hrest : ∀ x ∈ ms, x.1 ∉ m.1 :: seen := by
        intro x hx hmem
        rcases List.mem_cons.1 hmem with heq | hmem
        · exact hm (List.mem_map.2 ⟨x, hx, heq⟩)
        · exact hseen x hx hmem
      simp only [List.contains_eq_mem, hunseen, decide_false, Bool.false_eq_true, if_false,
        hkind f hfind, ok_bind]
      exact ih hms hrest hkinds

/-- **The fields of a record are the members of its object.** -/
theorem record_object {name : String} {known : List (Decoding.Field Json)}
    {ms : List (String × Json)}
    (hnodup : (ms.map (·.1)).Nodup)
    (hkinds : ∀ m ∈ ms, ∀ f, known.find? (·.name == m.1) = some f → f.check m.2 = .ok ()) :
    record name known (Json.object ms) = .ok (given ms) := by
  have hfields : Source.fields name (known.map (·.name)) (Json.object ms) = .ok (given ms) := rfl
  rw [record, hfields, ok_bind, check_given hnodup (by simp) hkinds]
  rfl

/-- What is written without blanks is decoded as the value that was written. -/
theorem decode_compact {α : Type} (read : Json → Except Decoding.Error α) {v : Json}
    (hv : v.Exact) : decode read (compact v).toUTF8 = read v := by
  rw [decode, read_compact hv]

/-- What is written over lines is decoded as the value that was written. -/
theorem decode_indented {α : Type} (read : Json → Except Decoding.Error α) {v : Json}
    (hv : v.Exact) : decode read (indented v).toUTF8 = read v := by
  rw [decode, read_indented hv]

section Lists

variable {α : Type} {write : α → Json} {read : Json → Except Decoding.Error α} {xs : List α}

/-- A list can be read back if what it holds can be. -/
theorem exact_array (h : ∀ x ∈ xs, (write x).Exact) : (array (xs.map write)).Exact := by
  rw [Exact]
  induction xs with
  | nil => exact trivial
  | cons x xs ih =>
    obtain ⟨hx, hxs⟩ := List.forall_mem_cons.1 h
    exact ⟨hx, ih hxs⟩

/-- **A list is read back** if what it holds is read back. -/
theorem list_array (h : ∀ x ∈ xs, read (write x) = .ok x) :
    Decoding.list read (array (xs.map write)) = .ok xs := by
  show (xs.map write).mapM read = .ok xs
  induction xs with
  | nil => rfl
  | cons x xs ih =>
    obtain ⟨hx, hxs⟩ := List.forall_mem_cons.1 h
    rw [List.map_cons, List.mapM_cons, hx, ih hxs]
    rfl

end Lists

end Json

/-- A member for an optional text can be read back, whether it is there or not. -/
theorem exactMembers_optionalMember (name : String) (value : Option String) :
    Json.ExactMembers (optionalMember name value) := by
  cases value <;> simp [optionalMember, Json.ExactMembers, Json.Exact]

/-! ## Payloads -/

/-- A payload is written with texts only, so it can be read back. -/
theorem Payload.exact_toJson (p : Payload) : p.toJson.Exact := by
  simp [toJson, Json.Exact, Json.ExactMembers, exactMembers_optionalMember]

/-- **A payload is read back.** -/
theorem Payload.decode_toJson (p : Payload) : decode p.toJson = .ok p := by
  obtain ⟨name, id, _ | token⟩ := p <;> rfl

/-! ## Updates and replies -/

/-- An update is written with texts only. -/
theorem TokenUpdate.exact_toJson (u : TokenUpdate) : u.toJson.Exact := by
  simp [toJson, Json.Exact, Json.ExactMembers, exactMembers_optionalMember]

/-- **An update is read back.** -/
theorem TokenUpdate.decode_toJson (u : TokenUpdate) : decode u.toJson = .ok u := by
  obtain ⟨token, _ | writeToken⟩ := u <;> rfl

/-- A reply is written with texts only. -/
theorem Reply.exact_toJson (r : Reply) : r.toJson.Exact := by
  simp [toJson, Json.Exact, Json.ExactMembers, exactMembers_optionalMember]

/-- **A reply is read back.** -/
theorem Reply.decode_toJson (r : Reply) : decode r.toJson = .ok r := by
  obtain ⟨name, id, _ | error⟩ := r <;> rfl

/-! ## Entries -/

namespace Entry

/-- An entry is written with texts and its counter, a word of 64 bits that the reader keeps. -/
theorem exact_toJson (e : Entry) : e.toJson.Exact := by
  have hcount : (e.changes : Int) < UInt64.size := by
    exact_mod_cast e.counter.toNat_lt
  have hnonneg : -0x8000000000000000 ≤ (e.changes : Int) := by omega
  simp only [toJson, Json.Exact, Json.ExactMembers, exactMembers_optionalMember, List.cons_append,
    List.nil_append, and_true, true_and]
  exact ⟨hnonneg, hcount⟩

/-- The time of an entry is read back from its text if a calendar can date it. -/
theorem readInstant_text {t : Instant} (h : t.Datable) :
    readInstant (Json.string t.text) = .ok t := by
  simp only [readInstant, Source.text, ok_bind]
  rw [Instant.read?_text h]

/-- **An entry is read back**, with its counter, its time and its token. -/
theorem decode_toJson {e : Entry} (h : e.lastUpdate.Datable) : decode e.toJson = .ok e := by
  have hinstant := readInstant_text h
  have hcounter : UInt64.ofNat e.changes = e.counter := UInt64.ofNat_toNat
  obtain ⟨name, id, counter, lastUpdate, token⟩ := e
  simp only at hinstant hcounter
  -- the record is opened; left are its fields, that no name stands twice, and that each is of its
  -- kind
  rw [decode, toJson, Json.record_object]
  · cases token with
    | none => simp [Fields.required, Fields.default, optionalMember, hinstant, hcounter]
    | some token => simp [Fields.required, Fields.default, optionalMember, hinstant, hcounter]
  · cases token with
    | none => simp [optionalMember]
    | some token => simp [optionalMember]
  · cases token with
    | none => simp [optionalMember, Field.string, hinstant]
    | some token => simp [optionalMember, Field.string, Field.optionalString, hinstant]

/-- An entry is read back from its document. -/
theorem decode_indented {e : Entry} (h : e.lastUpdate.Datable) :
    Json.decode decode (Json.indented e.toJson).toUTF8 = .ok e := by
  rw [Json.decode_indented decode e.exact_toJson, decode_toJson h]

/-- An instant that was read can be dated by a calendar. -/
theorem datable_of_readInstant {V : Type} [Source V] {v : V} {t : Instant}
    (h : readInstant v = .ok t) : t.Datable := by
  obtain ⟨text, -, h⟩ := bind_eq_ok h
  split at h
  · rename_i t' hread
    obtain rfl := Except.ok.inj h
    exact Instant.datable_of_read? hread
  · cases h

/-- **Whatever an entry is read from, its instant can be dated by a calendar.** -/
theorem datable_of_decode {V : Type} [Source V] {v : V} {e : Entry} (h : decode v = .ok e) :
    e.lastUpdate.Datable := by
  -- of all the fields only the time matters
  obtain ⟨fs, -, h⟩ := bind_eq_ok h
  obtain ⟨name, -, h⟩ := bind_eq_ok h
  obtain ⟨id, -, h⟩ := bind_eq_ok h
  obtain ⟨count, -, h⟩ := bind_eq_ok h
  obtain ⟨t, hinstant, h⟩ := bind_eq_ok h
  obtain ⟨token, -, h⟩ := bind_eq_ok h
  obtain rfl := Except.ok.inj h
  obtain ⟨v, -, hread⟩ := exists_of_required hinstant
  exact datable_of_readInstant hread

/-- **A list of entries is read back** from what is written for it without blanks. -/
theorem decode_compact_array {entries : List Entry} (h : ∀ e ∈ entries, e.lastUpdate.Datable) :
    Json.decode (list decode) (Json.compact (.array (entries.map toJson))).toUTF8 =
      .ok entries := by
  rw [Json.decode_compact _ (Json.exact_array fun e _ => e.exact_toJson)]
  exact Json.list_array fun e he => decode_toJson (h e he)

end Entry

end GatewayDirectory
